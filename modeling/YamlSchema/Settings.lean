import YamlSchema.Files.System
import YamlSchema.Text.Blank
import YamlSchema.Yaml.Decode

/-!
# Settings of a run

`Settings` says which files are schemas, which are targets, and which are neither.  They come from a YAML file, in which
a missing key keeps its default, and are then overridden by what the caller asks for: a list that is not empty takes the
place of the list that was set.
-/

namespace YamlSchema

structure Settings where
  /-- Glob patterns of schema documents. -/
  schemaPatterns : List String := ["**/*.schema.yml", "**/*.schema.yaml"]
  /-- Glob patterns of target documents. -/
  targetPatterns : List String := ["**/*.yml", "**/*.yaml"]
  /-- Glob patterns of files that are neither. -/
  excludePatterns : List String := []
  /-- Whether to stop when the schemas are loaded. -/
  schemasOnly : Bool := false
  deriving DecidableEq, Repr

namespace Settings

/-- What a caller asks for in place of what is set. -/
structure Overrides where
  schemas : List String := []
  targets : List String := []
  exclude : List String := []
  schemasOnly : Bool := false
  deriving DecidableEq, Repr

private def orElse (asked set : List String) : List String := if asked.isEmpty then set else asked

def override (s : Settings) (o : Overrides) : Settings :=
  ⟨orElse o.schemas s.schemaPatterns, orElse o.targets s.targetPatterns, orElse o.exclude s.excludePatterns,
    o.schemasOnly || s.schemasOnly⟩

/-! ### Keys -/

inductive Field where
  | schemaPatterns
  | targetPatterns
  | excludePatterns
  | schemasOnly
  deriving DecidableEq, Repr

namespace Field

def all : List Field := [.schemaPatterns, .targetPatterns, .excludePatterns, .schemasOnly]

def key : Field → String
  | .schemaPatterns => "schema-patterns"
  | .targetPatterns => "target-patterns"
  | .excludePatterns => "exclude-patterns"
  | .schemasOnly => "schemas-only"

def ofKey? (key : String) : Option Field := all.find? fun f => f.key = key

end Field

def toTree (s : Settings) : Tree :=
  let texts := fun (patterns : List String) => Tree.array (patterns.map .string)
  .object [(Field.schemaPatterns.key, texts s.schemaPatterns), (Field.targetPatterns.key, texts s.targetPatterns),
    (Field.excludePatterns.key, texts s.excludePatterns), (Field.schemasOnly.key, .bool s.schemasOnly)]

/-! ### Reading -/

section Reading

open Yaml

/-- The field that a key names. -/
private def decodeField (d : FirstDocument) (pos jumps : Nat) : Except DecodeError (Decoded Field) :=
  throughAlias d pos jumps fun node m pos jumps => match node with
    | .scalar s => match Field.ofKey? s.text with
      | some f => .ok (f, pos + 1, jumps)
      | none => .error (.complaint (.unknownField s.text (Field.all.map Field.key)) .root m)
    | _ => wrongType .root m node "field identifier"

private def decodeFieldValue (d : FirstDocument) (path : Yaml.Path) (s : Settings) (f : Field) (pos jumps : Nat) :
    Except DecodeError (Decoded Settings) := do
  match f with
  | .schemaPatterns =>
    let (patterns, pos, jumps) ← decodeTexts d path pos jumps
    return ({ s with schemaPatterns := patterns }, pos, jumps)
  | .targetPatterns =>
    let (patterns, pos, jumps) ← decodeTexts d path pos jumps
    return ({ s with targetPatterns := patterns }, pos, jumps)
  | .excludePatterns =>
    let (patterns, pos, jumps) ← decodeTexts d path pos jumps
    return ({ s with excludePatterns := patterns }, pos, jumps)
  | .schemasOnly =>
    let (only, pos, jumps) ← decodeFlag d path pos jumps
    return ({ s with schemasOnly := only }, pos, jumps)

/-- The fields of a mapping that began at a mark, behind those that were `seen`. -/
private def decodeFields (d : FirstDocument) (m : Mark) :
    Nat → List Field → Settings → Nat → Nat → Except DecodeError (Decoded Settings)
  | 0, _, _, _, _ => .error .endOfStream
  | fuel + 1, seen, s, pos, jumps => do
    let (node, _) ← d.node pos
    match node with
    | .mappingEnd => return (s, pos + 1, jumps)
    | _ =>
      let path := match node with
        | .scalar key => Yaml.Path.entry .root key.text
        | _ => .unnamed .root
      let (f, pos, jumps) ← decodeField d pos jumps
      if f ∈ seen then throw (.complaint (.duplicateField f.key) .root m)
      let (s, pos, jumps) ← decodeFieldValue d path s f pos jumps
      decodeFields d m fuel (f :: seen) s pos jumps

/-- Reads settings from a YAML text; one without content keeps every default. -/
def ofYaml (text : String) : Except DecodeError Settings := do
  if Text.blank text then return {}
  let d := FirstDocument.ofText text
  let (node, m) ← d.node 0
  let (s, _, _) ← match node with
    | .mappingStart _ => decodeFields d m (d.nodes.size + 1) [] {} 1 0
    | _ =>
      if node.isEmpty then pure (({} : Settings), 1, 0)
      else wrongType .root m node "struct ScheyamlConfig"
  d.complete s

end Reading

/-- Why there are no settings. -/
inductive Fault where
  | unreadable (path : String) (why : ReadFault)
  | invalid (path : String) (why : Yaml.DecodeError)

def Fault.message : Fault → String
  | .unreadable path why => s!"cannot read config file '{path}': {why.text}"
  | .invalid path why => s!"invalid config file '{path}': {why.message}"

/-- Reads settings from a file. -/
def load (fs : FileSystem) (path : String) : Except Fault Settings :=
  match fs.read path with
  | .error e => .error (.unreadable path e)
  | .ok text => match ofYaml text with
    | .error e => .error (.invalid path e)
    | .ok s => .ok s

/-- The defaults, what a file sets, and what the caller asks for, each over the one before. -/
def resolve (fs : FileSystem) (file : Option String) (o : Overrides) : Except Fault Settings :=
  match file with
  | none => .ok (({} : Settings).override o)
  | some path => (load fs path).map fun s => s.override o

end Settings

end YamlSchema
