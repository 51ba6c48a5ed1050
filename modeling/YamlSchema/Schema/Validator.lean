import YamlSchema.Schema.Evaluate
import YamlSchema.Schema.Reading
import YamlSchema.Schema.Resources

/-!
# Compiled schemas

A `Program` is a schema whose references lead somewhere: its node, and for every link in it or behind one of its links
the node that is meant.  `Program.build` fails with the first refusal on the way through the schema, links included.
`Validator.compile` lowers a schema, gathers what it refers to, checks it against the schema of schemas and builds its
program; `Validator.check` lists the violations of an instance, and `Validator.isValid` only asks whether there is one.
-/

namespace YamlSchema.Schema

/-! ### Linking -/

/-- What has to be settled before a schema can be evaluated. -/
inductive Demand where
  | resolve (link : Link)
  | fail (why : Refusal)

mutual

/-- The demands of a schema, in the order of its rules. -/
def Node.demands : Node → List Demand
  | .always _ => []
  | .rules all => demandsOfAll all
  | .refused why => [.fail why]

def demandsOfAll : List Rule → List Demand
  | [] => []
  | r :: rest => r.demands ++ demandsOfAll rest

def Rule.demands : Rule → List Demand
  | .assertion _ _ => []
  | .reference _ link => [.resolve link]
  | .property _ node | .patternProperty _ node | .items node | .itemAt _ _ node | .itemsFrom _ _ node | .contains node
  | .containsWithin _ _ _ node | .names node | .dependency _ _ node | .allOf _ node | .not node _
  | .unevaluatedMembers _ node | .unevaluatedItems _ node => node.demands
  | .members named patterned others =>
    demandsOfPatterned patterned ++ demandsOfNamed named ++ match others with
      | some node => node.demands
      | none => []
  | .anyOf nodes | .oneOf nodes => demandsOfNodes nodes
  | .conditional test yes no =>
    test.demands ++
      (match yes with
        | some node => node.demands
        | none => []) ++
      (match no with
        | some node => node.demands
        | none => [])
  | .refused why => [.fail why]

def demandsOfNodes : List Node → List Demand
  | [] => []
  | n :: rest => n.demands ++ demandsOfNodes rest

def demandsOfPatterned : List (Pattern × Node) → List Demand
  | [] => []
  | (_, n) :: rest => n.demands ++ demandsOfPatterned rest

def demandsOfNamed : List (String × Node) → List Demand
  | [] => []
  | (_, n) :: rest => n.demands ++ demandsOfNamed rest

end

/-- Nodes by the links that lead to them. -/
abbrev Links := List (Link × Node)

namespace Links

def node? (links : Links) (link : Link) : Option Node :=
  match links with
  | [] => none
  | (l, n) :: rest => if l = link then some n else node? rest link

/-- The most links that a program has; there is no room for more. -/
def maxLinks : Nat := 18446744073709551616

/-- Settles demands in their order; those of a new node come before the others.  At most `fuel` links are followed. -/
def settle (resources : Resources) (fuel : Nat) (links : Links) (demands : List Demand) : Except Refusal Links :=
  match demands with
  | [] => .ok links
  | .fail why :: _ => .error why
  | .resolve link :: rest =>
    if (links.node? link).isSome then settle resources fuel links rest
    else match resources.find link, fuel with
      | .error why, _ => .error why
      | .ok _, 0 => .error .tooManyLinks
      | .ok (setting, t), fuel + 1 =>
        let node := (read setting t).node
        settle resources fuel (links ++ [(link, node)]) (node.demands ++ rest)
termination_by (fuel, demands.length)

end Links

/-- A schema whose references lead somewhere. -/
structure Program where
  root : Node
  links : Links

namespace Program

/-- The setting of the document with the given URI, which is read in the default draft. -/
def rootSetting (uri : Uri) (schema : Tree) : Setting :=
  let draft := Resources.defaultDraft
  Setting.inside ⟨draft, ((draft.named schema).toOption).getD draft, uri, .empty⟩ schema

/-- The program of a schema in the document with the given URI. -/
def build (resources : Resources) (uri : Uri) (schema : Tree) : Except Refusal Program := do
  let root := (read (rootSetting uri schema) schema).node
  return ⟨root, ← Links.settle resources Links.maxLinks [] root.demands⟩

/-- How links are followed, `fuel` of them in a row at most; what lies behind more of them is accepted. -/
def follow (p : Program) (fuel : Nat) : Follow :=
  match fuel with
  | 0 => ⟨⟨fun _ _ => true, fun _ _ => []⟩, fun _ _ => []⟩
  | fuel + 1 =>
    let next := p.follow fuel
    { accepts := fun link v => match p.links.node? link with
        | some n => n.accepts next.toBehind v
        | none => true
      evaluated := fun link v => match p.links.node? link with
        | some n => n.evaluated next.toBehind v
        | none => []
      violations := fun link v => match p.links.node? link with
        | some n => n.violations next v
        | none => [] }

/-- The most links that can be followed in a row before one of them comes back at the same place of an instance. -/
def reach (p : Program) (v : Tree) : Nat := (v.depth + 1) * (p.links.length + 1)

def accepts (p : Program) (v : Tree) : Bool := p.root.accepts (p.follow (p.reach v)).toBehind v

def violations (p : Program) (v : Tree) : List Violation := p.root.violations (p.follow (p.reach v)) v

end Program

/-! ### Validators -/

/-- The program of the schema of schemas; there is nothing that it refers to in vain. -/
def metaProgram : Program :=
  match Program.build .bundled Draft.draft7.uri MetaSchema.Draft7.document with
  | .ok p => p
  | .error _ => ⟨.always true, []⟩

structure Validator where
  /-- The schema after lowering. -/
  schema : Tree
  program : Program

namespace Validator

/-- The validator of a lowered schema in the document with the given URI, once all that it leads to is there. -/
def ofResources (resources : Resources) (uri : Uri) (lowered : Tree) : Except Refusal Validator :=
  match metaProgram.violations lowered with
  | e :: _ => .error (.violation e.value e.cause)
  | [] => do return ⟨lowered, ← Program.build resources uri lowered⟩

/-- Compiles a schema without pseudo types. -/
def compileLowered (references : References) (lowered : Tree) : Except Refusal Validator := do
  let uri ← Resources.uriOf lowered
  let resources ← Resources.gather references uri lowered
  ofResources resources uri lowered

/-- Compiles a schema that may refer to others by their identifiers. -/
def compile (references : References) (schema : Tree) : Except Refusal Validator :=
  compileLowered references (lower schema)

/-- Whether an instance has no violation. -/
def isValid (c : Validator) (v : Tree) : Bool := c.program.accepts v

/-- Every violation of an instance, in the order of the keywords. -/
def check (c : Validator) (v : Tree) : List ErrorReport := (c.program.violations v).map (Violation.report c.schema)

end Validator

end YamlSchema.Schema
