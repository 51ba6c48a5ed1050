import YamlSchema.Yaml.Resolve
import YamlSchema.Yaml.Stream

/-!
# From events to values

Reading what the events of a document say: `decodeValue` reads any value, `decodeFlag`, `decodeText` and `decodeTexts`
read what a setting asks for.  Collections nest at most 128 deep, and aliases are followed at most a hundred times as
often as there are events.  A complaint names the path of keys and indices to the value that it is about, unless that is
the whole document, and the place where the value begins.
-/

namespace YamlSchema.Yaml

/-- The way to a value inside a document. -/
inductive Path where
  | root
  | item (parent : Path) (index : Nat)
  | entry (parent : Path) (key : String)
  /-- Under a key that is no scalar. -/
  | unnamed (parent : Path)
  deriving Repr

namespace Path

mutual

def text : Path → String
  | .root => "."
  | .item parent index => s!"{text parent}[{index}]"
  | .entry parent key => inside parent ++ key
  | .unnamed parent => inside parent ++ "?"

/-- A path in front of a key. -/
def inside : Path → String
  | .root => ""
  | .item parent index => s!"{text parent}[{index}]."
  | .entry parent key => inside parent ++ key ++ "."
  | .unnamed parent => inside parent ++ "?."

end

end Path

/-- What was found where something else was expected. -/
inductive Found where
  | nothing
  | bool (value : Bool)
  | number (value : Numeral)
  | wide (value : Int)
  | string (value : String)
  | sequence
  | mapping
  deriving Repr

/-- Doubles of messages: at every size without an exponent and always with a point. -/
def foundLayout : Decimal.Layout := ⟨-1000, 1000, false, true⟩

def Found.text : Found → String
  | .nothing => "unit value"
  | .bool b => s!"boolean `{b}`"
  | .number (.int i) => s!"integer `{i}`"
  | .number (.real (.finite x)) => s!"floating point `{(Decimal.shortest x).render foundLayout x.negative}`"
  | .number (.real (.infinite false)) => "floating point `inf`"
  | .number (.real (.infinite true)) => "floating point `-inf`"
  | .number (.real .notANumber) => "floating point `NaN`"
  | .wide i => s!"integer `{i}` as " ++ (if i < 0 then "i128" else "u128")
  | .string s => s!"string {Text.shown s}"
  | .sequence => "sequence"
  | .mapping => "map"

/-- What a complaint can be about. -/
inductive Complaint where
  | wrongType (found : Found) (expected : String)
  | wrongValue (text expected : String)
  | duplicateKey (key : Value)
  | unknownField (name : String) (known : List String)
  | duplicateField (name : String)
  deriving Repr

def Complaint.text : Complaint → String
  | .wrongType found expected => s!"invalid type: {found.text}, expected {expected}"
  | .wrongValue text expected => s!"invalid value: string {Text.shown text}, expected {expected}"
  | .duplicateKey key => "duplicate entry " ++ match key with
    | .null => "with null key"
    | .bool b => s!"with key `{b}`"
    | .number n => s!"with key {n.text}"
    | .string s => s!"with key {Text.shown s}"
    | _ => "in YAML map"
  | .unknownField name known =>
    s!"unknown field `{name}`, expected one of " ++ ", ".intercalate (known.map fun k => s!"`{k}`")
  | .duplicateField name => s!"duplicate field `{name}`"

inductive DecodeError where
  | broken (b : Break)
  | endOfStream
  | moreThanOneDocument
  | recursionLimit (m : Mark)
  | repetitionLimit
  | complaint (what : Complaint) (path : Path) (m : Mark)
  deriving Repr

namespace DecodeError

def atMark (m : Mark) : String := if m.isWritten then s!" at {m.text}" else ""

def message : DecodeError → String
  | .broken (.fault f) => f.message
  | .broken (.unknownAnchor m) => "unknown anchor" ++ atMark m
  | .endOfStream => "EOF while parsing a value"
  | .moreThanOneDocument => "deserializing from YAML containing more than one document is not supported"
  | .recursionLimit m => "recursion limit exceeded" ++ atMark m
  | .repetitionLimit => "repetition limit exceeded"
  | .complaint what path m =>
    (if path.text = "." then "" else path.text ++ ": ") ++ what.text ++ atMark m

end DecodeError

/-- How deep collections may nest. -/
def maxDepth : Nat := 128

namespace FirstDocument

/-- The event at a position, or what ended the document before it. -/
def node (d : FirstDocument) (pos : Nat) : Except DecodeError (Node × Mark) :=
  match d.nodes[pos]? with
  | some n => .ok n
  | none => .error (match d.broken with
    | some b => .broken b
    | none => .endOfStream)

/-- The position of what an alias stands for, if aliases may still be followed. -/
def follow (d : FirstDocument) (anchor jumps : Nat) : Except DecodeError (Nat × Nat) :=
  if d.nodes.size * 100 < jumps + 1 then .error .repetitionLimit
  else match d.anchors.find? fun a => a.1 = anchor with
    | some (_, pos) => .ok (pos, jumps + 1)
    | none => .error .endOfStream

/-- The value of a whole document, unless it is broken further on or something follows it. -/
def complete {α : Type} (d : FirstDocument) (value : α) : Except DecodeError α :=
  match d.broken with
  | some b => .error (.broken b)
  | none => if d.hasMore then .error .moreThanOneDocument else .ok value

/-- More than the number of steps from the root to any leaf. -/
def fuel (d : FirstDocument) : Nat := (maxDepth + 2) * (2 * d.nodes.size + 4)

end FirstDocument

/-! ### Scalars -/

/-- The name of a local tag. -/
def localTag? (tag : Option Tag) : Option String := tag.bind Tag.name?

/-- What a scalar means; a tag of a YAML type decides it, or is not met by the text. -/
def Scalar.meaning (s : Scalar) (tagged : Bool) : Except Complaint Meaning :=
  let plain := if s.style = .plain then plainMeaning s.text else .string s.text
  match s.tag with
  | none => .ok plain
  | some tag =>
    if tagged then .ok plain
    else if tag = .core "bool" then match bool? s.text with
      | some b => .ok (.bool b)
      | none => .error (.wrongValue s.text "a boolean")
    else if tag = .core "int" then match integerMeaning? s.text with
      | some m => .ok m
      | none => .error (.wrongValue s.text "an integer")
    else if tag = .core "float" then match real? s.text with
      | some x => .ok (.number (.real x))
      | none => .error (.wrongValue s.text "a float")
    else if tag = .core "null" then
      if isNull s.text then .ok .null else .error (.wrongValue s.text "null")
    else if tag.isLocal then .ok plain
    else .ok (.string s.text)

def Meaning.found : Meaning → Found
  | .null => .nothing
  | .bool b => .bool b
  | .number n => .number n
  | .string s => .string s
  | .wide i => .wide i

def valueOf (s : Scalar) (tagged : Bool) : Except Complaint Value := do
  match ← s.meaning tagged with
  | .null => return .null
  | .bool b => return .bool b
  | .number n => return .number n
  | .string t => return .string t
  | .wide i => throw (.wrongType (.wide i) "any YAML value")

/-! ### Values -/

def complain {α : Type} (path : Path) (m : Mark) : Except Complaint α → Except DecodeError α
  | .ok a => .ok a
  | .error c => .error (.complaint c path m)

/-- A value together with the position behind it and the number of aliases followed. -/
abbrev Decoded (α : Type) := α × Nat × Nat

mutual

/-- The value at a position, in which collections nest at most `room` deep. -/
def decodeValue (d : FirstDocument) : Nat → Path → Nat → Nat → Nat → Except DecodeError (Decoded Value)
  | 0, _, _, _, _ => .error .endOfStream
  | fuel + 1, path, room, pos, jumps => do
    let (node, m) ← d.node pos
    let wrap := fun (tag : Option Tag) (v : Value) => match localTag? tag with
      | some name => Value.tagged name v
      | none => v
    match node with
    | .alias anchor =>
      let (target, jumps) ← d.follow anchor jumps
      let (v, _, jumps) ← decodeValue d fuel path room target jumps
      return (v, pos + 1, jumps)
    | .scalar s =>
      let v ← complain path m (valueOf s (localTag? s.tag).isSome)
      return (wrap s.tag v, pos + 1, jumps)
    | .sequenceStart tag => match room with
      | 0 => throw (.recursionLimit m)
      | room + 1 =>
        let (items, pos, jumps) ← decodeItems d fuel path 0 room (pos + 1) jumps
        return (wrap tag (.sequence items), pos, jumps)
    | .mappingStart tag => match room with
      | 0 => throw (.recursionLimit m)
      | room + 1 =>
        let (entries, pos, jumps) ← decodeEntries d fuel path m [] room (pos + 1) jumps
        return (wrap tag (.mapping entries), pos, jumps)
    | .absent => return (.null, pos + 1, jumps)
    | .sequenceEnd | .mappingEnd => throw .endOfStream

/-- The items of a sequence from the one with the given index on. -/
def decodeItems (d : FirstDocument) : Nat → Path → Nat → Nat → Nat → Nat → Except DecodeError (Decoded (List Value))
  | 0, _, _, _, _, _ => .error .endOfStream
  | fuel + 1, path, index, room, pos, jumps => do
    let (node, _) ← d.node pos
    match node with
    | .sequenceEnd => return ([], pos + 1, jumps)
    | _ =>
      let (v, pos, jumps) ← decodeValue d fuel (.item path index) room pos jumps
      let (vs, pos, jumps) ← decodeItems d fuel path (index + 1) room pos jumps
      return (v :: vs, pos, jumps)

/-- The entries of a mapping that began at a mark, behind those with the keys `seen`. -/
def decodeEntries (d : FirstDocument) :
    Nat → Path → Mark → List Value → Nat → Nat → Nat → Except DecodeError (Decoded (List (Value × Value)))
  | 0, _, _, _, _, _, _ => .error .endOfStream
  | fuel + 1, path, m, seen, room, pos, jumps => do
    let (node, _) ← d.node pos
    match node with
    | .mappingEnd => return ([], pos + 1, jumps)
    | _ =>
      let (key, pos, jumps) ← decodeValue d fuel path room pos jumps
      if seen.any fun k => k.same key then throw (.complaint (.duplicateKey key) path m)
      let inner := match node with
        | .scalar s => Path.entry path s.text
        | _ => Path.unnamed path
      let (v, pos, jumps) ← decodeValue d fuel inner room pos jumps
      let (rest, pos, jumps) ← decodeEntries d fuel path m (key :: seen) room pos jumps
      return ((key, v) :: rest, pos, jumps)

end

/-- The value that a text holds. -/
def Value.ofText (text : String) : Except DecodeError Value := do
  let d := FirstDocument.ofText text
  let (v, _, _) ← decodeValue d d.fuel .root maxDepth 0 0
  d.complete v

/-! ### Settings -/

/-- What an event begins, as far as a complaint tells. -/
def Node.found : Node → Except Complaint Found
  | .scalar s => (s.meaning false).map Meaning.found
  | .sequenceStart _ | .sequenceEnd => .ok .sequence
  | .mappingStart _ | .mappingEnd => .ok .mapping
  | .alias _ | .absent => .ok .nothing

/-- The complaint that an event is not what was expected. -/
def wrongType {α : Type} (path : Path) (m : Mark) (node : Node) (expected : String) : Except DecodeError α :=
  match node.found with
  | .ok found => .error (.complaint (.wrongType found expected) path m)
  | .error c => .error (.complaint c path m)

/-- Runs a reader on what stands at a position, through an alias if there is one. -/
def throughAlias {α : Type} (d : FirstDocument) (pos jumps : Nat)
    (read : Node → Mark → Nat → Nat → Except DecodeError (Decoded α)) :
    Except DecodeError (Decoded α) := do
  let (node, m) ← d.node pos
  match node with
  | .alias anchor =>
    let (target, jumps) ← d.follow anchor jumps
    let (node, m) ← d.node target
    let (a, _, jumps) ← read node m target jumps
    return (a, pos + 1, jumps)
  | _ => read node m pos jumps

/-- Whether nothing was written where a value is expected. -/
def Node.isEmpty : Node → Bool
  | .scalar s => s.text = "" && s.style = .plain
  | .absent => true
  | _ => false

def decodeFlag (d : FirstDocument) (path : Path) (pos jumps : Nat) : Except DecodeError (Decoded Bool) :=
  throughAlias d pos jumps fun node m pos jumps =>
    let flag? := match node with
      | .scalar s =>
        if s.style = .plain || (s.style = .literal && s.tag = some (.core "bool")) then bool? s.text else none
      | _ => none
    match flag? with
    | some b => .ok (b, pos + 1, jumps)
    | none => wrongType path m node "a boolean"

/-- Any scalar, as it is written. -/
def decodeText (d : FirstDocument) (path : Path) (pos jumps : Nat) (expected : String) :
    Except DecodeError (Decoded String) :=
  throughAlias d pos jumps fun node m pos jumps =>
    match node with
    | .scalar s => .ok (s.text, pos + 1, jumps)
    | _ => wrongType path m node expected

private def decodeTextItems (d : FirstDocument) (path : Path) :
    Nat → Nat → Nat → Nat → Except DecodeError (Decoded (List String))
  | 0, _, _, _ => .error .endOfStream
  | fuel + 1, index, pos, jumps => do
    let (node, _) ← d.node pos
    match node with
    | .sequenceEnd => return ([], pos + 1, jumps)
    | _ =>
      let (t, pos, jumps) ← decodeText d (.item path index) pos jumps "a string"
      let (ts, pos, jumps) ← decodeTextItems d path fuel (index + 1) pos jumps
      return (t :: ts, pos, jumps)

/-- A sequence of scalars as they are written; nothing at all is an empty sequence. -/
def decodeTexts (d : FirstDocument) (path : Path) (pos jumps : Nat) : Except DecodeError (Decoded (List String)) :=
  throughAlias d pos jumps fun node m pos jumps =>
    match node with
    | .sequenceStart _ => decodeTextItems d path (d.nodes.size + 1) 0 (pos + 1) jumps
    | _ => if node.isEmpty then .ok ([], pos + 1, jumps) else wrongType path m node "a sequence"

end YamlSchema.Yaml
