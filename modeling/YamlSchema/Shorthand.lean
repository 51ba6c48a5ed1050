import YamlSchema.Tree.Basic

/-!
# Shorthand schemas

A schema may be written in a shorthand that shows the shape of the documents it describes: a name for a primitive type,
`[]` behind a name for a sequence, a list for a choice of literals, and a mapping for a mapping whose keys are all
required.  `inflate` writes such a schema out; a mapping with a string as `type` is a full schema and stays as it is.
-/

namespace YamlSchema

namespace Shorthand

/-- The names that stand for a type. -/
def primitives : List String := ["string", "number", "boolean"]

/-- The type name of a choice of literals. -/
def enumType : String := "enum"

def typed (name : String) : Tree := .object [("type", .string name)]

def choice (literals : List Tree) : Tree := .object [("type", .string enumType), ("enum", .array literals)]

def sequenceOf (items : Tree) : Tree := .object [("type", .string "array"), ("items", items)]

def mappingOf (properties : OrderedMap Tree) (required : List String) : Tree :=
  .object [("type", .string "object"), ("properties", .object properties),
    ("required", .array (required.map .string))]

/-- The schema of a name without suffix: a primitive type, or a literal that stands for itself. -/
def ofBase (name : String) : Tree := if name ∈ primitives then typed name else choice [.string name]

/-- The schema of a name that is read from its end: one sequence for each suffix `[]`. -/
def ofReversed : List Char → Tree
  | ']' :: '[' :: base => sequenceOf (ofReversed base)
  | base => ofBase (String.ofList base.reverse)

def ofName (name : String) : Tree := ofReversed name.toList.reverse

/-- Whether a mapping is a full schema rather than shorthand. -/
def isFullSchema (members : OrderedMap Tree) : Bool := (OrderedMap.get? members "type").any Tree.isString

end Shorthand

mutual

/-- Writes a shorthand schema out. -/
def inflate : Tree → Tree
  | .string name => Shorthand.ofName name
  | .array literals => Shorthand.choice literals
  | .object members =>
    if Shorthand.isFullSchema members then .object members
    else Shorthand.mappingOf (inflateMembers members) (OrderedMap.keys members)
  | t => t

def inflateMembers : List (String × Tree) → List (String × Tree)
  | [] => []
  | (key, t) :: rest => (key, inflate t) :: inflateMembers rest

end

end YamlSchema
