import YamlSchema.Shorthand

/-!
# Lowering the pseudo type `enum`

The validator knows no type `enum`.  A schema whose `type` is `enum` and which lists its literals under `enum` loses its
`type` before it is compiled, at every place where a keyword holds a schema; literals are never touched.  The last
member of such a schema takes the place of the `type`.
-/

namespace YamlSchema.Schema

/-- The keywords that hold one schema or a list of schemas. -/
def schemaKeywords : List String :=
  ["items", "additionalItems", "additionalProperties", "contains", "propertyNames", "not", "if", "then", "else",
    "allOf", "anyOf", "oneOf"]

/-- The keywords that hold a mapping of names to schemas. -/
def schemaMapKeywords : List String := ["properties", "patternProperties", "definitions", "$defs", "dependencies"]

/-- Whether the members of a schema are those of the pseudo type. -/
def isPseudoEnum (members : OrderedMap Tree) : Bool :=
  OrderedMap.get? members "type" = some (.string Shorthand.enumType) &&
    (OrderedMap.get? members "enum").any Tree.isArray

/-- The members without the type, if they are those of the pseudo type. -/
def dropPseudoType (members : OrderedMap Tree) : OrderedMap Tree :=
  if isPseudoEnum members then OrderedMap.swapErase members "type" else members

mutual

/-- Lowers a schema and every schema that its keywords hold. -/
def lower : Tree → Tree
  | .object members => .object (dropPseudoType (lowerMembers members))
  | t => t

def lowerMembers : List (String × Tree) → List (String × Tree)
  | [] => []
  | (key, t) :: rest => (key, lowerMember key t) :: lowerMembers rest

/-- Lowers the schemas that a member holds. -/
def lowerMember (key : String) : Tree → Tree
  | .array items => if key ∈ schemaKeywords then .array (lowerItems items) else .array items
  | .object members =>
    if key ∈ schemaKeywords then .object (dropPseudoType (lowerMembers members))
    else if key ∈ schemaMapKeywords then .object (lowerEach members)
    else .object members
  | t => t

def lowerItems : List Tree → List Tree
  | [] => []
  | t :: rest => lower t :: lowerItems rest

def lowerEach : List (String × Tree) → List (String × Tree)
  | [] => []
  | (key, t) :: rest => (key, lower t) :: lowerEach rest

end

end YamlSchema.Schema
