/-!
# Directives

A directive is a piece `## key: value` of a text, where key and value are non-empty words of ASCII letters, digits,
`_` and `-`.  `extractDirectives` reads a text from left to right and goes on after each directive it finds; a value
ends where its word ends.
-/

namespace YamlSchema

structure Directive where
  key : String
  value : String
  deriving DecidableEq, Repr

namespace Directive

/-- The key by which a schema document states its identifier. -/
def idKey : String := "id"

/-- The key by which a target document names a schema. -/
def schemaKey : String := "schema"

/-- ASCII letters, digits, `_` and `-`. -/
def isWordChar (c : Char) : Bool := c.isAlphanum || c = '_' || c = '-'

/-- The word at the head of a text, if there is one, and the text after it. -/
def word? (cs : List Char) : Option (List Char × List Char) :=
  match cs.takeWhile isWordChar with
  | [] => none
  | w => some (w, cs.dropWhile isWordChar)

/-- The directive that begins at the head of a text, and its length. -/
def atHead? (cs : List Char) : Option (Directive × Nat) :=
  match cs with
  | '#' :: '#' :: ' ' :: rest =>
    match word? rest with
    | some (key, ':' :: ' ' :: rest) =>
      match word? rest with
      | some (value, _) => some (⟨String.ofList key, String.ofList value⟩, 3 + key.length + 2 + value.length)
      | none => none
    | _ => none
  | _ => none

/-- The directives of a text whose first `skip` characters belong to an earlier one. -/
def scan (skip : Nat) : List Char → List Directive
  | [] => []
  | c :: rest =>
    match skip with
    | skip + 1 => scan skip rest
    | 0 => match atHead? (c :: rest) with
      | some (d, length) => d :: scan (length - 1) rest
      | none => scan 0 rest

end Directive

/-- The directives of a text, in text order. -/
def extractDirectives (text : String) : List Directive := Directive.scan 0 text.toList

/-- The values of the directives with a given key, in their order. -/
def directiveValues (directives : List Directive) (key : String) : List String :=
  (directives.filter fun d => d.key = key).map fun d => d.value

end YamlSchema
