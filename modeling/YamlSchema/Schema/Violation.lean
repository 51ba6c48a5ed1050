import YamlSchema.Text.Utf8
import YamlSchema.Tree.Pointer
import YamlSchema.Tree.Printer
import YamlSchema.Tree.Same

/-!
# Violations

A `Violation` says which value of an instance breaks which keyword of a schema, and why.  `Violation.report` is the form
in which it is handed out: the ways to both as pointers, the name of the keyword, its parameters and a message.
-/

namespace YamlSchema.Schema

/-- The types of JSON values, in alphabetical order. -/
inductive TypeName where
  | array
  | boolean
  | integer
  | null
  | number
  | object
  | string
  deriving DecidableEq, Repr

namespace TypeName

def text : TypeName → String
  | .array => "array"
  | .boolean => "boolean"
  | .integer => "integer"
  | .null => "null"
  | .number => "number"
  | .object => "object"
  | .string => "string"

def all : List TypeName := [.array, .boolean, .integer, .null, .number, .object, .string]

def ofName? (name : String) : Option TypeName := all.find? fun t => t.text = name

/-- Whether a value is of a type; a double with a whole value is an integer. -/
def has : TypeName → Tree → Bool
  | .array, .array _ => true
  | .boolean, .bool _ => true
  | .integer, .number n => n.isWhole
  | .null, .null => true
  | .number, .number _ => true
  | .object, .object _ => true
  | .string, .string _ => true
  | _, _ => false

end TypeName

/-- Why a value breaks a keyword. -/
inductive Cause where
  | wrongType (allowed : List TypeName)
  | notInEnum (options : List Tree)
  | notConst (expected : Tree)
  | notMultiple (divisor : Number)
  | aboveMaximum (limit : Number)
  | atOrAboveMaximum (limit : Number)
  | belowMinimum (limit : Number)
  | atOrBelowMinimum (limit : Number)
  | tooLong (limit : Nat)
  | tooShort (limit : Nat)
  | noMatch (pattern : String)
  /-- The search for a pattern took too many trials. -/
  | gaveUp
  | tooManyItems (limit : Nat)
  | tooFewItems (limit : Nat)
  | notUnique
  | tooManyProperties (limit : Nat)
  | tooFewProperties (limit : Nat)
  | required (name : String)
  | wrongFormat (format : String)
  | wrongEncoding (encoding : String)
  | wrongMediaType (mediaType : String)
  /-- The encoded bytes are no text. -/
  | notText (fault : Utf8.Fault)
  | notAllowed
  | containsNone
  | unexpectedItems (allowed : Nat)
  | unexpectedNames (names : List String)
  | unevaluatedNames (names : List String)
  | unevaluatedItems (items : List Tree)
  | forbidden (schema : Tree)
  | noneOfAny
  | noneOfOne
  | severalOfOne
  /-- A property name breaks the schema for names. -/
  | ofName (name : String) (cause : Cause)
  deriving Repr

namespace Cause

def plural (n : Nat) (one many : String) : String := if n = 1 then one else many

/-- A divisor as plain decimal; it is a double. -/
def divisorText (n : Number) : String :=
  (Decimal.shortest n.toDouble).render Decimal.plain n.toDouble.negative

/-- What is said about some names that were not expected. -/
def unexpected (names : List String) : String :=
  ", ".intercalate (names.map fun n => s!"'{n}'") ++ plural names.length " was unexpected" " were unexpected"

/-- What is said about a value that breaks a keyword for a cause. -/
def message (value : Tree) : Cause → String
  | .wrongType [t] => s!"{value.text} is not of type \"{t.text}\""
  | .wrongType allowed =>
    let names := (TypeName.all.filter fun t => t ∈ allowed).map fun t => s!"\"{t.text}\""
    s!"{value.text} is not of types " ++ ", ".intercalate names
  | .notInEnum options => s!"{value.text} is not one of {(Tree.array options).text}"
  | .notConst expected => s!"{expected.text} was expected"
  | .notMultiple divisor => s!"{value.text} is not a multiple of {divisorText divisor}"
  | .aboveMaximum limit => s!"{value.text} is greater than the maximum of {limit.text}"
  | .atOrAboveMaximum limit => s!"{value.text} is greater than or equal to the maximum of {limit.text}"
  | .belowMinimum limit => s!"{value.text} is less than the minimum of {limit.text}"
  | .atOrBelowMinimum limit => s!"{value.text} is less than or equal to the minimum of {limit.text}"
  | .tooLong n => s!"{value.text} is longer than {n} character" ++ plural n "" "s"
  | .tooShort n => s!"{value.text} is shorter than {n} character" ++ plural n "" "s"
  | .noMatch pattern => s!"{value.text} does not match \"{pattern}\""
  | .gaveUp => "Error executing regex: Max limit for backtracking count exceeded"
  | .tooManyItems n => s!"{value.text} has more than {n} item" ++ plural n "" "s"
  | .tooFewItems n => s!"{value.text} has less than {n} item" ++ plural n "" "s"
  | .notUnique => s!"{value.text} has non-unique elements"
  | .tooManyProperties n => s!"{value.text} has more than {n} " ++ plural n "property" "properties"
  | .tooFewProperties n => s!"{value.text} has less than {n} " ++ plural n "property" "properties"
  | .required name => s!"{(Tree.string name).text} is a required property"
  | .wrongFormat format => s!"{value.text} is not a \"{format}\""
  | .wrongEncoding encoding => s!"{value.text} is not compliant with \"{encoding}\" content encoding"
  | .wrongMediaType mediaType => s!"{value.text} is not compliant with \"{mediaType}\" media type"
  | .notText fault => fault.message
  | .notAllowed => s!"False schema does not allow {value.text}"
  | .containsNone => s!"None of {value.text} are valid under the given schema"
  | .unexpectedItems allowed =>
    let items := ((value.array?.getD []).drop allowed).map Tree.text
    "Additional items are not allowed (" ++ ", ".intercalate items ++
      plural items.length " was unexpected)" " were unexpected)"
  | .unexpectedNames names => s!"Additional properties are not allowed ({unexpected names})"
  | .unevaluatedNames names => s!"Unevaluated properties are not allowed ({unexpected names})"
  | .unevaluatedItems items => s!"Unevaluated items are not allowed ({unexpected (items.map Tree.text)})"
  | .forbidden schema => s!"{schema.text} is not allowed for {value.text}"
  | .noneOfAny => s!"{value.text} is not valid under any of the schemas listed in the 'anyOf' keyword"
  | .noneOfOne => s!"{value.text} is not valid under any of the schemas listed in the 'oneOf' keyword"
  | .severalOfOne => s!"{value.text} is valid under more than one of the schemas listed in the 'oneOf' keyword"
  | .ofName name cause => cause.message (.string name)

/-- Whether a cause is about a value at some place; bytes that are no text are not. -/
def hasPlace : Cause → Bool
  | .notText _ => false
  | _ => true

/-- Whether a cause belongs to a keyword. -/
def hasKeyword : Cause → Bool
  | .notText _ => false
  | .ofName _ cause => cause.hasKeyword
  | _ => true

end Cause

structure Violation where
  /-- The way to the value in the instance. -/
  at_ : Pointer
  /-- The way to the keyword in the schema, through references. -/
  keyword : Pointer
  value : Tree
  cause : Cause
  deriving Repr

namespace Violation

def message (e : Violation) : String := e.cause.message e.value

/-- A violation as seen from one step further out in the instance and some steps further out in the schema. -/
def under (step : Option Step) (way : Pointer) (e : Violation) : Violation :=
  { e with
    at_ := if e.cause.hasPlace then step.toList ++ e.at_ else e.at_
    keyword := if e.cause.hasKeyword then way ++ e.keyword else e.keyword }

/-- A violation of the schema for the names of a value, by one of them. -/
def ofName (value : Tree) (name : String) (e : Violation) : Violation :=
  under none [.key "propertyNames"] ⟨[], e.keyword, value, .ofName name e.cause⟩

end Violation

/-- A violation as it is handed out. -/
structure ErrorReport where
  /-- The keyword that is broken. -/
  keyword : String
  /-- The pointer to the value in the instance. -/
  path : String
  /-- The pointer to the keyword in the schema, as a fragment. -/
  schemaPath : String
  params : Tree
  message : String
  deriving DecidableEq, Repr

namespace ErrorReport

/-- One line for a violation. -/
def display (e : ErrorReport) : String := s!"{e.keyword}: {e.path} {e.message}"

end ErrorReport

namespace Violation

/-- The last segment of a written pointer, as it is written. -/
def lastSegment (pointer : String) : String :=
  String.ofList ((pointer.toList.reverse.takeWhile (· ≠ '/')).reverse)

/-- The parameters of the keyword that a pointer leads to in a schema, under its name. -/
def keywordParams (schema : Tree) (pointer : String) : Tree :=
  match schema.pointer? pointer with
  | some t => .object [(lastSegment pointer, t)]
  | none => .object []

/-- The form in which a violation of a schema is handed out. -/
def report (schema : Tree) (e : Violation) : ErrorReport :=
  let pointer := e.keyword.text
  let params := match e.cause with
    | .required name => .object [("missingProperty", .string name)]
    | .notInEnum options => .object [("allowedValues", .array options)]
    | _ => keywordParams schema pointer
  ⟨lastSegment pointer, e.at_.text, "#" ++ pointer, params, e.message⟩

end Violation

end YamlSchema.Schema
