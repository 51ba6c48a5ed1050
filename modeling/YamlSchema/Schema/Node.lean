import YamlSchema.Schema.Format
import YamlSchema.Schema.Link
import YamlSchema.Schema.Violation

/-!
# Schemas as rules

A schema is a `Node`: a truth value, or a list of rules in the order of its keywords.  An `Assertion` is a rule that looks
at no schema.  What no rule can be made of is a `Refusal`, found when the schema is compiled.
-/

namespace YamlSchema.Schema

/-- Why a schema is not compiled. -/
inductive Refusal where
  | violation (value : Tree) (cause : Cause)
  | unexpectedType
  | badReference (reference : String) (fault : UriFault)
  | notRetrieved (uri id : String)
  | notPresent (uri : String)
  | noPointer (pointer : String)
  | badEncoding (pointer : String)
  | badIndex (index pointer : String)
  | noAnchor (name : String)
  | badAnchor (name : String)
  | unknownSpecification (name : String)
  /-- The references lead to more documents than there is room for. -/
  | tooManyDocuments
  /-- The references are more links than there is room for. -/
  | tooManyLinks
  deriving Repr

def Refusal.message : Refusal → String
  | .violation value cause => cause.message value
  | .unexpectedType => "Unexpected type"
  | .badReference reference fault => fault.message reference
  | .notRetrieved uri id =>
    s!"Resource '{uri}' is not present in a registry and retrieving it failed: no registered schema '{id}' for '{uri}'"
  | .notPresent uri =>
    s!"Resource '{uri}' is not present in a registry and retrieving it failed: " ++
      "Retrieving external resources is not supported once the registry is populated"
  | .noPointer pointer => s!"Pointer '{pointer}' does not exist"
  | .badEncoding pointer =>
    s!"Invalid percent encoding in pointer '{pointer}': the decoded bytes do not represent valid UTF-8"
  | .badIndex index pointer => s!"Failed to parse array index '{index}' in pointer '{pointer}'"
  | .noAnchor name => s!"Anchor '{name}' does not exist"
  | .badAnchor name => s!"Anchor '{name}' is invalid"
  | .unknownSpecification name => s!"Unknown specification: {name}"
  | .tooManyDocuments => "Too many documents"
  | .tooManyLinks => "Too many links"

/-- What a keyword asks of a value without looking at schemas. -/
inductive Assertion where
  /-- The value is of one of some types; a double with a whole value is an integer only if it may be. -/
  | type (allowed : List TypeName) (wholeDoubles : Bool)
  | enum (options : List Tree)
  | const (expected : Tree)
  | multipleOf (divisor : Number)
  | maximum (limit : Number)
  | exclusiveMaximum (limit : Number)
  | minimum (limit : Number)
  | exclusiveMinimum (limit : Number)
  | maxLength (limit : Nat)
  | minLength (limit : Nat)
  | pattern (p : Pattern)
  | maxItems (limit : Nat)
  | minItems (limit : Nat)
  | uniqueItems
  | maxProperties (limit : Nat)
  | minProperties (limit : Nat)
  | required (names : List String)
  /-- If the value has one property, it has the others too. -/
  | requiredWith (name : String) (names : List String)
  | format (f : Format)
  | encoding
  | mediaType
  /-- The media type of what is encoded; an encoding that is broken is another assertion's. -/
  | encodedMediaType
  | noItemsFrom (count : Nat)
  | nothing
  | noMembers
  | noNames
  deriving Repr

mutual

inductive Node where
  | always (accepts : Bool)
  | rules (all : List Rule)
  | refused (why : Refusal)

inductive Rule where
  | assertion (keyword : String) (a : Assertion)
  | reference (keyword : String) (link : Link)
  | property (name : String) (node : Node)
  | patternProperty (pattern : Pattern) (node : Node)
  /-- Every member is named, or matches a pattern, or is one of the others; `none` allows no others. -/
  | members (named : List (String × Node)) (patterned : List (Pattern × Node)) (others : Option Node)
  | items (node : Node)
  | itemAt (keyword : String) (i : Nat) (node : Node)
  | itemsFrom (keyword : String) (count : Nat) (node : Node)
  | contains (node : Node)
  /-- The number of items that the node accepts has bounds; they count as evaluated if it `evaluates`. -/
  | containsWithin (low high : Option Nat) (evaluates : Bool) (node : Node)
  | names (node : Node)
  | dependency (keyword name : String) (node : Node)
  | allOf (i : Nat) (node : Node)
  | anyOf (nodes : List Node)
  | oneOf (nodes : List Node)
  | not (node : Node) (schema : Tree)
  | conditional (test : Node) (yes no : Option Node)
  /-- What the other rules of the schema leave unevaluated meets the node. -/
  | unevaluatedMembers (beside : List Rule) (node : Node)
  | unevaluatedItems (beside : List Rule) (node : Node)
  | refused (why : Refusal)

end

instance : Inhabited Node := ⟨.always true⟩

/-- The members of a value that is a mapping. -/
def membersOf (v : Tree) : List (String × Tree) := v.object?.getD []

end YamlSchema.Schema
