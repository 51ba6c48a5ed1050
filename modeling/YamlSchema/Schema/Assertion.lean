import YamlSchema.Schema.Node

/-!
# What keywords assert

`Assertion.causes` lists why a value breaks a keyword that looks at no schema, and is empty if it does not.  A keyword
that is about another type of value than the one at hand asks nothing.
-/

namespace YamlSchema.Schema

/-- Whether the fraction that a number has behind its point is taken for none: it is below `2 ^ -52`, as that of a whole
number and of every negative one. -/
private def isNearlyWhole (q : Double) : Bool :=
  let (n, d) := q.signedRatio
  n < 0 || (n % d) * (Nat.pow 2 52 : Nat) < d

/-- Whether the first of two fractions is a multiple of the second. -/
private def divides (x d : Int × Nat) : Bool := d.1 ≠ 0 && (x.1 * d.2) % (d.1 * x.2) = 0

/-- Whether a number is a multiple of a divisor.  Both are taken as doubles: for a whole divisor the remainder is exact,
for another one the rounded quotient has to be nearly whole.  Where rounding overflows, the shortest decimals of both
have a whole quotient. -/
def isMultiple (n divisor : Number) : Bool :=
  let x := n.toDouble
  let d := divisor.toDouble
  if d.toInt?.isSome then divides x.signedRatio d.signedRatio
  else match x.div d with
    | some q => isNearlyWhole q
    | none =>
      let decimal := fun (x : Double) => (Decimal.shortest x).signedRatio x.negative
      divides (decimal x) (decimal d)

/-- Whether two numbers are less than `2 ^ -52` apart as doubles. -/
def isNear (n m : Number) : Bool :=
  let (a, b) := n.toDouble.signedRatio
  let (c, d) := m.toDouble.signedRatio
  (Double.ofRatio false (a * d - c * b).natAbs (b * d)).any fun x =>
    x.ratio.1 * Nat.pow 2 52 < x.ratio.2

/-- Whether a value is a number that is written as an integer. -/
private def isIntegerLiteral : Tree → Bool
  | .number (.int _) => true
  | _ => false

namespace Assertion

def when (broken : Bool) (value : Tree) (cause : Cause) : List (Tree × Cause) :=
  if broken then [(value, cause)] else []

def missing (value : Tree) (members : OrderedMap Tree) (names : List String) : List (Tree × Cause) :=
  (names.filter fun n => !OrderedMap.contains members n).map fun n => (value, .required n)

/-- Why a value breaks a keyword, and the part of it that a message is about. -/
def causes (a : Assertion) (v : Tree) : List (Tree × Cause) :=
  match a, v with
  | .type allowed wholeDoubles, _ =>
    when (!allowed.any fun t => t.has v && (wholeDoubles || t ≠ .integer || isIntegerLiteral v)) v (.wrongType allowed)
  | .enum options, _ => when (!options.any fun o => v.same o) v (.notInEnum options)
  | .const (.number n), .number m => when (!isNear m n) v (.notConst (.number n))
  | .const expected, _ => when (!v.same expected) v (.notConst expected)
  | .multipleOf divisor, .number n => when (!isMultiple n divisor) v (.notMultiple divisor)
  | .maximum limit, .number n => when (limit.isLess n) v (.aboveMaximum limit)
  | .exclusiveMaximum limit, .number n => when (!n.isLess limit) v (.atOrAboveMaximum limit)
  | .minimum limit, .number n => when (n.isLess limit) v (.belowMinimum limit)
  | .exclusiveMinimum limit, .number n => when (!limit.isLess n) v (.atOrBelowMinimum limit)
  | .maxLength limit, .string s => when (limit < s.length) v (.tooLong limit)
  | .minLength limit, .string s => when (s.length < limit) v (.tooShort limit)
  | .pattern p, .string s => match p.isIn? s with
    | some found => when (!found) v (.noMatch p.text)
    | none => [(v, .gaveUp)]
  | .maxItems limit, .array items => when (limit < items.length) v (.tooManyItems limit)
  | .minItems limit, .array items => when (items.length < limit) v (.tooFewItems limit)
  | .uniqueItems, .array items => when (hasRepeats items) v .notUnique
  | .maxProperties limit, .object members => when (limit < members.length) v (.tooManyProperties limit)
  | .minProperties limit, .object members => when (members.length < limit) v (.tooFewProperties limit)
  | .required names, .object members => missing v members names
  | .requiredWith name names, .object members =>
    if OrderedMap.contains members name then missing v members names else []
  | .format f, .string s => when (!f.accepts s) v (.wrongFormat f.name)
  | .encoding, .string s => when (!isBase64 s) v (.wrongEncoding "base64")
  | .mediaType, .string s => when (!isJson s) v (.wrongMediaType "application/json")
  | .encodedMediaType, .string s => match Base64.decode? s.toList with
    | some bytes => match Utf8.fault? bytes with
      | some fault => [(.null, .notText fault)]
      | none => when (!(String.fromUTF8? ⟨bytes.toArray⟩).any isJson) v (.wrongMediaType "application/json")
    | none => []
  | .noItemsFrom count, .array items => when (count < items.length) v (.unexpectedItems count)
  | .nothing, _ => [(v, .notAllowed)]
  | .noMembers, .object ((_, first) :: _) => [(first, .notAllowed)]
  | .noNames, .object (_ :: _) => [(v, .notAllowed)]
  | _, _ => []

/-- Whether a value meets a keyword. -/
def holds (a : Assertion) (v : Tree) : Bool := (a.causes v).isEmpty

end Assertion

end YamlSchema.Schema
