import YamlSchema.Tree.Basic

/-!
# Equality of JSON values

`Tree.same` is equality of values: an integer and a double are the same if their values are.  Mappings are the same only
if their members come in the same order.
-/

namespace YamlSchema

namespace Number

/-- The value as a fraction. -/
def ratio : Number → Int × Nat
  | .int i => (i, 1)
  | .real x => x.signedRatio

/-- The nearest double. -/
def toDouble : Number → Double
  | .int i => Double.ofInt i
  | .real x => x

/-- Order by value, exact across integers and doubles. -/
def compare (a b : Number) : Ordering := Double.compareRatio a.ratio b.ratio

def same (a b : Number) : Bool := a.compare b = .eq

def isLess (a b : Number) : Bool := a.compare b = .lt

/-- Whether the value is a whole number. -/
def isWhole : Number → Bool
  | .int _ => true
  | .real x => x.toInt?.isSome

end Number

namespace Tree

mutual

def same : Tree → Tree → Bool
  | .null, .null => true
  | .bool a, .bool b => a = b
  | .number a, .number b => a.same b
  | .string a, .string b => a = b
  | .array xs, .array ys => sameItems xs ys
  | .object xs, .object ys => sameMembers xs ys
  | _, _ => false

def sameItems : List Tree → List Tree → Bool
  | [], [] => true
  | x :: xs, y :: ys => same x y && sameItems xs ys
  | _, _ => false

def sameMembers : List (String × Tree) → List (String × Tree) → Bool
  | [], [] => true
  | (k, x) :: xs, (l, y) :: ys => (k = l && same x y) && sameMembers xs ys
  | _, _ => false

end

end Tree

/-- Whether some tree of a list comes again later on. -/
def hasRepeats : List Tree → Bool
  | [] => false
  | t :: rest => rest.any (fun u => t.same u) || hasRepeats rest

end YamlSchema
