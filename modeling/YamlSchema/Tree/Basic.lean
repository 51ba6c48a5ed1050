import YamlSchema.Decimal.Double
import YamlSchema.OrderedMap

/-!
# Value trees

The content of a document, a schema and a literal are all a `Tree`: null, truth values, numbers, strings, sequences and
mappings whose order counts.  Integers and doubles are different trees, also when their values agree.
-/

namespace YamlSchema

/-- A number of a tree: an integer of 64 bits, with or without sign, or a finite double. -/
inductive Number where
  | int (value : Int)
  | real (value : Double)
  deriving DecidableEq, Repr

inductive Tree where
  | null
  | bool (value : Bool)
  | number (value : Number)
  | string (value : String)
  | array (items : List Tree)
  | object (members : List (String × Tree))
  deriving Repr, Inhabited

namespace Tree

/-! ### Equality of trees is decidable -/

mutual

private def decEq : (a b : Tree) → Decidable (a = b)
  | .null, b => match b with
    | .null => isTrue rfl
    | .bool _ | .number _ | .string _ | .array _ | .object _ => isFalse (by simp)
  | .bool x, b => match b with
    | .bool y => if h : x = y then isTrue (by rw [h]) else isFalse (by simp [h])
    | .null | .number _ | .string _ | .array _ | .object _ => isFalse (by simp)
  | .number x, b => match b with
    | .number y => if h : x = y then isTrue (by rw [h]) else isFalse (by simp [h])
    | .null | .bool _ | .string _ | .array _ | .object _ => isFalse (by simp)
  | .string x, b => match b with
    | .string y => if h : x = y then isTrue (by rw [h]) else isFalse (by simp [h])
    | .null | .bool _ | .number _ | .array _ | .object _ => isFalse (by simp)
  | .array xs, b => match b with
    | .array ys => match decEqItems xs ys with
      | isTrue h => isTrue (by rw [h])
      | isFalse h => isFalse (by simp [h])
    | .null | .bool _ | .number _ | .string _ | .object _ => isFalse (by simp)
  | .object xs, b => match b with
    | .object ys => match decEqMembers xs ys with
      | isTrue h => isTrue (by rw [h])
      | isFalse h => isFalse (by simp [h])
    | .null | .bool _ | .number _ | .string _ | .array _ => isFalse (by simp)

private def decEqItems : (xs ys : List Tree) → Decidable (xs = ys)
  | [], [] => isTrue rfl
  | [], _ :: _ => isFalse (by simp)
  | _ :: _, [] => isFalse (by simp)
  | x :: xs, y :: ys => match decEq x y, decEqItems xs ys with
    | isTrue h, isTrue t => isTrue (by rw [h, t])
    | isFalse h, _ => isFalse (by simp [h])
    | _, isFalse t => isFalse (by simp [t])

private def decEqMembers : (xs ys : List (String × Tree)) → Decidable (xs = ys)
  | [], [] => isTrue rfl
  | [], _ :: _ => isFalse (by simp)
  | _ :: _, [] => isFalse (by simp)
  | (k, x) :: xs, (l, y) :: ys =>
    if hk : k = l then match decEq x y, decEqMembers xs ys with
      | isTrue h, isTrue t => isTrue (by rw [hk, h, t])
      | isFalse h, _ => isFalse (by simp [h])
      | _, isFalse t => isFalse (by simp [t])
    else isFalse (by simp [hk])

end

instance : DecidableEq Tree := decEq

/-! ### Views -/

def isNull : Tree → Bool
  | .null => true
  | _ => false

def isString : Tree → Bool
  | .string _ => true
  | _ => false

def isArray : Tree → Bool
  | .array _ => true
  | _ => false

def string? : Tree → Option String
  | .string s => some s
  | _ => none

def array? : Tree → Option (List Tree)
  | .array items => some items
  | _ => none

def object? : Tree → Option (OrderedMap Tree)
  | .object members => some members
  | _ => none

/-- The value of a member of a mapping. -/
def member? (t : Tree) (key : String) : Option Tree := t.object?.bind fun members => OrderedMap.get? members key

def ofInt (i : Int) : Tree := .number (.int i)

mutual

/-- The number of nodes. -/
def nodes : Tree → Nat
  | .array items => nodesItems items + 1
  | .object members => nodesMembers members + 1
  | _ => 1

def nodesItems : List Tree → Nat
  | [] => 0
  | t :: rest => t.nodes + nodesItems rest

def nodesMembers : List (String × Tree) → Nat
  | [] => 0
  | (_, t) :: rest => t.nodes + nodesMembers rest

/-- The longest way from the root to a leaf, counted in nodes. -/
def depth : Tree → Nat
  | .array items => depthItems items + 1
  | .object members => depthMembers members + 1
  | _ => 1

def depthItems : List Tree → Nat
  | [] => 0
  | t :: rest => max t.depth (depthItems rest)

def depthMembers : List (String × Tree) → Nat
  | [] => 0
  | (_, t) :: rest => max t.depth (depthMembers rest)

end

end Tree

/-! ### Ranges of integers -/

/-- Whether an integer fits 64 bits, signed or unsigned. -/
def Number.fits (i : Int) : Bool := -9223372036854775808 ≤ i ∧ i < 18446744073709551616

end YamlSchema
