import YamlSchema.Decimal.Shortest
import YamlSchema.Text.Shown
import YamlSchema.Tree.Basic

/-!
# YAML values

A YAML value knows more than a value tree: keys of any kind, tags, infinities and not-a-numbers.  `Value.toTree` keeps
what a tree can hold and says what it cannot: a key that is no untagged string, number or truth value, and a number that
is not finite.  Keys become strings, and of two keys that become one string the place of the first and the value of the
last stay.
-/

namespace YamlSchema.Yaml

inductive Real where
  | finite (value : Double)
  | infinite (negative : Bool)
  | notANumber
  deriving DecidableEq, Repr

inductive Numeral where
  | int (value : Int)
  | real (value : Real)
  deriving DecidableEq, Repr

inductive Value where
  | null
  | bool (value : Bool)
  | number (value : Numeral)
  | string (value : String)
  | sequence (items : List Value)
  | mapping (entries : List (Value × Value))
  | tagged (tag : String) (value : Value)
  deriving Repr, Inhabited

/-- Doubles of keys and messages: as in trees, but a positive exponent has no sign. -/
def keyLayout : Decimal.Layout := ⟨-5, 16, false, true⟩

namespace Numeral

def text : Numeral → String
  | .int i => toString i
  | .real (.finite x) => (Decimal.shortest x).render keyLayout x.negative
  | .real (.infinite false) => ".inf"
  | .real (.infinite true) => "-.inf"
  | .real .notANumber => ".nan"

/-- Whether two numbers are the same key: integers by value, doubles by value, an integer never as a double. -/
def same : Numeral → Numeral → Bool
  | .int a, .int b => a = b
  | .real (.finite a), .real (.finite b) => Double.compareRatio a.signedRatio b.signedRatio = .eq
  | .real a, .real b => a = b
  | _, _ => false

/-- The number of a tree, unless it is not finite. -/
def toNumber? : Numeral → Option Number
  | .int i => some (.int i)
  | .real (.finite x) => some (.real x)
  | .real _ => none

end Numeral

namespace Value

/-- A tag without its exclamation mark. -/
def bareTag (tag : String) : String :=
  match tag.toList with
  | '!' :: c :: rest => String.ofList (c :: rest)
  | _ => tag

mutual

/-- Whether two values are the same key. -/
def same : Value → Value → Bool
  | .null, .null => true
  | .bool a, .bool b => a = b
  | .number a, .number b => a.same b
  | .string a, .string b => a = b
  | .sequence xs, .sequence ys => sameItems xs ys
  | .mapping xs, .mapping ys => xs.length = ys.length && sameEntries xs ys
  | .tagged t a, .tagged u b => bareTag t = bareTag u && same a b
  | _, _ => false

def sameItems : List Value → List Value → Bool
  | [], [] => true
  | x :: xs, y :: ys => same x y && sameItems xs ys
  | _, _ => false

/-- Whether every entry of the first list is one of the second. -/
def sameEntries : List (Value × Value) → List (Value × Value) → Bool
  | [], _ => true
  | (k, v) :: rest, ys => ys.any (fun e => same k e.1 && same v e.2) && sameEntries rest ys

end

mutual

/-- The text that shows a value and its kind. -/
def shown : Value → String
  | .null => "Null"
  | .bool b => s!"Bool({b})"
  | .number n => s!"Number({n.text})"
  | .string s => s!"String({Text.shown s})"
  | .sequence items => "Sequence [" ++ shownItems items ++ "]"
  | .mapping entries => "Mapping \x7b" ++ shownEntries entries ++ "\x7d"
  | .tagged tag value =>
    "TaggedValue \x7b tag: !" ++ bareTag tag ++ ", value: " ++ shown value ++ " \x7d"

def shownItems : List Value → String
  | [] => ""
  | [v] => shown v
  | v :: rest => shown v ++ ", " ++ shownItems rest

def shownEntries : List (Value × Value) → String
  | [] => ""
  | [(k, v)] => shownKey k ++ ": " ++ shown v
  | (k, v) :: rest => shownKey k ++ ": " ++ shown v ++ ", " ++ shownEntries rest

/-- Keys of the plain kinds are shown without their kind. -/
def shownKey : Value → String
  | .bool b => toString b
  | .number n => n.text
  | .string s => Text.shown s
  | .null => shown .null
  | .sequence items => shown (.sequence items)
  | .mapping entries => shown (.mapping entries)
  | .tagged tag value => shown (.tagged tag value)

end

end Value

/-- Why a value has no tree. -/
inductive Unrepresentable where
  | key (value : Value)
  | number (value : Numeral)
  deriving Repr

def Unrepresentable.message : Unrepresentable → String
  | .key value => s!"mapping key {value.shown} is not a scalar"
  | .number value => s!"number {value.text} has no JSON representation"

namespace Value

/-- The string that a key becomes. -/
def keyText? : Value → Option String
  | .string s => some s
  | .number n => some n.text
  | .bool b => some (toString b)
  | _ => none

mutual

def toTree : Value → Except Unrepresentable Tree
  | .null => .ok .null
  | .bool b => .ok (.bool b)
  | .number n => match n.toNumber? with
    | some m => .ok (.number m)
    | none => .error (.number n)
  | .string s => .ok (.string s)
  | .sequence items => do return .array (← treesOf items)
  | .mapping entries => do return .object (OrderedMap.ofEntries (← membersOf entries))
  | .tagged _ value => value.toTree

def treesOf : List Value → Except Unrepresentable (List Tree)
  | [] => .ok []
  | v :: rest => do
    let t ← v.toTree
    let ts ← treesOf rest
    return t :: ts

def membersOf : List (Value × Value) → Except Unrepresentable (List (String × Tree))
  | [] => .ok []
  | (k, v) :: rest => do
    let key ← match k.keyText? with
      | some key => pure key
      | none => throw (.key k)
    let t ← v.toTree
    let ts ← membersOf rest
    return (key, t) :: ts

end

end Value

end YamlSchema.Yaml
