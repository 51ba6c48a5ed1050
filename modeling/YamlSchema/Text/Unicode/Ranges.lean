/-!
# Sets of characters as ranges

A set of characters is kept as the ranges of their numbers, in ascending order and with a gap between any two of them.
The tables of this folder are written as texts: numbers in base 32, of which the gaps between ranges and their lengths
are read.
-/

namespace YamlSchema.Text.Unicode

/-- The largest number of a character. -/
def lastCode : Nat := 0x10FFFF

/-! ### Written numbers -/

/-- The value of a digit: `0` to `9`, `A` to `Z`, `a` to `z`, `+` and `-` count from 0 to 63. -/
def digitValue (c : Char) : Nat :=
  if c.isDigit then c.toNat - '0'.toNat
  else if c.isUpper then c.toNat - 'A'.toNat + 10
  else if c.isLower then c.toNat - 'a'.toNat + 36
  else if c = '+' then 62
  else 63

private def numbersFrom (n : Nat) : List Char → List Nat
  | [] => []
  | c :: rest =>
    let m := n * 32 + digitValue c % 32
    if digitValue c < 32 then m :: numbersFrom 0 rest else numbersFrom m rest

/-- The numbers that a text holds: each in base 32, with 32 added to every digit but the last. -/
def numbers (text : String) : List Nat := numbersFrom 0 text.toList

/-- A number with a sign, which its last bit gives. -/
def signed (n : Nat) : Int := if n % 2 = 0 then Int.ofNat (n / 2) else -Int.ofNat ((n + 1) / 2)

/-! ### Ranges -/

/-- Ranges of numbers, with both their ends. -/
abbrev Ranges := List (Nat × Nat)

namespace Ranges

def has (r : Ranges) (n : Nat) : Bool := r.any fun p => p.1 ≤ n && n ≤ p.2

def hasChar (r : Ranges) (c : Char) : Bool := r.has c.toNat

def all : Ranges := [(0, lastCode)]

def single (n : Nat) : Ranges := [(n, n)]

def ofChars (cs : List Char) : Ranges := cs.map fun c => (c.toNat, c.toNat)

private def decodeFrom (next : Nat) : List Nat → Ranges
  | gap :: length :: rest => (next + gap, next + gap + length) :: decodeFrom (next + gap + length + 1) rest
  | _ => []

/-- The ranges that a text holds: for each the gap before it and the number of its members behind the first. -/
def decode (text : String) : Ranges := decodeFrom 0 (numbers text)

/-- The first range of a text that begins with two numbers of one digit. -/
theorem exists_decode {text : String} {a b : Char} {rest : List Char} (h : text.toList = a :: b :: rest)
    (ha : digitValue a < 32) (hb : digitValue b < 32) :
    ∃ r, decode text = (digitValue a, digitValue a + digitValue b) :: r := by
  rw [decode, numbers, h, numbersFrom]
  simp only [ha, if_true, numbersFrom, hb, decodeFrom, Nat.zero_mul, Nat.zero_add, Nat.mod_eq_of_lt]
  exact ⟨_, rfl⟩

/-- Joins ranges in ascending order that meet or overlap, the first of which is given. -/
private def join (p : Nat × Nat) : Ranges → Ranges
  | [] => [p]
  | q :: rest => if q.1 ≤ p.2 + 1 then join (p.1, max p.2 q.2) rest else p :: join q rest

/-- The same set in its normal form. -/
def normal (r : Ranges) : Ranges :=
  match r.mergeSort fun p q => p.1 ≤ q.1 with
  | [] => []
  | p :: rest => join p rest

def union (r s : Ranges) : Ranges := normal (r ++ s)

private def complementFrom (next : Nat) : Ranges → Ranges
  | [] => if next ≤ lastCode then [(next, lastCode)] else []
  | p :: rest => if next < p.1 then (next, p.1 - 1) :: complementFrom (p.2 + 1) rest else complementFrom (p.2 + 1) rest

/-- The characters that are not in a set, which is in its normal form. -/
def complement (r : Ranges) : Ranges := complementFrom 0 r

/-- What two sets have in common, both in their normal form. -/
def inter (r s : Ranges) : Ranges := complement (union (complement r) (complement s))

def diff (r s : Ranges) : Ranges := inter r (complement s)

def symmDiff (r s : Ranges) : Ranges := diff (union r s) (inter r s)

end Ranges

/-! ### Partitions -/

/-- A run of characters that share the value of a property. -/
structure Run where
  first : Nat
  last : Nat
  value : Nat

private def runsFrom (next : Nat) : List Nat → List Run
  | value :: length :: rest => ⟨next, next + length, value⟩ :: runsFrom (next + length + 1) rest
  | _ => []

/-- The runs that a text holds, from the first character on: for each its value and the number of its members behind the
first. -/
def decodeRuns (text : String) : List Run := runsFrom 0 (numbers text)

/-- The value of a character. -/
def valueIn (runs : List Run) (n : Nat) : Nat := ((runs.find? fun r => n ≤ r.last).map Run.value).getD 0

/-- The characters whose value satisfies `p`. -/
def rangesWhere (runs : List Run) (p : Nat → Bool) : Ranges :=
  Ranges.normal ((runs.filter fun r => p r.value).map fun r => (r.first, r.last))

end YamlSchema.Text.Unicode
