import YamlSchema.Yaml.ScalarText
import YamlSchema.Yaml.Value

/-!
# What a plain scalar means

A plain scalar is null, a truth value, an integer, a double or a string, decided by its text in this order.  Digits
behind a superfluous leading zero are a string, an integer beyond 64 but within 128 bits has no value, and one beyond
that is a double.
-/

namespace YamlSchema.Yaml

def isNull (s : String) : Bool := s = "null" || s = "Null" || s = "NULL" || s = "~"

def bool? (s : String) : Option Bool :=
  if s = "true" || s = "True" || s = "TRUE" then some true
  else if s = "false" || s = "False" || s = "FALSE" then some false
  else none

/-- The digits of a number in a base, at least one. -/
def natural? (base : Nat) (cs : List Char) : Option Nat :=
  if cs = [] then none
  else cs.foldl
    (fun acc c => acc.bind fun n => (hexValue? c).bind fun d => if d < base then some (n * base + d) else none)
    (some 0)

/-- Whether a number is written with a superfluous leading zero. -/
def hasLeadingZero (cs : List Char) : Bool :=
  let digits := match cs with
    | '-' :: rest => rest
    | '+' :: rest => rest
    | _ => cs
  match digits with
  | '0' :: c :: rest => (c :: rest).all Char.isDigit
  | _ => false

/-- The digits of an integer without its sign, decimal or behind the mark of another base. -/
def magnitude? (cs : List Char) : Option Nat :=
  match cs with
  | '0' :: 'x' :: rest => natural? 16 rest
  | '0' :: 'o' :: rest => natural? 8 rest
  | '0' :: 'b' :: rest => natural? 2 rest
  | _ => natural? 10 cs

/-- The integer that a scalar is, of any size. -/
def integer? (s : String) : Option Int :=
  let cs := s.toList
  if hasLeadingZero cs then none
  else match cs with
    | '-' :: rest => (magnitude? rest).map fun n => -(n : Int)
    | '+' :: rest => (magnitude? rest).map fun n => (n : Int)
    | _ => (magnitude? cs).map fun n => (n : Int)

/-- A decimal number without sign: digits with a point among or around them, and an exponent. -/
def decimal? (negative : Bool) (cs : List Char) : Option Double := do
  let whole := cs.takeWhile Char.isDigit
  let (fraction, rest) := match cs.dropWhile Char.isDigit with
    | '.' :: rest => (rest.takeWhile Char.isDigit, rest.dropWhile Char.isDigit)
    | rest => ([], rest)
  let digits ← natural? 10 (whole ++ fraction)
  let power : Int ← match rest with
    | [] => some 0
    | c :: rest =>
      if c = 'e' || c = 'E' then match rest with
        | '-' :: es => (natural? 10 es).map fun n => -(n : Int)
        | '+' :: es => (natural? 10 es).map fun n => (n : Int)
        | es => (natural? 10 es).map fun n => (n : Int)
      else none
  Double.ofDecimal negative digits (power - fraction.length)

/-- The double that a scalar is. -/
def real? (s : String) : Option Real :=
  if s = ".inf" || s = ".Inf" || s = ".INF" || s = "+.inf" || s = "+.Inf" || s = "+.INF" then some (.infinite false)
  else if s = "-.inf" || s = "-.Inf" || s = "-.INF" then some (.infinite true)
  else if s = ".nan" || s = ".NaN" || s = ".NAN" then some .notANumber
  else
    let finite := match s.toList with
      | '-' :: rest => decimal? true rest
      | '+' :: rest => decimal? false rest
      | cs => decimal? false cs
    finite.map .finite

/-- What a text stands for. -/
inductive Meaning where
  | null
  | bool (value : Bool)
  | number (value : Numeral)
  | string (value : String)
  /-- An integer of more than 64 and at most 128 bits. -/
  | wide (value : Int)
  deriving Repr

/-- The meaning of an integer by its size; `none` beyond 128 bits. -/
def wholeMeaning? (i : Int) : Option Meaning :=
  if Number.fits i then some (.number (.int i))
  else if -(Nat.pow 2 127 : Nat) ≤ i ∧ i < (Nat.pow 2 128 : Nat) then some (.wide i)
  else none

def integerMeaning? (s : String) : Option Meaning := (integer? s).bind wholeMeaning?

/-- The meaning of a plain scalar. -/
def plainMeaning (s : String) : Meaning :=
  if s = "" || isNull s then .null
  else match bool? s with
    | some b => .bool b
    | none => match integerMeaning? s with
      | some m => m
      | none =>
        if hasLeadingZero s.toList then .string s
        else match real? s with
          | some x => .number (.real x)
          | none => .string s

end YamlSchema.Yaml
