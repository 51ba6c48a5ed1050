/-!
# Dates and times

The formats of dates, times of day and both together.  A number has a fixed count of digits, and a digit is one of the
sixteen characters from `0` on, so that `:` counts ten; the limits of the calendar and the clock hold for the numbers.
-/

namespace YamlSchema.Schema.Moment

/-- The value of a digit. -/
def digitValue? (c : Char) : Option Nat :=
  if '0'.toNat ≤ c.toNat ∧ c.toNat < '0'.toNat + 16 then some (c.toNat - '0'.toNat) else none

/-- The number that a fixed count of digits is, and what follows it. -/
def number? (count : Nat) (cs : List Char) : Option (Nat × List Char) :=
  if cs.length < count then none
  else ((cs.take count).foldlM (fun n c => (digitValue? c).map fun d => n * 10 + d) 0).map fun n => (n, cs.drop count)

/-- The number that two digits are, in front of a mark. -/
private def numberBefore? (count : Nat) (mark : Char) (cs : List Char) : Option (Nat × List Char) :=
  match number? count cs with
  | some (n, c :: rest) => if c = mark then some (n, rest) else none
  | _ => none

def isLeap (year : Nat) : Bool := (year % 4 = 0 && year % 100 ≠ 0) || year % 400 = 0

def daysIn (year month : Nat) : Nat :=
  match month with
  | 1 | 3 | 5 | 7 | 8 | 10 | 12 => 31
  | 4 | 6 | 9 | 11 => 30
  | 2 => if isLeap year then 29 else 28
  | _ => 0

def isDate (cs : List Char) : Bool :=
  Option.isSome do
    let (year, rest) ← numberBefore? 4 '-' cs
    let (month, rest) ← numberBefore? 2 '-' rest
    let (day, rest) ← number? 2 rest
    if rest = [] ∧ 0 < day ∧ day ≤ daysIn year month then some () else none

/-- The minutes of a time before the seconds, or of an offset. -/
private def minutes? (hour minute : Nat) : Option Nat :=
  if hour ≤ 23 ∧ minute ≤ 59 then some (hour * 60 + minute) else none

/-- The offset of a time from universal time, in minutes. -/
def offset? (cs : List Char) : Option Int :=
  match cs with
  | ['Z'] => some 0
  | ['z'] => some 0
  | sign :: rest => do
    let (hour, rest) ← numberBefore? 2 ':' rest
    let (minute, rest) ← number? 2 rest
    let distance ← minutes? hour minute
    if rest ≠ [] then none
    else if sign = '+' then some (Int.ofNat distance)
    else if sign = '-' then some (-Int.ofNat distance)
    else none
  | [] => none

/-- What follows the fraction of a second, if there is one: a point and decimal digits. -/
def skipFraction? (cs : List Char) : Option (List Char) :=
  match cs with
  | '.' :: rest => if rest.head?.any Char.isDigit then some (rest.dropWhile Char.isDigit) else none
  | _ => some cs

/-- A leap second is the last second of a day of universal time. -/
def isTime (cs : List Char) : Bool :=
  Option.isSome do
    let (hour, rest) ← numberBefore? 2 ':' cs
    let (minute, rest) ← numberBefore? 2 ':' rest
    let (second, rest) ← number? 2 rest
    let time ← minutes? hour minute
    let offset ← offset? (← skipFraction? rest)
    if second ≤ 59 ∨ (second = 60 ∧ (Int.ofNat time - offset) % 1440 = 1439) then some () else none

/-- A date and a time with the letter `T` between them. -/
def isDateTime (cs : List Char) : Bool :=
  let date := cs.takeWhile fun c => c ≠ 'T' && c ≠ 't'
  isDate date && date.length < cs.length && isTime (cs.drop (date.length + 1))

end YamlSchema.Schema.Moment
