import YamlSchema.Tree.Basic

/-!
# Reading JSON

A JSON text is first read as written, into a `Json`: repeated members stay, and a number out of range or a string with
half of a surrogate pair is recorded as having no value.  `Json.toTree?` then asks for every value; of repeated members
it keeps the first place and the last value.
-/

namespace YamlSchema

/-- A JSON text as written. -/
inductive Json where
  | null
  | bool (value : Bool)
  | number (value : Option Number)
  | string (value : Option String)
  | array (items : List Json)
  | object (members : List (Option String × Json))
  deriving Inhabited

namespace Json

def isBlank (c : Char) : Bool := c = ' ' ∨ c = '\n' ∨ c = '\t' ∨ c = '\r'

def skipBlanks (cs : List Char) : List Char := cs.dropWhile isBlank

/-! ### Numbers -/

def digitValue (c : Char) : Nat := c.toNat - '0'.toNat

/-- A number as written: the digits before the point, those after it, and the exponent. -/
structure Literal where
  negative : Bool
  whole : List Char
  fraction : Option (List Char)
  exponent : Option (Bool × List Char)

def naturalOf (digits : List Char) : Nat := digits.foldl (fun n c => n * 10 + digitValue c) 0

/-- The digits that fit a significand of 64 bits, and how many were read. -/
def significand : Nat → Nat → List Char → Nat × Nat
  | acc, count, [] => (acc, count)
  | acc, count, c :: rest =>
    let next := acc * 10 + digitValue c
    if next < 18446744073709551616 then significand next (count + 1) rest else (acc, count)

/-- The value of a number; `none` when it is out of range. -/
def Literal.value (l : Literal) : Option Number :=
  match l.fraction, l.exponent with
  | none, none =>
    let n := naturalOf l.whole
    let i : Int := if l.negative then -(n : Int) else n
    if Number.fits i ∧ ¬(l.negative ∧ n = 0) then some (.int i)
    else
      let (s, count) := significand 0 0 l.whole
      (Double.ofScaled l.negative s (l.whole.length - count : Nat)).map .real
  | fraction, exponent =>
    let digits := l.whole ++ fraction.getD []
    let (s, count) := significand 0 0 digits
    let power : Int := (l.whole.length : Int) - count
    match exponent with
    | none => (Double.ofScaled l.negative s power).map .real
    | some (down, es) =>
      let e := naturalOf es
      if s = 0 then some (.real (Double.zero l.negative))
      else if 2147483648 ≤ e then if down then some (.real (Double.zero l.negative)) else none
      else (Double.ofScaled l.negative s (power + (if down then -(e : Int) else e))).map .real

/-- Reads the whole part: a single zero, or digits that do not begin with one. -/
def whole? (cs : List Char) : Option (List Char × List Char) :=
  match cs with
  | '0' :: rest => match rest with
    | c :: _ => if c.isDigit then none else some (['0'], rest)
    | [] => some (['0'], rest)
  | _ => match cs.takeWhile Char.isDigit with
    | [] => none
    | digits => some (digits, cs.dropWhile Char.isDigit)

def fraction? (cs : List Char) : Option (Option (List Char) × List Char) :=
  match cs with
  | '.' :: rest => match rest.takeWhile Char.isDigit with
    | [] => none
    | digits => some (some digits, rest.dropWhile Char.isDigit)
  | _ => some (none, cs)

def exponent? (cs : List Char) : Option (Option (Bool × List Char) × List Char) :=
  let body := fun (down : Bool) (rest : List Char) => match rest.takeWhile Char.isDigit with
    | [] => none
    | digits => some (some (down, digits), rest.dropWhile Char.isDigit)
  match cs with
  | c :: rest =>
    if c = 'e' ∨ c = 'E' then match rest with
      | '+' :: more => body false more
      | '-' :: more => body true more
      | _ => body false rest
    else some (none, cs)
  | [] => some (none, cs)

def literal? (cs : List Char) : Option (Literal × List Char) := do
  let (negative, cs) := match cs with
    | '-' :: rest => (true, rest)
    | _ => (false, cs)
  let (whole, cs) ← whole? cs
  let (fraction, cs) ← fraction? cs
  let (exponent, cs) ← exponent? cs
  return (⟨negative, whole, fraction, exponent⟩, cs)

/-! ### Strings -/

def hexValue? (c : Char) : Option Nat :=
  if c.isDigit then some (c.toNat - '0'.toNat)
  else if 'a' ≤ c ∧ c ≤ 'f' then some (c.toNat - 'a'.toNat + 10)
  else if 'A' ≤ c ∧ c ≤ 'F' then some (c.toNat - 'A'.toNat + 10)
  else none

/-- Four hexadecimal digits. -/
def unit? (cs : List Char) : Option (Nat × List Char) :=
  match cs with
  | a :: b :: c :: d :: rest => do
    let a ← hexValue? a
    let b ← hexValue? b
    let c ← hexValue? c
    let d ← hexValue? d
    return (((a * 16 + b) * 16 + c) * 16 + d, rest)
  | _ => none

/-- The character of a one-letter escape. -/
def shortEscape? : Char → Option Char
  | '"' => some '"'
  | '\\' => some '\\'
  | '/' => some '/'
  | 'b' => some '\x08'
  | 'f' => some '\x0c'
  | 'n' => some '\n'
  | 'r' => some '\r'
  | 't' => some '\t'
  | _ => none

/-- The content of a string after its opening quote: the characters, each `none` where half of a surrogate pair
stands alone, and the text after the closing quote. -/
def content? : Nat → List Char → Option (List (Option Char) × List Char)
  | 0, _ => none
  | fuel + 1, cs =>
    match cs with
    | [] => none
    | '"' :: rest => some ([], rest)
    | '\\' :: 'u' :: rest => do
      let (u, rest) ← unit? rest
      if 0xD800 ≤ u ∧ u < 0xDC00 then
        match rest with
        | '\\' :: 'u' :: more =>
          let (v, more) ← unit? more
          let (chars, tail) ← content? fuel more
          let c := if 0xDC00 ≤ v ∧ v < 0xE000 then
              some (Char.ofNat (0x10000 + (u - 0xD800) * 0x400 + (v - 0xDC00)))
            else none
          return (c :: chars, tail)
        | _ =>
          let (chars, tail) ← content? fuel rest
          return (none :: chars, tail)
      else
        let (chars, tail) ← content? fuel rest
        let c := if 0xDC00 ≤ u ∧ u < 0xE000 then none else some (Char.ofNat u)
        return (c :: chars, tail)
    | '\\' :: e :: rest => do
      let c ← shortEscape? e
      let (chars, tail) ← content? fuel rest
      return (some c :: chars, tail)
    | c :: rest =>
      if c.toNat < 32 ∨ c = '\\' then none
      else do
        let (chars, tail) ← content? fuel rest
        return (some c :: chars, tail)

/-- A string whose characters are all known. -/
def stringOf? (chars : List (Option Char)) : Option String := (chars.mapM id).map String.ofList

def string? (fuel : Nat) (cs : List Char) : Option (Option String × List Char) :=
  (content? fuel cs).map fun (chars, rest) => (stringOf? chars, rest)

/-! ### Values -/

def word? (word : String) (value : Json) (cs : List Char) : Option (Json × List Char) :=
  if word.toList.isPrefixOf cs then some (value, cs.drop word.length) else none

mutual

/-- One value at the head of the text. -/
def value? : Nat → List Char → Option (Json × List Char)
  | 0, _ => none
  | fuel + 1, cs =>
    match skipBlanks cs with
    | [] => none
    | '"' :: rest => (string? fuel rest).map fun (s, tail) => (.string s, tail)
    | '[' :: rest => match skipBlanks rest with
      | ']' :: tail => some (.array [], tail)
      | rest => (items? fuel rest).map fun (items, tail) => (.array items, tail)
    | '{' :: rest => match skipBlanks rest with
      | '}' :: tail => some (.object [], tail)
      | rest => (members? fuel rest).map fun (members, tail) => (.object members, tail)
    | 'n' :: rest => word? "ull" .null rest
    | 't' :: rest => word? "rue" (.bool true) rest
    | 'f' :: rest => word? "alse" (.bool false) rest
    | cs => (literal? cs).map fun (l, tail) => (.number l.value, tail)

/-- The items up to the closing bracket, of which there is at least one. -/
def items? : Nat → List Char → Option (List Json × List Char)
  | 0, _ => none
  | fuel + 1, cs => do
    let (item, rest) ← value? fuel cs
    match skipBlanks rest with
    | ']' :: tail => return ([item], tail)
    | ',' :: more =>
      let (items, tail) ← items? fuel more
      return (item :: items, tail)
    | _ => none

/-- The members up to the closing brace, of which there is at least one. -/
def members? : Nat → List Char → Option (List (Option String × Json) × List Char)
  | 0, _ => none
  | fuel + 1, cs =>
    match skipBlanks cs with
    | '"' :: rest => do
      let (key, rest) ← string? fuel rest
      match skipBlanks rest with
      | ':' :: rest =>
        let (item, rest) ← value? fuel rest
        match skipBlanks rest with
        | '}' :: tail => return ([(key, item)], tail)
        | ',' :: more =>
          let (members, tail) ← members? fuel more
          return ((key, item) :: members, tail)
        | _ => none
      | _ => none
    | _ => none

end

/-- Reads a text that holds one value and blanks around it. -/
def parse? (text : String) : Option Json := do
  let cs := text.toList
  let (value, rest) ← value? (cs.length + 1) cs
  if skipBlanks rest = [] then some value else none

/-! ### The tree of a text -/

/-- The deepest nesting that is read, counted in collections. -/
def maxNesting : Nat := 127

mutual

/-- The tree of a value in which every part has a value and which nests at most `room` collections. -/
def toTree? (room : Nat) : Json → Option Tree
  | .null => some .null
  | .bool b => some (.bool b)
  | .number n => n.map .number
  | .string s => s.map .string
  | .array items => match room with
    | 0 => none
    | room + 1 => (treesOf? room items).map .array
  | .object members => match room with
    | 0 => none
    | room + 1 => (entriesOf? room members).map fun entries => .object (OrderedMap.ofEntries entries)

def treesOf? (room : Nat) : List Json → Option (List Tree)
  | [] => some []
  | j :: rest => do
    let t ← toTree? room j
    let ts ← treesOf? room rest
    return t :: ts

def entriesOf? (room : Nat) : List (Option String × Json) → Option (List (String × Tree))
  | [] => some []
  | (k, j) :: rest => do
    let k ← k
    let t ← toTree? room j
    let ts ← entriesOf? room rest
    return (k, t) :: ts

end

end Json

/-- Reads a tree from its JSON text. -/
def Tree.parse? (text : String) : Option Tree := (Json.parse? text).bind (Json.toTree? Json.maxNesting)

end YamlSchema
