import YamlSchema.Pattern.CharClass
import YamlSchema.Text.Blank

/-!
# Plain patterns

A pattern is plain if it is a regular expression without look-around and back references.  `Plain.read` goes through a
pattern from left to right and stops at the first place where it is none.  In a plain pattern the letters for digits,
white space and word characters mean those of ASCII, so `Plain.spelledOut?` writes classes in their places; a pattern
that stops being plain at look-around or at a back reference keeps them.
-/

namespace YamlSchema

namespace Plain

/-- Why a pattern is not plain. -/
inductive Fault where
  | lookAround
  | backReference
  /-- A backslash before a small `c`, with the number of characters from it on. -/
  | control (behind : Nat)
  /-- It is no pattern at all. -/
  | broken
  deriving DecidableEq, Repr

/-! ### Characters -/

private def skipFrom : Bool → List Char → List Char
  | _, [] => []
  | true, c :: rest => skipFrom (c ≠ '\n') rest
  | false, c :: rest => if Text.isBlank c then skipFrom false rest else if c = '#' then skipFrom true rest else c :: rest

/-- What follows white space and comments, where these are `spaced` out. -/
def skip (spaced : Bool) (cs : List Char) : List Char := if spaced then skipFrom false cs else cs

/-- The character after the next `-`, as a class looks at it. -/
private def peek? (spaced : Bool) (cs : List Char) : Option Char :=
  if !spaced then cs.head?
  else match cs.dropWhile Text.isBlank with
    | '#' :: rest => (rest.dropWhile Text.isBlank).head?
    | rest => rest.head?

/-- The characters that satisfy `p`, up to the first that does not, with space after each of them. -/
private def spanSpaced (spaced : Bool) (p : Char → Bool) : Nat → List Char → List Char × List Char
  | fuel + 1, c :: rest =>
    if p c then
      let (cs, rest) := spanSpaced spaced p fuel (skip spaced rest)
      (c :: cs, rest)
    else ([], c :: rest)
  | _, cs => ([], cs)

def isHexDigit (c : Char) : Bool := c.isDigit || ('a' ≤ c && c ≤ 'f') || ('A' ≤ c && c ≤ 'F')

/-- The value of hexadecimal digits. -/
def hexValue (digits : List Char) : Nat :=
  digits.foldl (fun n c => n * 16 + (if c.isDigit then c.toNat - '0'.toNat else c.toNat % 32 + 9)) 0

def decimalValue (digits : List Char) : Nat := digits.foldl (fun n c => n * 10 + (c.toNat - '0'.toNat)) 0

/-- A character that may stand in the name of a group. -/
private def isNameChar (first : Bool) (c : Char) : Bool :=
  c = '_' || Text.Unicode.Property.alphabetic.hasChar c ||
    (!first && (c ∈ ['.', '[', ']'] || Text.Unicode.Category.isOneOf c ["nd", "nl", "no"]))

/-! ### Escapes -/

/-- One character, a set of them, or a place between two. -/
inductive Atom where
  | char (c : Char)
  | set (s : CharClass)
  | place
  deriving Repr

private def broken {α : Type} : Except Fault α := .error .broken

private def charOf (n : Nat) (rest : List Char) : Except Fault (Atom × List Char) :=
  if n.isValidChar then .ok (.char (Char.ofNat n), rest) else broken

/-- The digits of a numeric escape, in braces or as many as its letter asks for. -/
private def hexEscape (spaced : Bool) (width : Nat) (cs : List Char) : Except Fault (Atom × List Char) :=
  match skip spaced cs with
  | '{' :: rest => match spanSpaced spaced isHexDigit rest.length (skip spaced rest) with
    | ([], _) => broken
    | (digits, '}' :: rest) => charOf (hexValue digits) (skip spaced rest)
    | _ => broken
  | rest =>
    let (digits, rest) := spanSpaced spaced isHexDigit width rest
    if digits.length < width then broken else charOf (hexValue digits) rest

/-- A name with a value, which an equals sign, a colon or an inequality sign separates. -/
private def propertyName (name : List Char) : PropertyName :=
  let cut := fun (i width : Nat) =>
    PropertyName.mk (String.ofList (name.take i)) (some (String.ofList (name.drop (i + width))))
  match (List.range name.length).find? fun i => ['!', '='].isPrefixOf (name.drop i) with
  | some i => cut i 2
  | none => match name.findIdx? (· = ':') with
    | some i => cut i 1
    | none => match name.findIdx? (· = '=') with
      | some i => cut i 1
      | none => ⟨String.ofList name, none⟩

private def propertyEscape (spaced negated : Bool) (cs : List Char) : Except Fault (Atom × List Char) :=
  match skip spaced cs with
  | '{' :: rest => match spanSpaced spaced (· ≠ '}') rest.length (skip spaced rest) with
    | (name, _ :: rest) => .ok (.set (.property negated (propertyName name)), rest)
    | _ => broken
  | c :: rest =>
    if c = '\\' then broken else .ok (.set (.property negated ⟨String.singleton c, none⟩), skip spaced rest)
  | [] => broken

/-- A kind of word boundary in braces.  What does not begin like one is left to repetition. -/
private def boundaryKind (spaced : Bool) (cs : List Char) : Except Fault (Atom × List Char) :=
  let isKindChar := fun (c : Char) => c.isAlpha || c = '-'
  match cs with
  | '{' :: rest =>
    let inner := skip spaced rest
    if inner = [] then broken
    else if !inner.head?.any isKindChar then .ok (.place, cs)
    else match spanSpaced spaced isKindChar inner.length inner with
      | (kind, '}' :: rest) =>
        if String.ofList kind ∈ ["start", "end", "start-half", "end-half"] then .ok (.place, rest) else broken
      | _ => broken
  | _ => .ok (.place, cs)

/-- The escape that begins behind a backslash. -/
def escape (spaced : Bool) (cs : List Char) : Except Fault (Atom × List Char) :=
  match cs with
  | [] => broken
  | c :: rest =>
    if c.isDigit then .error .backReference
    else if c ∈ ['d', 'D', 's', 'S', 'w', 'W'] then .ok (.set (.letter c cs.length), rest)
    else match c with
      | 'x' => hexEscape spaced 2 rest
      | 'u' => hexEscape spaced 4 rest
      | 'U' => hexEscape spaced 8 rest
      | 'p' => propertyEscape spaced false rest
      | 'P' => propertyEscape spaced true rest
      | 'a' => .ok (.char '\x07', rest)
      | 'f' => .ok (.char '\x0c', rest)
      | 't' => .ok (.char '\t', rest)
      | 'n' => .ok (.char '\n', rest)
      | 'r' => .ok (.char '\r', rest)
      | 'v' => .ok (.char '\x0b', rest)
      | 'A' | 'z' | 'B' | '<' | '>' => .ok (.place, rest)
      | 'b' => boundaryKind spaced rest
      | 'c' => .error (.control (cs.length + 1))
      | _ => if c.toNat < 128 && !c.isAlphanum then .ok (.char c, rest) else broken

/-! ### Classes -/

private def classAtom (spaced : Bool) (cs : List Char) : Except Fault (Atom × List Char) :=
  match cs with
  | '\\' :: rest => escape spaced rest
  | c :: rest => .ok (.char c, rest)
  | [] => broken

/-- A class of ASCII behind its opening bracket. -/
private def asciiClass? (cs : List Char) : Option (CharClass × List Char) :=
  match cs with
  | ':' :: rest =>
    let (negated, rest) := match rest with
      | '^' :: rest => (true, rest)
      | _ => (false, rest)
    let name := rest.takeWhile (· ≠ ':')
    match rest.drop name.length with
    | ':' :: ']' :: rest =>
      let name := String.ofList name
      if (CharClass.asciiRanges? name).isSome then some (.ascii negated name, rest) else none
    | _ => none
  | _ => none

/-- The operation that two characters stand for. -/
private def operation? (cs : List Char) : Option (SetOperation × List Char) :=
  match cs with
  | '&' :: '&' :: rest => some (.intersection, rest)
  | '-' :: '-' :: rest => some (.difference, rest)
  | '~' :: '~' :: rest => some (.symmetricDifference, rest)
  | _ => none

private def joined (left : Option (SetOperation × CharClass)) (parts : List CharClass) : CharClass :=
  match left with
  | none => .union parts.reverse
  | some (o, c) => .operation o c (.union parts.reverse)

mutual

/-- A class behind its opening bracket. -/
def bracketed (spaced : Bool) : Nat → List Char → Except Fault (CharClass × List Char)
  | 0, _ => broken
  | fuel + 1, cs => do
    let (negated, rest) := match skip spaced cs with
      | '^' :: rest => (true, skip spaced rest)
      | rest => (false, rest)
    let (dashes, rest) := spanSpaced spaced (· = '-') rest.length rest
    let (first, rest) := match dashes, rest with
      | [], ']' :: rest => ([CharClass.single ']'], skip spaced rest)
      | _, _ => (dashes.map CharClass.single, rest)
    let (inner, rest) ← classParts spaced fuel first none rest
    return (.bracketed negated inner, rest)

/-- The parts of a class up to its closing bracket, behind those that were read, the last one first, and what stands
left of the last operation. -/
def classParts (spaced : Bool) :
    Nat → List CharClass → Option (SetOperation × CharClass) → List Char → Except Fault (CharClass × List Char)
  | 0, _, _, _ => broken
  | fuel + 1, parts, left, cs =>
    match skip spaced cs with
    | [] => broken
    | '[' :: rest => match asciiClass? rest with
      | some (c, rest) => classParts spaced fuel (c :: parts) left rest
      | none => do
        let (c, rest) ← bracketed spaced fuel rest
        classParts spaced fuel (c :: parts) left rest
    | ']' :: rest => .ok (joined left parts, rest)
    | cs => match operation? cs with
      | some (o, rest) => classParts spaced fuel [] (some (o, joined left parts)) rest
      | none => do
        let (first, rest) ← classAtom spaced cs
        let alone := fun (rest : List Char) => match first with
          | .char c => classParts spaced fuel (.single c :: parts) left rest
          | .set c => classParts spaced fuel (c :: parts) left rest
          | .place => broken
        match skip spaced rest with
        | '-' :: more =>
          if peek? spaced more = some ']' || peek? spaced more = some '-' then alone ('-' :: more)
          else
            let (last, rest) ← classAtom spaced (skip spaced more)
            match first, last with
            | .char low, .char high =>
              if high < low then broken else classParts spaced fuel (.range low high :: parts) left rest
            | _, _ => broken
        | rest => alone rest

end

/-- The characters of a class or of an escape that is all of a text. -/
def set? (fold : Bool) (cs : List Char) : Option Text.Unicode.Ranges :=
  match cs with
  | '[' :: rest => match bracketed false (cs.length + 2) rest with
    | .ok (c, []) => c.ranges? fold
    | _ => none
  | '\\' :: rest => match escape false rest with
    | .ok (.set c, []) => c.ranges? fold
    | _ => none
  | _ => none

/-! ### Whole patterns -/

/-- How deep a pattern may nest. -/
def depthLimit : Nat := 250

/-- What was read of a sequence: whether it can be repeated, and how deep it nests. -/
private structure Part where
  repeats : Bool
  depth : Nat

/-- What is known of the whole pattern: the names of its groups, and its letters for digits, white space and words. -/
private structure Known where
  names : List (List Char)
  letters : List (Char × Nat)

private def depthOfSequence : List Part → Nat
  | [] => 0
  | [p] => p.depth
  | parts => 1 + (parts.map Part.depth).foldl max 0

private def depthOfBranches (others : List Nat) (last : Nat) : Nat :=
  if others.isEmpty then last else 1 + others.foldl max last

/-- The letters between a question mark and a colon or a parenthesis; whether they switch spacing. -/
private def flags (seen : List Char) (spacing : Option Bool) : List Char → Except Fault (List Char × Option Bool × List Char)
  | [] => broken
  | c :: rest =>
    if c = ':' || c = ')' then if seen.head? = some '-' then broken else .ok (seen, spacing, c :: rest)
    else if c ∈ seen || c ∉ ['-', 'i', 'm', 's', 'U', 'u', 'R', 'x'] then broken
    else flags (c :: seen) (if c = 'x' then some ('-' ∉ seen) else spacing) rest

private def groupName (known : Known) (cs : List Char) : Except Fault (Known × List Char) :=
  let name := cs.takeWhile (· ≠ '>')
  match name, cs.drop name.length with
  | first :: more, _ :: rest =>
    if isNameChar true first && more.all (isNameChar false) && name ∉ known.names then
      .ok ({ known with names := name :: known.names }, rest)
    else broken
  | _, _ => broken

/-- A number with space around and between its digits. -/
private def number (spaced : Bool) (cs : List Char) : Except Fault (Nat × List Char) :=
  let (digits, rest) := spanSpaced spaced Char.isDigit cs.length (cs.dropWhile Text.isBlank)
  if digits = [] || 4294967296 ≤ decimalValue digits then broken
  else .ok (decimalValue digits, skip spaced (rest.dropWhile Text.isBlank))

/-- The bounds of a repetition behind the opening brace. -/
private def bounds (spaced : Bool) (cs : List Char) : Except Fault (List Char) := do
  let (low, rest) ← number spaced (skip spaced cs)
  let (high, rest) ← match rest with
    | ',' :: rest => match skip spaced rest with
      | '}' :: rest => pure (low, '}' :: rest)
      | rest => number spaced rest
    | _ => pure (low, rest)
  match rest with
  | '}' :: rest => if high < low then broken else return skip spaced rest
  | _ => broken

private def isLookAround (cs : List Char) : Bool :=
  [['?', '='], ['?', '!'], ['?', '<', '='], ['?', '<', '!']].any fun start => start.isPrefixOf cs

private def afterLazy (cs : List Char) : List Char :=
  match cs with
  | '?' :: rest => rest
  | _ => cs

private def repeated (parts : List Part) : Except Fault (List Part) :=
  match parts with
  | p :: rest => if p.repeats then .ok (⟨true, 1 + p.depth⟩ :: rest) else broken
  | [] => broken

/-- Alternatives up to a closing parenthesis or the end of the text, behind some branches and the parts of the present
one, the last part first. -/
private def alternatives :
    Nat → Bool → Known → List Nat → List Part → List Char → Except Fault (Nat × Known × List Char)
  | 0, _, _, _, _, _ => broken
  | fuel + 1, spaced, known, branches, parts, cs =>
    let found := depthOfBranches branches (depthOfSequence parts)
    let inside := fun (spacedInside : Bool) (known : Known) (rest : List Char) => do
      match ← alternatives fuel spacedInside known [] [] rest with
      | (depth, known, ')' :: rest) => alternatives fuel spaced known branches (⟨true, 1 + depth⟩ :: parts) rest
      | _ => broken
    match skip spaced cs with
    | [] => .ok (found, known, [])
    | ')' :: rest => .ok (found, known, ')' :: rest)
    | '|' :: rest => alternatives fuel spaced known (depthOfSequence parts :: branches) [] rest
    | '(' :: rest =>
      let rest := skip spaced rest
      if isLookAround rest then .error .lookAround
      else match rest with
        | '?' :: 'P' :: '<' :: rest => do
          let (known, rest) ← groupName known rest
          inside spaced known rest
        | '?' :: '<' :: rest => do
          let (known, rest) ← groupName known rest
          inside spaced known rest
        | '?' :: rest => do
          let (letters, spacing, rest) ← flags [] none rest
          match rest with
          | ':' :: rest => inside (spacing.getD spaced) known rest
          | _ =>
            if letters = [] then broken
            else alternatives fuel (spacing.getD spaced) known branches (⟨false, 0⟩ :: parts) (rest.drop 1)
        | _ => inside spaced known rest
    | '[' :: rest => do
      let (c, rest) ← bracketed spaced (rest.length + 2) rest
      alternatives fuel spaced { known with letters := known.letters ++ c.lettersOf } branches
        (⟨true, c.depth⟩ :: parts) rest
    | '{' :: rest => do
      let parts ← repeated parts
      alternatives fuel spaced known branches parts (afterLazy (← bounds spaced rest))
    | '\\' :: rest => do
      let (a, rest) ← escape spaced rest
      let letters := match a with
        | .set c => c.lettersOf
        | _ => []
      alternatives fuel spaced { known with letters := known.letters ++ letters } branches (⟨true, 0⟩ :: parts) rest
    | c :: rest => do
      if c = '?' || c = '*' || c = '+' then
        alternatives fuel spaced known branches (← repeated parts) (afterLazy rest)
      else alternatives fuel spaced known branches (⟨true, 0⟩ :: parts) rest

/-- Goes through a pattern; finds its letters for digits, white space and words, with the number of characters behind
the backslash of each. -/
def read (cs : List Char) : Except Fault (List (Char × Nat)) := do
  match ← alternatives (cs.length + 1) false ⟨[], []⟩ [] [] cs with
  | (depth, known, []) => if depthLimit < depth then broken else return known.letters
  | _ => broken

/-! ### ASCII classes in place of letters -/

/-- The class that a letter stands for. -/
private def spelling (c : Char) : List Char :=
  match c with
  | 'd' => "[0-9]".toList
  | 'D' => "[^0-9]".toList
  | 's' => "[ \t\n\r\x0b\x0c\u2003\ufeff\u2029\u00a0]".toList
  | 'S' => "[^ \t\n\r\x0b\x0c\u2003\ufeff\u2029\u00a0]".toList
  | 'w' => "[A-Za-z0-9_]".toList
  | _ => "[^A-Za-z0-9_]".toList

/-- Writes classes for the letters that stand at some places, given by the number of characters behind a backslash. -/
private def spell (letters : List (Char × Nat)) : List Char → List Char
  | '\\' :: c :: rest =>
    if letters.any fun l => l.2 = rest.length + 1 then spelling c ++ spell letters rest
    else '\\' :: spell letters (c :: rest)
  | c :: rest => c :: spell letters rest
  | [] => []

private def spelledOutFrom : Nat → List Char → Option (List Char)
  | 0, _ => none
  | fuel + 1, cs => match read cs with
    | .ok letters =>
      let spelled := spell letters cs
      if (read spelled).toOption.isSome then some spelled else none
    | .error .lookAround | .error .backReference => some cs
    | .error .broken => none
    | .error (.control behind) =>
      let start := cs.length - behind
      match cs.drop (start + 2) with
      | c :: rest =>
        if c.isAlpha then spelledOutFrom fuel (cs.take start ++ Char.ofNat (c.toNat % 32) :: rest) else none
      | [] => none

/-- A pattern with control letters as the characters that they stand for, and if it is plain with classes of ASCII in
place of letters for digits, white space and words; `none` if it is no pattern. -/
def spelledOut? (text : String) : Option String :=
  (spelledOutFrom (text.length + 1) text.toList).map String.ofList

end Plain

end YamlSchema
