import YamlSchema.Pattern.Plain

/-!
# Expressions

The structure of a pattern: sets of characters, places between characters, sequences, choices, repetitions, groups,
look-around, back references and conditions.  `Expression.read?` reads it, and leaves nothing of the notation: letters
in either case have become sets, and names of groups their numbers.
-/

namespace YamlSchema

/-- A place between two characters. -/
inductive Place where
  | textStart
  | textEnd
  | lineStart
  | lineEnd
  | wordStart
  | wordEnd
  /-- Either end of a word. -/
  | wordEdge
  /-- No end of a word. -/
  | noWordEdge
  deriving DecidableEq, Repr

inductive Expression where
  | empty
  | set (s : Text.Unicode.Ranges)
  | place (p : Place)
  | sequence (parts : List Expression)
  | choice (branches : List Expression)
  | group (index : Nat) (e : Expression)
  /-- At least `low` times, and at most `high` times if that is given. -/
  | repeated (low : Nat) (high : Option Nat) (greedy : Bool) (e : Expression)
  /-- Whether something matches ahead of a place or behind it, or does not. -/
  | look (ahead positive : Bool) (e : Expression)
  /-- What matches first, which is not taken back. -/
  | atomic (e : Expression)
  /-- What a group matched, once more. -/
  | back (index : Nat)
  /-- Whether a group was entered. -/
  | entered (index : Nat)
  | conditional (test yes no : Expression)
  /-- The match is taken to begin here; that changes nothing about whether there is one. -/
  | keepOut
  /-- The place where the search began. -/
  | searchStart
  deriving Repr

namespace Expression

/-! ### Reading -/

/-- What letters in a group switch. -/
structure Flags where
  fold : Bool
  lines : Bool
  dotAll : Bool
  /-- Repetitions are lazy unless they say otherwise. -/
  lazily : Bool
  spaced : Bool

/-- What is known while a pattern is read. -/
structure Known where
  flags : Flags
  /-- How many groups were opened. -/
  count : Nat
  names : List (List Char × Nat)
  /-- Whether a back reference gave a number. -/
  numbered : Bool
  /-- The groups that are referred to. -/
  used : List Nat
  /-- Numbers of groups are below this. -/
  limit : Nat

private abbrev Reader := StateT Known Option

private def refuse {α : Type} : Reader α := failure

/-- What stands between two parts of a pattern, and is passed over. -/
private inductive Gap where
  | space
  | line
  | remark

/-- What follows remarks, and where it is `spaced` out white space and comments; `none` if a remark does not end. -/
private def passed (spaced : Bool) : Gap → List Char → Option (List Char)
  | .remark, [] => none
  | .remark, ')' :: rest => passed spaced .space rest
  | .remark, '\\' :: _ :: rest => passed spaced .remark rest
  | .remark, _ :: rest => passed spaced .remark rest
  | .line, [] => some []
  | .line, c :: rest => passed spaced (if c = '\n' then .space else .line) rest
  | .space, '(' :: '?' :: '#' :: rest => passed spaced .remark rest
  | .space, c :: rest =>
    if spaced && c = '#' then passed spaced .line rest
    else if spaced && (c = ' ' || c = '\r' || c = '\n' || c = '\t') then passed spaced .space rest
    else some (c :: rest)
  | .space, [] => some []

private def pass (cs : List Char) : Reader (List Char) := do passed (← get).flags.spaced .space cs

private def isIdChar (c : Char) : Bool :=
  c = '_' || Text.Unicode.Property.alphabetic.hasChar c || Text.Unicode.Category.isOneOf c ["nd", "nl", "no"]

/-- A name up to a closing character; a number that counts back from the last group begins with a minus sign. -/
private def identifier (close : Char) (relative : Bool) (cs : List Char) : Option (List Char × List Char) :=
  let (sign, cs) := match relative, cs with
    | true, '-' :: rest => (['-'], rest)
    | _, _ => ([], cs)
  let name := cs.takeWhile isIdChar
  match cs.drop name.length with
  | c :: rest => if c = close && sign ++ name ≠ [] then some (sign ++ name, rest) else none
  | [] => none

private def reference (index : Nat) : Reader Expression := do
  let k ← get
  if k.count < index then refuse
  modify fun k => { k with used := index :: k.used }
  return .back index

private def numberedReference (cs : List Char) : Reader (Expression × List Char) := do
  let digits := cs.takeWhile Char.isDigit
  let index := Plain.decimalValue digits
  let k ← get
  if digits = [] || k.limit ≤ index then refuse
  modify fun k => { k with numbered := true }
  return (← reference index, cs.drop digits.length)

private def namedReference (close : Char) (relative : Bool) (cs : List Char) : Reader (Expression × List Char) := do
  let (name, rest) ← identifier close relative cs
  let k ← get
  match k.names.find? fun n => n.1 = name, name with
  | some (_, index), _ => return (← reference index, rest)
  | none, '-' :: digits =>
    if digits = [] || !digits.all Char.isDigit || k.count + 1 < Plain.decimalValue digits then refuse
    return (← reference (k.count + 1 - Plain.decimalValue digits), rest)
  | none, digits =>
    if !digits.all Char.isDigit then refuse
    return (← reference (Plain.decimalValue digits), rest)

/-- The digits of a numeric escape: as many as its letter asks for, or some in braces. -/
private def numericEscape? (width : Nat) (cs : List Char) : Option (Char × List Char) :=
  let found := fun (digits rest : List Char) =>
    let n := Plain.hexValue digits
    if n.isValidChar then some (Char.ofNat n, rest) else none
  if width ≤ cs.length && (cs.take width).all Plain.isHexDigit then found (cs.take width) (cs.drop width)
  else match cs with
    | '{' :: rest =>
      let digits := rest.takeWhile Plain.isHexDigit
      match rest.drop digits.length with
      | '}' :: rest => if digits = [] || 8 < digits.length then none else found digits rest
      | _ => none
    | _ => none

/-- What an escape stands for. -/
private inductive Escape where
  | char (c : Char)
  /-- The text of a class of characters. -/
  | set (text : List Char)
  | expression (e : Expression)

/-- Line breaks and the end of the text. -/
private def beforeLastBreaks : Expression :=
  .look true true (.sequence [.repeated 0 none true (.set [(10, 10)]), .place .textEnd])

/-- Letters that mean no place inside of a class. -/
private def placeEscape? (c : Char) (rest : List Char) : Option (Option (Expression × List Char)) :=
  match c with
  | 'A' => some (some (.place .textStart, rest))
  | 'z' => some (some (.place .textEnd, rest))
  | 'b' => some (if rest.head? = some '{' then none else some (.place .wordEdge, rest))
  | 'B' => some (if rest.head? = some '{' then none else some (.place .noWordEdge, rest))
  | '<' => some (some (.place .wordStart, rest))
  | '>' => some (some (.place .wordEnd, rest))
  | 'K' => some (some (.keepOut, rest))
  | 'G' => some (some (.searchStart, rest))
  | 'Z' => some (some (beforeLastBreaks, rest))
  | _ => none

/-- The escape behind a backslash, in a class or outside of one. -/
private def escape (inClass : Bool) (cs : List Char) : Reader (Escape × List Char) := do
  let c :: rest := cs | refuse
  let expression := fun (found : Expression × List Char) => (Escape.expression found.1, found.2)
  if c.isDigit then return expression (← numberedReference cs)
  if c = 'k' && !inClass then
    match rest with
    | '\'' :: rest => return expression (← namedReference '\'' true rest)
    | '<' :: rest => return expression (← namedReference '>' true rest)
    | _ => refuse
  if !inClass then
    if let some found := placeEscape? c rest then return expression (← found)
  if c ∈ ['d', 'D', 's', 'S', 'w', 'W'] then return (.set ['\\', c], rest)
  if c = 'h' then return (.set "[0-9A-Fa-f]".toList, rest)
  if c = 'H' then return (.set "[^0-9A-Fa-f]".toList, rest)
  let numeric := fun (width : Nat) => do
    let (c, rest) ← numericEscape? width rest
    return (Escape.char c, rest)
  match c with
  | 'x' => numeric 2
  | 'u' => numeric 4
  | 'U' => numeric 8
  | 'p' | 'P' => match rest with
    | '{' :: more =>
      let name := more.takeWhile (· ≠ '}')
      if name.length = more.length then refuse
      return (.set ('\\' :: c :: '{' :: name ++ ['}']), more.drop (name.length + 1))
    | l :: rest => return (.set ['\\', c, l], rest)
    | [] => refuse
  | 'a' => return (.char '\x07', rest)
  | 'b' => return (.char '\x08', rest)
  | 'f' => return (.char '\x0c', rest)
  | 'n' => return (.char '\n', rest)
  | 'r' => return (.char '\r', rest)
  | 't' => return (.char '\t', rest)
  | 'v' => return (.char '\x0b', rest)
  | 'e' => return (.char '\x1b', rest)
  | _ => if c.isAlpha && c ∉ ['k', 'A', 'z', 'B', 'K', 'G'] then refuse else return (.char c, rest)

/-- A character as it is written in a class. -/
private def quotedChar (c : Char) : List Char :=
  if c ∈ ['\\', '.', '+', '*', '?', '(', ')', '|', '[', ']', '{', '}', '^', '$', '#', '&', '-', '~'] then ['\\', c]
  else [c]

/-- The text of a class from its opening bracket on, as far as brackets are balanced, with its escapes resolved. -/
private def classText : Nat → Nat → List Char → List Char → Reader (List Char × List Char)
  | 0, _, _, _ => refuse
  | fuel + 1, open_, text, cs =>
    match cs with
    | [] => refuse
    | '\\' :: rest => do
      match ← escape true rest with
      | (.char c, rest) => classText fuel open_ (text ++ quotedChar c) rest
      | (.set inner, rest) => classText fuel open_ (text ++ inner) rest
      | (.expression _, _) => refuse
    | '[' :: rest => classText fuel (open_ + 1) (text ++ ['[']) rest
    | ']' :: rest =>
      if open_ = 0 then return (text ++ [']'], rest) else classText fuel (open_ - 1) (text ++ [']']) rest
    | c :: rest => classText fuel open_ (text ++ [c]) rest

private def characterClass (cs : List Char) : Reader (Expression × List Char) := do
  let (start, cs) := match cs with
    | '^' :: rest => (['[', '^'], rest)
    | _ => (['['], cs)
  let (start, cs) := match cs with
    | ']' :: rest => (start ++ ['\\', ']'], rest)
    | _ => (start, cs)
  let (text, rest) ← classText (cs.length + 1) 0 start cs
  return (.set (← Plain.set? (← get).flags.fold text), rest)

private def literal (fold : Bool) (c : Char) : Expression :=
  let one := Text.Unicode.Ranges.single c.toNat
  .set (if fold then Text.Unicode.CaseFold.closure one else one)

private def bound? (cs : List Char) : Option (Nat × List Char) :=
  match cs.takeWhile Char.isDigit with
  | [] => none
  | digits =>
    let n := Plain.decimalValue digits
    if n < 18446744073709551616 then some (n, cs.drop digits.length) else none

/-- The bounds of a repetition behind an opening brace; the lower one is zero if it is left out. -/
private def bounds? (spaced : Bool) (cs : List Char) : Option (Nat × Option Nat × List Char) := do
  let cs ← passed spaced .space cs
  let (low, cs) ← if cs.head? = some ',' then some (0, cs) else bound? cs
  let (high, cs) ← match ← passed spaced .space cs with
    | ',' :: rest => do
      let rest ← passed spaced .space rest
      match bound? rest with
      | some (n, rest) => some (some n, rest)
      | none => some (none, rest)
    | rest => some (some low, rest)
  match ← passed spaced .space cs with
  | '}' :: rest => return (low, high, rest)
  | _ => none

/-- What may not be repeated. -/
private def isFixed : Expression → Bool
  | .empty | .place _ | .look _ _ _ => true
  | _ => false

private def isEmpty : Expression → Bool
  | .empty => true
  | _ => false

/-- How deep groups may nest. -/
def groupLimit : Nat := 63

private def closed (cs : List Char) : Reader (List Char) := do
  match ← pass cs with
  | ')' :: rest => return rest
  | _ => refuse

/-- The letters of a group up to a colon or a parenthesis. -/
private def switches : Nat → Bool → Bool → List Char → Reader (List Char)
  | 0, _, _, _ => refuse
  | fuel + 1, on, any, cs => do
    let c :: rest ← pass cs | refuse
    let f := (← get).flags
    let next := fun (f : Flags) => do
      modify fun k => { k with flags := f }
      switches fuel on true rest
    match c with
    | 'i' => next { f with fold := on }
    | 'm' => next { f with lines := on }
    | 's' => next { f with dotAll := on }
    | 'U' => next { f with lazily := on }
    | 'x' => next { f with spaced := on }
    | 'u' => if on then next f else refuse
    | '-' => if on then switches fuel false any rest else refuse
    | ')' => if any then return c :: rest else refuse
    | ':' => if any || on then return c :: rest else refuse
    | _ => refuse

private def openGroup (name : List Char) : Reader Nat := do
  let k ← get
  let names := if name = [] then k.names else (name, k.count + 1) :: k.names
  modify fun k => { k with count := k.count + 1, names := names }
  return k.count + 1

mutual

/-- Alternatives, `depth` groups deep. -/
private def alternatives : Nat → Nat → List Char → Reader (Expression × List Char)
  | 0, _, _ => refuse
  | fuel + 1, depth, cs => do
    let (first, rest) ← branch fuel depth [] cs
    let rest ← pass rest
    if rest.head? = some '|' then
      let (others, rest) ← otherBranches fuel depth rest
      return (.choice (first :: others), rest)
    else
      let k ← get
      if k.numbered && !k.names.isEmpty then refuse
      return (first, rest)

private def otherBranches : Nat → Nat → List Char → Reader (List Expression × List Char)
  | 0, _, _ => refuse
  | fuel + 1, depth, cs =>
    match cs with
    | '|' :: rest => do
      let (e, rest) ← branch fuel depth [] rest
      let (others, rest) ← otherBranches fuel depth (← pass rest)
      return (e :: others, rest)
    | _ => return ([], cs)

/-- The parts of a sequence behind those that were read, the last one first. -/
private def branch : Nat → Nat → List Expression → List Char → Reader (Expression × List Char)
  | 0, _, _, _ => refuse
  | fuel + 1, depth, parts, cs => do
    let found := match parts with
      | [] => Expression.empty
      | [e] => e
      | _ => .sequence parts.reverse
    if cs = [] then return (found, [])
    let (e, rest) ← piece fuel depth cs
    if rest.length = cs.length then return (found, rest)
    branch fuel depth (if isEmpty e then parts else e :: parts) rest

/-- An atom with a repetition behind it. -/
private def piece : Nat → Nat → List Char → Reader (Expression × List Char)
  | 0, _, _ => refuse
  | fuel + 1, depth, cs => do
    let (e, rest) ← atom fuel depth cs
    let rest ← pass rest
    let f := (← get).flags
    let bounds := match rest with
      | '?' :: rest => some (0, some 1, rest)
      | '*' :: rest => some (0, none, rest)
      | '+' :: rest => some (1, none, rest)
      | '{' :: rest => bounds? f.spaced rest
      | _ => none
    match bounds with
    | none => return (e, rest)
    | some (low, high, rest) =>
      if isFixed e then refuse
      let rest ← pass rest
      let (lazy_, rest) := match rest with
        | '?' :: rest => (true, rest)
        | _ => (false, rest)
      let e := Expression.repeated low high (lazy_ == f.lazily) e
      match rest with
      | '+' :: rest => return (.atomic e, rest)
      | _ => return (e, rest)

private def atom : Nat → Nat → List Char → Reader (Expression × List Char)
  | 0, _, _ => refuse
  | fuel + 1, depth, cs => do
    let cs ← pass cs
    let f := (← get).flags
    match cs with
    | [] => return (.empty, [])
    | '.' :: rest =>
      return (.set (if f.dotAll then Text.Unicode.Ranges.all else Text.Unicode.Ranges.complement [(10, 10)]), rest)
    | '^' :: rest => return (.place (if f.lines then .lineStart else .textStart), rest)
    | '$' :: rest => return (.place (if f.lines then .lineEnd else .textEnd), rest)
    | '(' :: rest => parenthesis fuel depth rest
    | '[' :: rest => characterClass rest
    | '\\' :: rest =>
      match ← escape false rest with
      | (.char c, rest) => return (literal f.fold c, rest)
      | (.set text, rest) => return (.set (← Plain.set? f.fold text), rest)
      | (.expression e, rest) => return (e, rest)
    | c :: rest =>
      if c ∈ ['+', '*', '?', '|', ')'] then return (.empty, cs) else return (literal f.fold c, rest)

/-- A group behind its opening parenthesis. -/
private def parenthesis : Nat → Nat → List Char → Reader (Expression × List Char)
  | 0, _, _ => refuse
  | fuel + 1, depth, cs => do
    if groupLimit ≤ depth then refuse
    let inside := fun (wrap : Expression → Expression) (rest : List Char) => do
      let (e, rest) ← alternatives fuel (depth + 1) rest
      return (wrap e, ← closed rest)
    match ← pass cs with
    | '?' :: '=' :: rest => inside (.look true true) rest
    | '?' :: '!' :: rest => inside (.look true false) rest
    | '?' :: '<' :: '=' :: rest => inside (.look false true) rest
    | '?' :: '<' :: '!' :: rest => inside (.look false false) rest
    | '?' :: '<' :: rest =>
      let (name, rest) ← identifier '>' false rest
      inside (.group (← openGroup name)) rest
    | '?' :: 'P' :: '<' :: rest =>
      let (name, rest) ← identifier '>' false rest
      inside (.group (← openGroup name)) rest
    | '?' :: 'P' :: '=' :: rest => namedReference ')' false rest
    | '?' :: '>' :: rest => inside .atomic rest
    | '?' :: '(' :: rest => condition fuel (depth + 1) rest
    | '?' :: rest =>
      let before := (← get).flags
      match ← switches (rest.length + 1) true false rest with
      | ':' :: rest =>
        let (e, rest) ← alternatives fuel (depth + 1) rest
        let ')' :: rest := rest | refuse
        modify fun k => { k with flags := before }
        return (e, rest)
      | rest => return (.empty, rest.drop 1)
    | rest => inside (.group (← openGroup [])) rest

/-- A condition behind its opening parenthesis, and the two expressions that it decides between. -/
private def condition : Nat → Nat → List Char → Reader (Expression × List Char)
  | 0, _, _ => refuse
  | fuel + 1, depth, cs => do
    let (test, rest) ← match cs with
      | [] => refuse
      | '\'' :: rest => namedReference '\'' true rest
      | '<' :: rest => namedReference '>' true rest
      | c :: _ => if c.isDigit then numberedReference cs else alternatives fuel depth cs
    let rest ← closed rest
    let (inner, behind) ← alternatives fuel depth rest
    let test' := match test with
      | .back index => Expression.entered index
      | e => e
    if behind.length = rest.length then
      match test with
      | .back _ => return (test', ← closed behind)
      | _ => refuse
    let (yes, no) := match inner with
      | .choice [yes, no] => (yes, no)
      | .choice (yes :: others) => (yes, .choice others)
      | e => (e, .empty)
    let after ← closed behind
    if isEmpty yes && isEmpty no then return (test', after) else return (.conditional test' yes no, after)

end

/-- Reads a pattern; also says which groups it refers to. -/
def read? (text : String) : Option (Expression × List Nat) :=
  let cs := text.toList
  let start : Known := ⟨⟨false, false, false, false, false⟩, 0, [], false, [], text.utf8ByteSize / 2⟩
  match (alternatives (6 * cs.length + 8) 0 cs).run start with
  | some ((e, []), k) => some (e, k.used)
  | _ => none

end Expression

end YamlSchema
