import YamlSchema.Yaml.Cursor

/-!
# The text of a scalar

How the characters of a plain, quoted or block scalar become its text.  Inside plain and quoted scalars a gap of
blanks and line breaks is folded: blanks around a line break vanish, a single break becomes a space, and of several
breaks the first vanishes.  A break that is no line feed is not folded.
-/

namespace YamlSchema.Yaml

inductive ScalarStyle where
  | plain
  | singleQuoted
  | doubleQuoted
  | literal
  | folded
  deriving DecidableEq, Repr

/-! ### Gaps -/

/-- A gap inside a scalar: the blanks in front of the first line break, that break as content, and the breaks after it
as content. -/
structure Gap where
  blanks : List Char
  first : Option (List Char)
  more : List Char

namespace Gap

/-- What a gap contributes to the text of its scalar. -/
def text (g : Gap) : List Char :=
  match g.first with
  | none => g.blanks
  | some first => if first = ['\n'] then (if g.more = [] then [' '] else g.more) else first ++ g.more

def hasBreak (g : Gap) : Bool := g.first.isSome

/-- Reads a gap.  `indent?` is the column that a tab at the start of a line may not stand in front of. -/
def read (indent? : Option Int) : Nat → Gap → Cursor → Except Mark (Gap × Cursor)
  | 0, g, c => .ok (g, c)
  | fuel + 1, g, c =>
    if c.seesWhere isBlank then
      match g.first with
      | none => read indent? fuel { g with blanks := g.blanks ++ c.rest.take 1 } (c.skip 1)
      | some _ =>
        if c.sees '\t' && indent?.any (fun indent => (c.column : Int) < indent) then .error c.mark
        else read indent? fuel g (c.skip 1)
    else if c.seesWhere isBreak then
      let (content, next) := c.lineBreak
      match g.first with
      | none => read indent? fuel { g with first := some content } next
      | some _ => read indent? fuel { g with more := g.more ++ content } next
    else .ok (g, c)

end Gap

/-! ### Plain scalars -/

def isFlowIndicator (c : Char) : Bool := c = ',' || c = '[' || c = ']' || c = '{' || c = '}'

/-- The characters of a plain scalar up to the next gap or the end of the scalar. -/
def plainRun (flow : Bool) (since : Mark) : Nat → Cursor → Except Fault (List Char × Cursor)
  | 0, c => .ok ([], c)
  | fuel + 1, c =>
    match c.rest with
    | [] => .ok ([], c)
    | x :: _ =>
      if isBlank x || isBreak x then .ok ([], c)
      else if flow && x = ':' && (c.ahead? 1).any (fun y => isFlowIndicator y || y = '?') then
        .error (.during .plainScalar since .unexpectedColon c.mark)
      else if (x = ':' && c.spaceOrEndAt 1) || (flow && isFlowIndicator x) then .ok ([], c)
      else do
        let (run, c) ← plainRun flow since fuel (c.skip 1)
        return (x :: run, c)

/-- The rest of a plain scalar whose text so far is `text` and ends at `stop`; `gap` is what was passed since.
Returns the text, its end, the cursor, and whether it stands after a line break. -/
def plainRest (flow : Bool) (indent : Int) (since : Mark) :
    Nat → List Char → Mark → Option Gap → Cursor → Except Fault (List Char × Mark × Cursor × Bool)
  | 0, text, stop, gap, c => .ok (text, stop, c, gap.any Gap.hasBreak)
  | fuel + 1, text, stop, gap, c => do
    let broken := gap.any Gap.hasBreak
    if c.atDocumentStart || c.atDocumentEnd || c.sees '#' then return (text, stop, c, broken)
    let (run, next) ← plainRun flow since (c.rest.length + 1) c
    let joined := if run = [] then text else text ++ (gap.map Gap.text).getD [] ++ run
    let stop := if run = [] then stop else next.mark
    let open_ := if run = [] then gap else none
    if !(next.seesWhere fun x => isBlank x || isBreak x) then return (joined, stop, next, open_.any Gap.hasBreak)
    let start : Gap := open_.getD ⟨[], none, []⟩
    match Gap.read (some indent) (next.rest.length + 1) start next with
    | .error m => .error (.during .plainScalar since .tabInScalar m)
    | .ok (g, after) =>
      if !flow && (after.column : Int) < indent then return (joined, stop, after, g.hasBreak)
      plainRest flow indent since fuel joined stop (some g) after

/-! ### Quoted scalars -/

def hexValue? (c : Char) : Option Nat :=
  if c.isDigit then some (c.toNat - '0'.toNat)
  else if 'a' ≤ c ∧ c ≤ 'f' then some (c.toNat - 'a'.toNat + 10)
  else if 'A' ≤ c ∧ c ≤ 'F' then some (c.toNat - 'A'.toNat + 10)
  else none

/-- What a one-letter escape of a double quoted scalar stands for. -/
def shortEscape? (c : Char) : Option Char :=
  match c with
  | '0' => some '\x00'
  | 'a' => some '\x07'
  | 'b' => some '\x08'
  | 't' => some '\t'
  | '\t' => some '\t'
  | 'n' => some '\n'
  | 'v' => some '\x0b'
  | 'f' => some '\x0c'
  | 'r' => some '\r'
  | 'e' => some '\x1b'
  | ' ' => some ' '
  | '"' => some '"'
  | '/' => some '/'
  | '\\' => some '\\'
  | 'N' => some nextLine
  | '_' => some '\u00a0'
  | 'L' => some '\u2028'
  | 'P' => some '\u2029'
  | _ => none

/-- How many hexadecimal digits follow the letter of a numeric escape. -/
def escapeDigits? (c : Char) : Option Nat :=
  match c with
  | 'x' => some 2
  | 'u' => some 4
  | 'U' => some 8
  | _ => none

/-- The character of an escape; the cursor stands at its backslash. -/
def escape (since : Mark) (c : Cursor) : Except Fault (Char × Cursor) :=
  match (c.ahead? 1).bind shortEscape?, (c.ahead? 1).bind escapeDigits? with
  | some x, _ => .ok (x, c.skip 2)
  | none, some n =>
    let c := c.skip 2
    match (List.range n).mapM fun i => (c.ahead? i).bind hexValue? with
    | none => .error (.during .quotedEscape since .noHexNumber c.mark)
    | some digits =>
      let value := digits.foldl (fun v d => v * 16 + d) 0
      if (0xD800 ≤ value ∧ value ≤ 0xDFFF) ∨ 0x10FFFF < value then
        .error (.during .quotedEscape since .badEscapeCode c.mark)
      else .ok (Char.ofNat value, c.skip n)
  | none, none => .error (.during .quotedEscape since .unknownEscape c.mark)

/-- The characters of a quoted scalar up to the next gap or the closing quote, and whether they end in an escaped line
break. -/
def quotedRun (single : Bool) (since : Mark) : Nat → Cursor → Except Fault (List Char × Bool × Cursor)
  | 0, c => .ok ([], false, c)
  | fuel + 1, c =>
    match c.rest with
    | [] => .ok ([], false, c)
    | x :: _ =>
      if isBlank x || isBreak x then .ok ([], false, c)
      else if single && x = '\'' then
        if c.ahead? 1 = some '\'' then do
          let (run, broken, c) ← quotedRun single since fuel (c.skip 2)
          return ('\'' :: run, broken, c)
        else .ok ([], false, c)
      else if !single && x = '"' then .ok ([], false, c)
      else if !single && x = '\\' then
        if (c.ahead? 1).any isBreak then .ok ([], true, (c.skip 1).lineBreak.2)
        else do
          let (y, c) ← escape since c
          let (run, broken, c) ← quotedRun single since fuel c
          return (y :: run, broken, c)
      else do
        let (run, broken, c) ← quotedRun single since fuel (c.skip 1)
        return (x :: run, broken, c)

/-- The text of a quoted scalar; the cursor stands behind the opening quote, and behind the closing one afterwards. -/
def quotedRest (single : Bool) (since : Mark) : Nat → Cursor → Except Fault (List Char × Cursor)
  | 0, c => .error (.during .quotedScalar since .endOfStream c.mark)
  | fuel + 1, c => do
    if c.atDocumentStart || c.atDocumentEnd then
      throw (.during .quotedScalar since .documentIndicator c.mark)
    if c.atEnd then throw (.during .quotedScalar since .endOfStream c.mark)
    let (run, broken, c) ← quotedRun single since (c.rest.length + 1) c
    if c.sees (if single then '\'' else '"') then return (run, c.skip 1)
    let start : Gap := ⟨[], if broken then some [] else none, []⟩
    match Gap.read none (c.rest.length + 1) start c with
    | .error m => throw (.during .quotedScalar since .tabInScalar m)
    | .ok (g, c) =>
      let (text, c) ← quotedRest single since fuel c
      return (run ++ g.text ++ text, c)

/-! ### Block scalars -/

/-- What happens to the line breaks at the end of a block scalar. -/
inductive Chomping where
  | strip
  | clip
  | keep
  deriving DecidableEq, Repr

/-- The header of a block scalar behind its indicator: the chomping and the indentation, each in either order and both
optional. -/
def blockHeader (since : Mark) (c : Cursor) : Except Fault (Chomping × Nat × Cursor) :=
  let chomping? := fun (c : Cursor) =>
    if c.sees '+' then (Chomping.keep, c.skip 1) else if c.sees '-' then (.strip, c.skip 1) else (.clip, c)
  let indentation := fun (c : Cursor) => match c.head? with
    | some d =>
      if d = '0' then Except.error (Fault.during .blockScalar since .zeroIndentation c.mark)
      else if d.isDigit then .ok (d.toNat - '0'.toNat, c.skip 1)
      else .ok (0, c)
    | none => .ok (0, c)
  if c.sees '+' || c.sees '-' then do
    let (chomping, c) := chomping? c
    let (n, c) ← indentation c
    return (chomping, n, c)
  else do
    let (n, next) ← indentation c
    if n = 0 then return (.clip, 0, next)
    let (chomping, c) := chomping? next
    return (chomping, n, c)

/-- The empty lines in front of a line of a block scalar: their breaks as content, the widest indentation seen, and the
end of the last of them. -/
def blockBreaks (since : Mark) (indent : Nat) :
    Nat → List Char → Nat → Mark → Cursor → Except Fault (List Char × Nat × Mark × Cursor)
  | 0, breaks, widest, stop, c => .ok (breaks, widest, stop, c)
  | fuel + 1, breaks, widest, stop, c =>
    let room := if indent = 0 then c.rest.length else indent - c.column
    let c := c.skip ((c.rest.take room).takeWhile (· = ' ')).length
    let widest := max widest c.column
    if (indent = 0 || c.column < indent) && c.sees '\t' then
      .error (.during .blockScalar since .tabIndentation c.mark)
    else if c.seesWhere isBreak then
      let (content, next) := c.lineBreak
      blockBreaks since indent fuel (breaks ++ content) widest next.mark next
    else .ok (breaks, widest, stop, c)

/-- The lines of a block scalar.  `first` is the break after the line before, `breaks` are those of the empty lines
since; a folded scalar folds them unless one of the two lines begins with a blank.  Returns the text without the tail,
the two parts of the tail, the end, and the cursor. -/
def blockLines (isLiteral : Bool) (since : Mark) (indent : Nat) :
    Nat → List Char → List Char → List Char → Bool → Mark → Cursor →
      Except Fault (List Char × List Char × List Char × Mark × Cursor)
  | 0, text, first, breaks, _, stop, c => .ok (text, first, breaks, stop, c)
  | fuel + 1, text, first, breaks, blankBefore, stop, c => do
    if c.column ≠ indent || c.atEnd then return (text, first, breaks, stop, c)
    let blank := c.seesWhere isBlank
    let glue :=
      if !isLiteral && first = ['\n'] && !blankBefore && !blank then (if breaks = [] then [' '] else [])
      else first
    let (line, c) := c.span fun x => !isBreak x
    let (first, c) := c.lineBreak
    let (more, _, stop, next) ← blockBreaks since indent (c.rest.length + 1) [] 0 c.mark c
    blockLines isLiteral since indent fuel (text ++ glue ++ breaks ++ line) first more blank stop next

/-- A block scalar inside a collection of indentation `outer`; the cursor stands at its indicator.  Returns the text,
its end, and the cursor. -/
def blockScalar (isLiteral : Bool) (outer : Int) (start : Cursor) : Except Fault (List Char × Mark × Cursor) := do
  let since := start.mark
  let (chomping, increment, c) ← blockHeader since (start.skip 1)
  let c := c.skipWhere isBlank
  let c := if c.sees '#' then c.skipWhere fun x => !isBreak x else c
  if !c.breakOrEndAt 0 then throw (.during .blockScalar since .blockLineEnd c.mark)
  let c := c.lineBreak.2
  let asked : Nat := if increment = 0 then 0 else if 0 ≤ outer then outer.toNat + increment else increment
  let (breaks, widest, stop, c) ← blockBreaks since asked (c.rest.length + 1) [] 0 c.mark c
  let indent : Nat := if asked = 0 then max (max widest (outer + 1).toNat) 1 else asked
  let (text, first, tail, stop, c) ← blockLines isLiteral since indent (c.rest.length + 1) [] [] breaks false stop c
  let text := match chomping with
    | .strip => text
    | .clip => text ++ first
    | .keep => text ++ first ++ tail
  return (text, stop, c)

end YamlSchema.Yaml
