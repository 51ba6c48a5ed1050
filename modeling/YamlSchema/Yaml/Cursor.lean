import YamlSchema.Yaml.Fault

/-!
# Reading characters

The character classes of YAML, which characters a text may hold at all, and the `Cursor`, a place in a text with what
follows it.  A line break is CR LF, CR, LF, U+0085, U+2028 or U+2029; read as content, the first four are one line
feed and the last two stay as they are.
-/

namespace YamlSchema.Yaml

def nextLine : Char := '\u0085'

def isBreak (c : Char) : Bool := c = '\n' ∨ c = '\r' ∨ c = nextLine ∨ c = '\u2028' ∨ c = '\u2029'

def isBlank (c : Char) : Bool := c = ' ' ∨ c = '\t'

/-- ASCII letters, digits, `_` and `-`: the characters of anchors and tag handles. -/
def isNameChar (c : Char) : Bool := c.isAlphanum || c = '_' || c = '-'

/-- Whether a character may stand in a text. -/
def isAllowed (c : Char) : Bool :=
  let n := c.toNat
  n = 0x09 ∨ n = 0x0A ∨ n = 0x0D ∨ (0x20 ≤ n ∧ n ≤ 0x7E) ∨ n = 0x85 ∨ (0xA0 ≤ n ∧ n ≤ 0xD7FF) ∨
    (0xE000 ≤ n ∧ n ≤ 0xFFFD) ∨ (0x10000 ≤ n ∧ n ≤ 0x10FFFF)

/-- The byte offset of the first character that may not stand in a text. -/
def firstForbidden? (offset : Nat) : List Char → Option Nat
  | [] => none
  | c :: rest => if isAllowed c then firstForbidden? (offset + c.utf8Size) rest else some offset

/-- A place in a text and the characters after it. -/
structure Cursor where
  rest : List Char
  mark : Mark
  deriving Inhabited

namespace Cursor

/-- The cursor at the start of a text; a byte order mark in front of it is not part of the text. -/
def ofText (text : String) : Cursor :=
  match text.toList with
  | '\ufeff' :: rest => ⟨rest, .start⟩
  | cs => ⟨cs, .start⟩

def head? (c : Cursor) : Option Char := c.rest.head?

/-- The character `n` places ahead. -/
def ahead? (c : Cursor) (n : Nat) : Option Char := c.rest[n]?

def atEnd (c : Cursor) : Bool := c.rest.isEmpty

def sees (c : Cursor) (x : Char) : Bool := c.head? = some x

def seesWhere (c : Cursor) (p : Char → Bool) : Bool := c.head?.any p

/-- Whether a line break or the end of the text is `n` places ahead. -/
def breakOrEndAt (c : Cursor) (n : Nat) : Bool := match c.ahead? n with
  | none => true
  | some x => isBreak x

/-- Whether a blank, a line break or the end of the text is `n` places ahead. -/
def spaceOrEndAt (c : Cursor) (n : Nat) : Bool := match c.ahead? n with
  | none => true
  | some x => isBlank x || isBreak x

def column (c : Cursor) : Nat := c.mark.column

/-- Moves over `n` characters of one line. -/
def skip (c : Cursor) (n : Nat) : Cursor :=
  ⟨c.rest.drop n, ⟨c.mark.index + n, c.mark.line, c.mark.column + n⟩⟩

/-- Moves over the characters of one line that satisfy `p`. -/
def skipWhere (c : Cursor) (p : Char → Bool) : Cursor := c.skip (c.rest.takeWhile p).length

/-- The characters that satisfy `p` up to the first that does not, and the cursor behind them. -/
def span (c : Cursor) (p : Char → Bool) : List Char × Cursor :=
  let taken := c.rest.takeWhile p
  (taken, c.skip taken.length)

private def newLine (c : Cursor) (width : Nat) : Cursor :=
  ⟨c.rest.drop width, ⟨c.mark.index + width, c.mark.line + 1, 0⟩⟩

/-- Moves over a line break if there is one, and says what it is as content. -/
def lineBreak (c : Cursor) : List Char × Cursor :=
  match c.rest with
  | '\r' :: '\n' :: _ => (['\n'], c.newLine 2)
  | x :: _ =>
    if x = '\u2028' ∨ x = '\u2029' then ([x], c.newLine 1)
    else if isBreak x then (['\n'], c.newLine 1)
    else ([], c)
  | [] => ([], c)

/-- Whether the line begins with three times the given character and nothing after them. -/
private def seesTriple (c : Cursor) (x : Char) : Bool :=
  c.ahead? 0 = some x && c.ahead? 1 = some x && c.ahead? 2 = some x && c.spaceOrEndAt 3

def atDocumentStart (c : Cursor) : Bool := c.column = 0 && c.seesTriple '-'

def atDocumentEnd (c : Cursor) : Bool := c.column = 0 && c.seesTriple '.'

/-- Moves over the blanks, the comments and the line breaks in front of a token.  A tab is a blank only where
`tabs` allows it; it does not after a line break outside of flow collections.  Also says whether a line break was
passed. -/
def toToken (flow : Bool) : Nat → Bool → Cursor → Bool × Cursor
  | 0, fresh, c => (fresh, c)
  | fuel + 1, fresh, c =>
    let c := if c.mark.index = 0 && c.sees '\ufeff' then c.skip 1 else c
    let tabs := flow || !fresh
    let c := c.skipWhere fun x => x = ' ' || (tabs && x = '\t')
    let c := if c.sees '#' then c.skipWhere fun x => !isBreak x else c
    if c.seesWhere isBreak then toToken flow fuel (fresh || !flow) c.lineBreak.2 else (fresh, c)

end Cursor

end YamlSchema.Yaml
