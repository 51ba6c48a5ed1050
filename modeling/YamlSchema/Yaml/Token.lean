import YamlSchema.Yaml.ScalarText
import YamlSchema.Yaml.Tag

/-!
# Tokens

A YAML text is a sequence of tokens.  Blocks have no brackets in the text: a token that stands further right than the
current indentation opens a collection, and one further left closes collections.  That a plain or quoted scalar, an
alias or a flow collection was a key is known only at the colon behind it, so the `Lexer` remembers where a key could
have begun and puts the key token in front of it later; a token is handed out once no key can begin at it any more.
-/

namespace YamlSchema.Yaml

inductive TokenKind where
  | streamStart
  | streamEnd
  | version (major minor : Nat)
  | tagHandle (handle : String) (expansion : Tag)
  | documentStart
  | documentEnd
  | blockSequenceStart
  | blockMappingStart
  | blockEnd
  | flowSequenceStart
  | flowSequenceEnd
  | flowMappingStart
  | flowMappingEnd
  | blockEntry
  | flowEntry
  | key
  | value
  | alias (name : String)
  | anchor (name : String)
  | tag (handle : String) (suffix : Tag)
  | scalar (text : String) (style : ScalarStyle)
  deriving DecidableEq, Repr

structure Token where
  kind : TokenKind
  start : Mark
  stop : Mark
  deriving DecidableEq, Repr

/-! ### Tokens that are read on their own -/

namespace Token

/-- An anchor or an alias; the cursor stands at its indicator. -/
def anchorOrAlias (isAnchor : Bool) (c : Cursor) : Except Fault (Token × Cursor) :=
  let since := c.mark
  let (name, c) := (c.skip 1).span isNameChar
  let ends := c.spaceOrEndAt 0 ||
    c.seesWhere fun x => x = '?' || x = ':' || x = ',' || x = ']' || x = '}' || x = '%' || x = '@' || x = '`'
  if name = [] || !ends then
    .error (.during (if isAnchor then .anchor else .alias) since .noAlphanumeric c.mark)
  else
    let name := String.ofList name
    .ok (⟨if isAnchor then .anchor name else .alias name, since, c.mark⟩, c)

/-- `%` and two hexadecimal digits. -/
private def octet? (c : Cursor) : Option Nat :=
  if c.sees '%' then do
    let a ← (c.ahead? 1).bind hexValue?
    let b ← (c.ahead? 2).bind hexValue?
    return a * 16 + b
  else none

/-- The bytes after the first of an escaped character. -/
private def moreOctets (reading : Reading) (since : Mark) : Nat → Cursor → Except Fault (List UInt8 × Cursor)
  | 0, c => .ok ([], c)
  | n + 1, c =>
    match octet? c with
    | none => .error (.during reading since .noEscapedOctet c.mark)
    | some b =>
      if b / 64 ≠ 2 then .error (.during reading since .wrongTrailingOctet c.mark)
      else do
        let (bytes, c) ← moreOctets reading since n (c.skip 3)
        return (UInt8.ofNat b :: bytes, c)

/-- A character written as percent-escaped bytes.  The first byte says how many there are; which character they make,
if any, is not looked at. -/
private def escapedChar (reading : Reading) (since : Mark) (c : Cursor) : Except Fault (List UInt8 × Cursor) :=
  match octet? c with
  | none => .error (.during reading since .noEscapedOctet c.mark)
  | some a => do
    let more ← if a < 128 then pure 0 else if a / 32 = 6 then pure 1 else if a / 16 = 14 then pure 2
      else if a / 8 = 30 then pure 3 else throw (.during reading since .wrongLeadingOctet c.mark)
    let (bytes, c) ← moreOctets reading since more (c.skip 3)
    return (UInt8.ofNat a :: bytes, c)

/-- Whether a character may stand in a tag; commas and brackets only where they cannot be flow indicators. -/
def isUriChar (verbatim : Bool) (c : Char) : Bool :=
  isNameChar c || c ∈ [';', '/', '?', ':', '@', '&', '=', '+', '$', '.', '%', '!', '~', '*', '\'', '(', ')'] ||
    (verbatim && c ∈ [',', '[', ']'])

/-- The bytes of the characters of a tag. -/
private def uriBytes (verbatim : Bool) (reading : Reading) (since : Mark) :
    Nat → Cursor → Except Fault (List UInt8 × Cursor)
  | 0, c => .ok ([], c)
  | fuel + 1, c =>
    match c.rest with
    | [] => .ok ([], c)
    | x :: _ =>
      if !isUriChar verbatim x then .ok ([], c)
      else do
        let (bytes, c) ← if x = '%' then escapedChar reading since c
          else pure ((String.singleton x).toUTF8.toList, c.skip 1)
        let (more, c) ← uriBytes verbatim reading since fuel c
        return (bytes ++ more, c)

/-- A tag behind the characters that were read as a handle already; there is at least one character in either. -/
private def uri (verbatim : Bool) (reading : Reading) (head : List Char) (since : Mark) (c : Cursor) :
    Except Fault (Tag × Cursor) := do
  let (bytes, c) ← uriBytes verbatim reading since (c.rest.length + 1) c
  if head = [] && bytes = [] then throw (.during reading since .noTagUri c.mark)
  return (.ofBytes ((String.ofList (head.drop 1)).toUTF8.toList ++ bytes), c)

/-- `!`, name characters, and an exclamation mark if one follows. -/
private def handle (c : Cursor) : List Char × Cursor :=
  let (name, c) := (c.skip 1).span isNameChar
  if c.sees '!' then ('!' :: name ++ ['!'], c.skip 1) else ('!' :: name, c)

private def isHandle (h : List Char) : Bool := 2 ≤ h.length && h.getLast? = some '!'

/-- A tag; the cursor stands at its exclamation mark. -/
def tag (flow : Bool) (c : Cursor) : Except Fault (Token × Cursor) := do
  let since := c.mark
  let (handle, suffix, c) ←
    if c.ahead? 1 = some '<' then do
      let (suffix, c) ← uri true .tagUri [] since (c.skip 2)
      if !c.sees '>' then throw (.during .tag since .noTagClose c.mark)
      pure ([], suffix, c.skip 1)
    else
      let (h, c) := handle c
      if isHandle h then do
        let (suffix, c) ← uri false .tagUri [] since c
        pure (h, suffix, c)
      else do
        let (suffix, c) ← uri false .tagUri h since c
        if suffix.bytes = [] then pure ([], .bare, c) else pure (['!'], suffix, c)
  if !(flow && c.sees ',') && !c.spaceOrEndAt 0 then throw (.during .tag since .noTagSpaceOrBreak c.mark)
  return (⟨.tag (String.ofList handle) suffix, since, c.mark⟩, c)

/-- The number of a version directive. -/
private def versionNumber (since : Mark) (c : Cursor) : Except Fault (Nat × Cursor) :=
  let digits := c.rest.takeWhile Char.isDigit
  if digits = [] then .error (.during .versionDirective since .noVersion c.mark)
  else if 9 < digits.length then .error (.during .versionDirective since .longVersion (c.skip 9).mark)
  else .ok (digits.foldl (fun n d => n * 10 + (d.toNat - '0'.toNat)) 0, c.skip digits.length)

private def versionDirective (since : Mark) (c : Cursor) : Except Fault (Token × Cursor) := do
  let (major, c) ← versionNumber since (c.skipWhere isBlank)
  if !c.sees '.' then throw (.during .versionDirective since .noVersionDigit c.mark)
  let (minor, c) ← versionNumber since (c.skip 1)
  return (⟨.version major minor, since, c.mark⟩, c)

private def tagDirective (since : Mark) (c : Cursor) : Except Fault (Token × Cursor) := do
  let c := c.skipWhere isBlank
  if !c.sees '!' then throw (.during .tagDirective since .noExclamation c.mark)
  let (h, c) := handle c
  if h.getLast? ≠ some '!' then throw (.during .tagDirectiveHandle since .noExclamation c.mark)
  if !c.seesWhere isBlank then throw (.during .tagDirectiveSpace since .noTagSpace c.mark)
  let (expansion, c) ← uri true .tagDirectivePrefix [] since (c.skipWhere isBlank)
  if !c.spaceOrEndAt 0 then throw (.during .tagDirectiveSpace since .noTagSpaceOrBreak c.mark)
  return (⟨.tagHandle (String.ofList h) expansion, since, c.mark⟩, c)

/-- A directive with the rest of its line; the cursor stands at the percent sign. -/
def directive (c : Cursor) : Except Fault (Token × Cursor) := do
  let since := c.mark
  let (name, c) := (c.skip 1).span isNameChar
  if name = [] then throw (.during .directive since .noDirectiveName c.mark)
  if !c.spaceOrEndAt 0 then throw (.during .directive since .directiveNameEnd c.mark)
  let (token, c) ←
    if name = "YAML".toList then versionDirective since c
    else if name = "TAG".toList then tagDirective since c
    else throw (.during .directive since .unknownDirective c.mark)
  let c := c.skipWhere isBlank
  let c := if c.sees '#' then c.skipWhere fun x => !isBreak x else c
  if !c.breakOrEndAt 0 then throw (.during .directive since .directiveLineEnd c.mark)
  return (token, c.lineBreak.2)

end Token

/-! ### The lexer -/

/-- A place where a key may have begun. -/
structure KeyStart where
  /-- The number of the token at that place. -/
  token : Nat
  /-- Whether something else than a key is an error there. -/
  required : Bool
  mark : Mark
  deriving Repr

structure Lexer where
  cursor : Cursor
  /-- Tokens read and not handed out. -/
  queue : List Token
  /-- How many tokens were handed out. -/
  taken : Nat
  /-- For every open flow collection, the innermost first, and for the block around them: where a key may have
  begun. -/
  keys : List (Option KeyStart)
  /-- Whether a key may begin at the cursor. -/
  fresh : Bool
  indent : Int
  /-- The indentations around the current one, the innermost first. -/
  outer : List Int

namespace Lexer

def ofText (text : String) : Lexer :=
  { cursor := .ofText text, queue := [⟨.streamStart, .start, .start⟩], taken := 0, keys := [none], fresh := true,
    indent := -1, outer := [] }

def flow (l : Lexer) : Bool := 1 < l.keys.length

def mark (l : Lexer) : Mark := l.cursor.mark

def push (l : Lexer) (t : Token) : Lexer := { l with queue := l.queue ++ [t] }

/-- Puts a token in front of the token with a number. -/
def insertAt (l : Lexer) (number : Nat) (t : Token) : Lexer :=
  let n := number - l.taken
  { l with queue := l.queue.take n ++ t :: l.queue.drop n }

/-- The longest key, in characters. -/
def maxKeyLength : Nat := 1024

/-- Gives up the places where no key can have begun: keys lie in one line and are short. -/
def dropStale (l : Lexer) : Except Fault Lexer := do
  let isStale := fun (k : KeyStart) =>
    k.mark.line < l.mark.line || k.mark.index + maxKeyLength < l.mark.index
  match l.keys.reverse.findSome? fun k => k.filter fun k => isStale k && k.required with
  | some k => throw (.during .simpleKey k.mark .noColon l.mark)
  | none => return { l with keys := l.keys.map fun k => k.filter fun k => !isStale k }

/-- Gives up the innermost place where a key may have begun. -/
def dropKey (l : Lexer) : Except Fault Lexer :=
  match l.keys with
  | some k :: rest =>
    if k.required then .error (.during .simpleKey k.mark .noColon l.mark) else .ok { l with keys := none :: rest }
  | _ => .ok l

/-- Remembers that a key may begin at the cursor. -/
def saveKey (l : Lexer) : Except Fault Lexer := do
  if !l.fresh then return l
  let required := !l.flow && l.indent = l.mark.column
  let l ← l.dropKey
  return { l with keys := some ⟨l.taken + l.queue.length, required, l.mark⟩ :: l.keys.drop 1 }

/-- Opens a block collection at a column if it is further right than the current one.  Its token goes in front of the
token with the given number, or to the end. -/
def openBlock (l : Lexer) (column : Nat) (number : Option Nat) (kind : TokenKind) (m : Mark) : Lexer :=
  if l.flow || (column : Int) ≤ l.indent then l
  else
    let l := { l with outer := l.indent :: l.outer, indent := column }
    match number with
    | none => l.push ⟨kind, m, m⟩
    | some n => l.insertAt n ⟨kind, m, m⟩

private def closeLoop (column : Int) (m : Mark) : List Int → Int → List Token → Int × List Int × List Token
  | [], indent, closed => (indent, [], closed)
  | o :: outer, indent, closed =>
    if column < indent then closeLoop column m outer o (⟨.blockEnd, m, m⟩ :: closed)
    else (indent, o :: outer, closed)

/-- Closes the block collections further right than a column. -/
def closeBlocks (l : Lexer) (column : Int) : Lexer :=
  if l.flow then l
  else
    let (indent, outer, closed) := closeLoop column l.mark l.outer l.indent []
    { l with indent := indent, outer := outer, queue := l.queue ++ closed }

/-- A token of `n` characters at the cursor. -/
private def indicator (l : Lexer) (kind : TokenKind) (n : Nat) (fresh : Bool) : Lexer :=
  let next := l.cursor.skip n
  { l with cursor := next, fresh := fresh, queue := l.queue ++ [⟨kind, l.mark, next.mark⟩] }

private def streamEnd (l : Lexer) : Except Fault Lexer := do
  let m := l.mark
  let m := if m.column ≠ 0 then ⟨m.index, m.line + 1, 0⟩ else m
  let l := { l with cursor := { l.cursor with mark := m } }
  let l ← (l.closeBlocks (-1)).dropKey
  return { l with fresh := false }.push ⟨.streamEnd, m, m⟩

private def directive (l : Lexer) : Except Fault Lexer := do
  let l ← (l.closeBlocks (-1)).dropKey
  let (token, c) ← Token.directive l.cursor
  return { l with cursor := c, fresh := false }.push token

private def documentIndicator (l : Lexer) (kind : TokenKind) : Except Fault Lexer := do
  let l ← (l.closeBlocks (-1)).dropKey
  return l.indicator kind 3 false

private def openFlow (l : Lexer) (kind : TokenKind) : Except Fault Lexer := do
  let l ← l.saveKey
  return { l with keys := none :: l.keys }.indicator kind 1 true

private def closeFlow (l : Lexer) (kind : TokenKind) : Except Fault Lexer := do
  let l ← l.dropKey
  let l := if l.flow then { l with keys := l.keys.drop 1 } else l
  return l.indicator kind 1 false

private def flowEntry (l : Lexer) : Except Fault Lexer := do
  let l ← l.dropKey
  return l.indicator .flowEntry 1 true

private def blockEntry (l : Lexer) : Except Fault Lexer := do
  if !l.flow && !l.fresh then throw (.plain .misplacedEntry l.mark)
  let l ← (l.openBlock l.mark.column none .blockSequenceStart l.mark).dropKey
  return l.indicator .blockEntry 1 true

private def key (l : Lexer) : Except Fault Lexer := do
  if !l.flow && !l.fresh then throw (.plain .misplacedKey l.mark)
  let l ← (l.openBlock l.mark.column none .blockMappingStart l.mark).dropKey
  return l.indicator .key 1 !l.flow

private def value (l : Lexer) : Except Fault Lexer :=
  match l.keys with
  | some k :: rest =>
    let l := l.insertAt k.token ⟨.key, k.mark, k.mark⟩
    let l := l.openBlock k.mark.column (some k.token) .blockMappingStart k.mark
    .ok ({ l with keys := none :: rest }.indicator .value 1 false)
  | _ =>
    if !l.flow && !l.fresh then .error (.plain .misplacedValue l.mark)
    else .ok ((l.openBlock l.mark.column none .blockMappingStart l.mark).indicator .value 1 !l.flow)

private def anchorOrAlias (l : Lexer) (isAnchor : Bool) : Except Fault Lexer := do
  let l ← l.saveKey
  let (token, c) ← Token.anchorOrAlias isAnchor l.cursor
  return { l with cursor := c, fresh := false }.push token

private def tag (l : Lexer) : Except Fault Lexer := do
  let l ← l.saveKey
  let (token, c) ← Token.tag l.flow l.cursor
  return { l with cursor := c, fresh := false }.push token

private def blockScalar (l : Lexer) (isLiteral : Bool) : Except Fault Lexer := do
  let l ← l.dropKey
  let (text, stop, c) ← Yaml.blockScalar isLiteral l.indent l.cursor
  let style := if isLiteral then ScalarStyle.literal else .folded
  return { l with cursor := c, fresh := true }.push ⟨.scalar (String.ofList text) style, l.mark, stop⟩

private def quotedScalar (l : Lexer) (single : Bool) : Except Fault Lexer := do
  let l ← l.saveKey
  let (text, c) ← quotedRest single l.mark (l.cursor.rest.length + 1) (l.cursor.skip 1)
  let style := if single then ScalarStyle.singleQuoted else .doubleQuoted
  return { l with cursor := c, fresh := false }.push ⟨.scalar (String.ofList text) style, l.mark, c.mark⟩

private def plainScalar (l : Lexer) : Except Fault Lexer := do
  let l ← l.saveKey
  let (text, stop, c, broken) ←
    plainRest l.flow (l.indent + 1) l.mark (l.cursor.rest.length + 1) [] l.mark none l.cursor
  return { l with cursor := c, fresh := broken }.push ⟨.scalar (String.ofList text) .plain, l.mark, stop⟩

/-- Characters that begin no plain scalar, or only one with something behind them. -/
private def isIndicator (c : Char) : Bool :=
  c ∈ ['-', '?', ':', ',', '[', ']', '{', '}', '#', '&', '*', '!', '|', '>', '\'', '"', '%', '@', '`']

private def beginsPlain (l : Lexer) : Bool :=
  let c := l.cursor
  !(c.spaceOrEndAt 0 || c.seesWhere isIndicator) || (c.sees '-' && !(c.ahead? 1).any isBlank) ||
    (!l.flow && (c.sees '?' || c.sees ':') && !c.spaceOrEndAt 1)

/-- Reads the next token, and with it the tokens that it opens or closes. -/
def readToken (l : Lexer) : Except Fault Lexer := do
  let (fresh, c) := l.cursor.toToken l.flow (l.cursor.rest.length + 1) l.fresh
  let l ← { l with cursor := c, fresh := fresh }.dropStale
  let l := l.closeBlocks l.mark.column
  let c := l.cursor
  match c.head? with
  | none => l.streamEnd
  | some x =>
    if c.column = 0 && x = '%' then l.directive
    else if c.atDocumentStart then l.documentIndicator .documentStart
    else if c.atDocumentEnd then l.documentIndicator .documentEnd
    else if x = '[' then l.openFlow .flowSequenceStart
    else if x = '{' then l.openFlow .flowMappingStart
    else if x = ']' then l.closeFlow .flowSequenceEnd
    else if x = '}' then l.closeFlow .flowMappingEnd
    else if x = ',' then l.flowEntry
    else if x = '-' && c.spaceOrEndAt 1 then l.blockEntry
    else if x = '?' && (l.flow || c.spaceOrEndAt 1) then l.key
    else if x = ':' && (l.flow || c.spaceOrEndAt 1) then l.value
    else if x = '*' then l.anchorOrAlias false
    else if x = '&' then l.anchorOrAlias true
    else if x = '!' then l.tag
    else if x = '|' && !l.flow then l.blockScalar true
    else if x = '>' && !l.flow then l.blockScalar false
    else if x = '\'' then l.quotedScalar true
    else if x = '"' then l.quotedScalar false
    else if l.beginsPlain then l.plainScalar
    else throw (.during .nextToken c.mark .noToken c.mark)

/-- Whether a key may still begin at the first token of the queue. -/
private def headIsOpen (l : Lexer) : Bool := l.keys.any fun k => k.any fun k => k.token = l.taken

private def settle : Nat → Lexer → Except Fault Lexer
  | 0, l => .ok l
  | fuel + 1, l => do
    if l.queue.isEmpty then settle fuel (← l.readToken)
    else
      let l ← l.dropStale
      if l.headIsOpen then settle fuel (← l.readToken) else return l

/-- Reads on until the first token of the queue is settled, and returns it; `none` behind the last token. -/
def peek (l : Lexer) : Except Fault (Option Token × Lexer) := do
  let l ← settle (l.cursor.rest.length + 4) l
  return (l.queue.head?, l)

/-- Hands out the first token of the queue. -/
def drop (l : Lexer) : Lexer := { l with queue := l.queue.drop 1, taken := l.taken + 1 }

end Lexer

end YamlSchema.Yaml
