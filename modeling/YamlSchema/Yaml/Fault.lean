/-!
# What can be wrong with a YAML text

A `Fault` says what is wrong and where, and what was being read at the time.  Positions are written from one; the very
first position is never written, and neither is a context that begins where the problem is.
-/

namespace YamlSchema.Yaml

/-- A place in a text: characters before it, lines before it, and characters before it in its line. -/
structure Mark where
  index : Nat
  line : Nat
  column : Nat
  deriving DecidableEq, Repr, Inhabited

namespace Mark

def start : Mark := ⟨0, 0, 0⟩

/-- Whether a mark is written; the first place of a text is not. -/
def isWritten (m : Mark) : Bool := m.line ≠ 0 ∨ m.column ≠ 0

def text (m : Mark) : String := s!"line {m.line + 1} column {m.column + 1}"

end Mark

/-- What is wrong. -/
inductive Problem where
  | controlCharacter
  | noToken
  | noColon
  | misplacedEntry
  | misplacedKey
  | misplacedValue
  | unknownDirective
  | noDirectiveName
  | directiveNameEnd
  | directiveLineEnd
  | noVersion
  | longVersion
  | noVersionDigit
  | noExclamation
  | noTagSpace
  | noTagSpaceOrBreak
  | noAlphanumeric
  | noTagClose
  | noTagUri
  | noEscapedOctet
  | wrongLeadingOctet
  | wrongTrailingOctet
  | zeroIndentation
  | blockLineEnd
  | tabIndentation
  | documentIndicator
  | endOfStream
  | unknownEscape
  | noHexNumber
  | badEscapeCode
  | unexpectedColon
  | tabInScalar
  | noDocumentStart
  | duplicateVersion
  | incompatibleVersion
  | duplicateTagHandle
  | undefinedTagHandle
  | noNodeContent
  | noEntryIndicator
  | noKey
  | noCommaOrBracket
  | noCommaOrBrace
  deriving DecidableEq, Repr

def Problem.text : Problem → String
  | .controlCharacter => "control characters are not allowed"
  | .noToken => "found character that cannot start any token"
  | .noColon => "could not find expected ':'"
  | .misplacedEntry => "block sequence entries are not allowed in this context"
  | .misplacedKey => "mapping keys are not allowed in this context"
  | .misplacedValue => "mapping values are not allowed in this context"
  | .unknownDirective => "found unknown directive name"
  | .noDirectiveName => "could not find expected directive name"
  | .directiveNameEnd => "found unexpected non-alphabetical character"
  | .directiveLineEnd | .blockLineEnd => "did not find expected comment or line break"
  | .noVersion => "did not find expected version number"
  | .longVersion => "found extremely long version number"
  | .noVersionDigit => "did not find expected digit or '.' character"
  | .noExclamation => "did not find expected '!'"
  | .noTagSpace => "did not find expected whitespace"
  | .noTagSpaceOrBreak => "did not find expected whitespace or line break"
  | .noAlphanumeric => "did not find expected alphabetic or numeric character"
  | .noTagClose => "did not find the expected '>'"
  | .noTagUri => "did not find expected tag URI"
  | .noEscapedOctet => "did not find URI escaped octet"
  | .wrongLeadingOctet => "found an incorrect leading UTF-8 octet"
  | .wrongTrailingOctet => "found an incorrect trailing UTF-8 octet"
  | .zeroIndentation => "found an indentation indicator equal to 0"
  | .tabIndentation => "found a tab character where an indentation space is expected"
  | .documentIndicator => "found unexpected document indicator"
  | .endOfStream => "found unexpected end of stream"
  | .unknownEscape => "found unknown escape character"
  | .noHexNumber => "did not find expected hexadecimal number"
  | .badEscapeCode => "found invalid Unicode character escape code"
  | .unexpectedColon => "found unexpected ':'"
  | .tabInScalar => "found a tab character that violates indentation"
  | .noDocumentStart => "did not find expected <document start>"
  | .duplicateVersion => "found duplicate %YAML directive"
  | .incompatibleVersion => "found incompatible YAML document"
  | .duplicateTagHandle => "found duplicate %TAG directive"
  | .undefinedTagHandle => "found undefined tag handle"
  | .noNodeContent => "did not find expected node content"
  | .noEntryIndicator => "did not find expected '-' indicator"
  | .noKey => "did not find expected key"
  | .noCommaOrBracket => "did not find expected ',' or ']'"
  | .noCommaOrBrace => "did not find expected ',' or '\x7d'"

/-- What was being read. -/
inductive Reading where
  | nextToken
  | simpleKey
  | directive
  | versionDirective
  | tagDirective
  | tagDirectiveHandle
  | tagDirectiveSpace
  | tagDirectivePrefix
  | tag
  | tagUri
  | anchor
  | alias
  | blockScalar
  | quotedScalar
  | quotedEscape
  | plainScalar
  | node
  | blockNode
  | flowNode
  | blockSequence
  | blockMapping
  | flowSequence
  | flowMapping
  deriving DecidableEq, Repr

def Reading.text : Reading → String
  | .nextToken => "while scanning for the next token"
  | .simpleKey => "while scanning a simple key"
  | .directive => "while scanning a directive"
  | .versionDirective => "while scanning a %YAML directive"
  | .tagDirective => "while scanning a tag directive"
  | .tagDirectiveHandle => "while parsing a tag directive"
  | .tagDirectiveSpace => "while scanning a %TAG directive"
  | .tagDirectivePrefix => "while parsing a %TAG directive"
  | .tag => "while scanning a tag"
  | .tagUri => "while parsing a tag"
  | .anchor => "while scanning an anchor"
  | .alias => "while scanning an alias"
  | .blockScalar => "while scanning a block scalar"
  | .quotedScalar => "while scanning a quoted scalar"
  | .quotedEscape => "while parsing a quoted scalar"
  | .plainScalar => "while scanning a plain scalar"
  | .node => "while parsing a node"
  | .blockNode => "while parsing a block node"
  | .flowNode => "while parsing a flow node"
  | .blockSequence => "while parsing a block collection"
  | .blockMapping => "while parsing a block mapping"
  | .flowSequence => "while parsing a flow sequence"
  | .flowMapping => "while parsing a flow mapping"

/-- Where a problem is: at a character, or at a byte of the text. -/
inductive Place where
  | mark (m : Mark)
  | offset (bytes : Nat)
  deriving DecidableEq, Repr

structure Fault where
  problem : Problem
  place : Place
  context : Option (Reading × Mark)
  deriving DecidableEq, Repr

namespace Fault

/-- A problem at a mark, found while reading something that began at another mark. -/
def during (reading : Reading) (since : Mark) (problem : Problem) (at_ : Mark) : Fault :=
  ⟨problem, .mark at_, some (reading, since)⟩

def plain (problem : Problem) (at_ : Mark) : Fault := ⟨problem, .mark at_, none⟩

def placeText : Place → String
  | .mark m => if m.isWritten then s!" at {m.text}" else ""
  | .offset 0 => ""
  | .offset bytes => s!" at position {bytes}"

def isSamePlace (m : Mark) : Place → Bool
  | .mark p => m.line = p.line ∧ m.column = p.column
  | .offset _ => m.line = 0 ∧ m.column = 0

def message (f : Fault) : String :=
  let context := match f.context with
    | none => ""
    | some (reading, since) =>
      let where_ := if since.isWritten && !isSamePlace since f.place then s!" at {since.text}" else ""
      s!", {reading.text}{where_}"
  s!"{f.problem.text}{placeText f.place}{context}"

end Fault

end YamlSchema.Yaml
