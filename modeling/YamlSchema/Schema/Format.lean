import YamlSchema.Pattern.Basic
import YamlSchema.Schema.Draft
import YamlSchema.Schema.InternationalHost
import YamlSchema.Schema.Mailbox
import YamlSchema.Schema.Moment
import YamlSchema.Schema.Uri
import YamlSchema.Tree.Reader

/-!
# Formats of strings

What the keywords `format`, `contentEncoding` and `contentMediaType` ask of a string.  A name that is not known asks
nothing.
-/

namespace YamlSchema.Schema

inductive Format where
  | date
  | dateTime
  | time
  | email
  | idnEmail
  | hostname
  | idnHostname
  | ipv4
  | ipv6
  | uri
  | uriReference
  | iri
  | iriReference
  | uriTemplate
  | jsonPointer
  | relativeJsonPointer
  | regex
  deriving DecidableEq, Repr

namespace Format

def all : List Format :=
  [.date, .dateTime, .time, .email, .idnEmail, .hostname, .idnHostname, .ipv4, .ipv6, .uri, .uriReference, .iri,
    .iriReference, .uriTemplate, .jsonPointer, .relativeJsonPointer, .regex]

def name : Format → String
  | .date => "date"
  | .dateTime => "date-time"
  | .time => "time"
  | .email => "email"
  | .idnEmail => "idn-email"
  | .hostname => "hostname"
  | .idnHostname => "idn-hostname"
  | .ipv4 => "ipv4"
  | .ipv6 => "ipv6"
  | .uri => "uri"
  | .uriReference => "uri-reference"
  | .iri => "iri"
  | .iriReference => "iri-reference"
  | .uriTemplate => "uri-template"
  | .jsonPointer => "json-pointer"
  | .relativeJsonPointer => "relative-json-pointer"
  | .regex => "regex"

/-- The first draft that has a format. -/
def start : Format → Draft
  | .uriReference | .uriTemplate | .jsonPointer => .draft6
  | .idnHostname | .iri | .iriReference | .relativeJsonPointer => .draft7
  | _ => .draft4

/-- The format that a draft knows by a name. -/
def ofName? (draft : Draft) (name : String) : Option Format :=
  all.find? fun f => f.name = name && draft.isSince f.start

/-! ### References and pointers -/

private def isReference (wide : Bool) (s : String) : Bool := (UriReference.read wide s).toOption.isSome

private def isAbsolute (wide : Bool) (s : String) : Bool :=
  ((UriReference.read wide s).toOption.bind fun r => r.scheme).isSome

private def isJsonPointerBody : List Char → Bool
  | [] => true
  | '~' :: '0' :: rest => isJsonPointerBody rest
  | '~' :: '1' :: rest => isJsonPointerBody rest
  | c :: rest => c ≠ '~' && isJsonPointerBody rest

private def isJsonPointer (cs : List Char) : Bool := cs = [] || (cs.head? = some '/' && isJsonPointerBody cs)

private def isRelativeJsonPointer (cs : List Char) : Bool :=
  let number := cs.takeWhile Char.isDigit
  let rest := cs.drop number.length
  !number.isEmpty && (number.length = 1 || number.head? ≠ some '0') && (rest = ['#'] || isJsonPointer rest)

/-! ### Templates -/

/-- A sequence of small hexadecimal digits behind a percent sign. -/
private def afterEscape? : List Char → Option (List Char)
  | '%' :: a :: b :: rest =>
    let isDigit := fun (c : Char) => c.isDigit || ('a' ≤ c && c ≤ 'f')
    if isDigit a && isDigit b then some rest else none
  | _ => none

private def isTemplateLiteral (c : Char) : Bool :=
  ' ' < c && c ∉ ['"', '\'', '<', '>', '%', '\\', '^', '`', '{', '|', '}']

/-- What follows the characters and escapes of a variable, if there is one of them. -/
private def afterVariable? (fuel : Nat) (cs : List Char) : Option (List Char) :=
  match fuel with
  | 0 => none
  | fuel + 1 =>
    let behind := match cs with
      | c :: rest => if c.isLower || c.isDigit || c = '_' then some rest else afterEscape? cs
      | [] => none
    behind.map fun rest => (afterVariable? fuel rest).getD rest

/-- What follows the length or the star of a variable, if it has one. -/
private def afterModifier (cs : List Char) : List Char :=
  match cs with
  | '*' :: rest => rest
  | ':' :: c :: rest =>
    if '1' ≤ c && c ≤ '9' then rest.drop ((rest.take 3).takeWhile Char.isDigit).length else cs
  | _ => cs

/-- What follows the variables of an expression and its closing brace. -/
private def afterVariables? (fuel : Nat) (cs : List Char) : Option (List Char) :=
  match fuel with
  | 0 => none
  | fuel + 1 => match (afterVariable? cs.length cs).map afterModifier with
    | some ('}' :: rest) => some rest
    | some (',' :: rest) => afterVariables? fuel rest
    | _ => none

/-- Literal characters, escapes, and expressions in braces. -/
private def isTemplate (fuel : Nat) (cs : List Char) : Bool :=
  match fuel, cs with
  | _, [] => true
  | 0, _ => false
  | fuel + 1, '{' :: rest =>
    let names := match rest with
      | c :: more => if c ∈ ['+', '#', '.', '/', ';', '?', '&', '=', ',', '!', '@', '|'] then more else rest
      | [] => rest
    (afterVariables? names.length names).any (isTemplate fuel)
  | fuel + 1, c :: rest =>
    if isTemplateLiteral c then isTemplate fuel rest else (afterEscape? (c :: rest)).any (isTemplate fuel)

/-- Whether a string has a format. -/
def accepts (f : Format) (s : String) : Bool :=
  match f with
  | .date => Moment.isDate s.toList
  | .dateTime => Moment.isDateTime s.toList
  | .time => Moment.isTime s.toList
  | .email => Mailbox.isMailbox Host.isName s.toList
  | .idnEmail => Mailbox.isMailbox InternationalHost.isName s.toList
  | .hostname => Host.isName s.toList
  | .idnHostname => InternationalHost.isName s.toList
  | .ipv4 => Host.isAddress4 s.toList
  | .ipv6 => Host.isAddress6 s.toList
  | .uri => isAbsolute false s
  | .uriReference => isReference false s
  | .iri => isAbsolute true s
  | .iriReference => isReference true s
  | .uriTemplate => isTemplate s.length s.toList
  | .jsonPointer => isJsonPointer s.toList
  | .relativeJsonPointer => isRelativeJsonPointer s.toList
  | .regex => (Plain.spelledOut? s).isSome

end Format

/-! ### Encoded content -/

namespace Base64

private def sextet? (c : Char) : Option Nat :=
  if 'A' ≤ c ∧ c ≤ 'Z' then some (c.toNat - 'A'.toNat)
  else if 'a' ≤ c ∧ c ≤ 'z' then some (c.toNat - 'a'.toNat + 26)
  else if c.isDigit then some (c.toNat - '0'.toNat + 52)
  else if c = '+' then some 62
  else if c = '/' then some 63
  else none

/-- The bytes of a text in groups of four characters; the last group may be padded, its spare bits are zero. -/
def decode? : List Char → Option (List UInt8)
  | [] => some []
  | a :: b :: c :: d :: rest => do
    let x ← sextet? a
    let y ← sextet? b
    if c = '=' then
      if d = '=' && rest = [] && y % 16 = 0 then return [UInt8.ofNat (x * 4 + y / 16)] else none
    else
      let z ← sextet? c
      if d = '=' then
        if rest = [] && z % 4 = 0 then
          return [UInt8.ofNat (x * 4 + y / 16), UInt8.ofNat (y % 16 * 16 + z / 4)]
        else none
      else
        let w ← sextet? d
        let more ← decode? rest
        return UInt8.ofNat (x * 4 + y / 16) :: UInt8.ofNat (y % 16 * 16 + z / 4) :: UInt8.ofNat (z % 4 * 64 + w) :: more
  | _ => none

end Base64

def isBase64 (s : String) : Bool := (Base64.decode? s.toList).isSome

def isJson (s : String) : Bool := (Tree.parse? s).isSome

end YamlSchema.Schema
