import YamlSchema.Tree.Pointer

/-!
# URI references

Schemas name each other by URI references, which are resolved against the URI of the document around them.  Two
spellings of one URI get the same text: escapes of characters that need none are undone, scheme and host are in lower
case, and `.` and `..` segments are gone.
-/

namespace YamlSchema.Schema

/-- Why a text means no URI; an index counts bytes. -/
inductive UriFault where
  | unexpectedChar (index : Nat)
  | badEscape (index : Nat)
  | badAddress (index : Nat)
  /-- References cannot start from a URI with a fragment. -/
  | baseWithFragment (base : String)
  /-- References cannot start from a URI whose path is no hierarchy, unless they only name a fragment. -/
  | opaqueBase (base : String)
  deriving DecidableEq, Repr

/-- What is said about a reference that means no URI. -/
def UriFault.message (reference : String) : UriFault → String
  | .unexpectedChar i => s!"Invalid URI reference '{reference}': unexpected character at index {i}"
  | .badEscape i => s!"Invalid URI reference '{reference}': invalid percent-encoded octet at index {i}"
  | .badAddress i => s!"Invalid URI reference '{reference}': invalid IPv6 address at index {i}"
  | .baseWithFragment base => s!"Failed to resolve '{reference}' against '{base}': base URI/IRI with fragment"
  | .opaqueBase base =>
    s!"Failed to resolve '{reference}' against '{base}': relative reference must be empty or start with '#' " ++
      "when resolved against authority-less base URI/IRI with rootless path"

structure UriReference where
  scheme : Option (List Char)
  authority : Option (List Char)
  path : List Char
  query : Option (List Char)
  fragment : Option (List Char)
  deriving DecidableEq, Repr

namespace UriReference

/-! ### Characters -/

/-- Whether a character beyond ASCII may stand in an internationalized reference. -/
def isWide (c : Char) : Bool :=
  let n := c.toNat
  (0xA0 ≤ n && n ≤ 0xD7FF) || (0xF900 ≤ n && n ≤ 0xFDCF) || (0xFDF0 ≤ n && n ≤ 0xFFEF) ||
    (0x10000 ≤ n && n ≤ 0xEFFFD && n % 0x10000 ≤ 0xFFFD && !(0xE0000 ≤ n && n < 0xE1000))

/-- Whether a character is for private use; it may stand in the query of an internationalized reference. -/
def isPrivate (c : Char) : Bool :=
  let n := c.toNat
  (0xE000 ≤ n && n ≤ 0xF8FF) || (0xF0000 ≤ n && n ≤ 0x10FFFD && n % 0x10000 ≤ 0xFFFD)

def isUnreserved (c : Char) : Bool := c.isAlphanum || c = '-' || c = '.' || c = '_' || c = '~'

def isSubDelimiter (c : Char) : Bool := c ∈ ['!', '$', '&', '\'', '(', ')', '*', '+', ',', ';', '=']

def isSchemeChar (c : Char) : Bool := c.isAlphanum || c = '+' || c = '-' || c = '.'

def isHex (c : Char) : Bool := c.isDigit || ('a' ≤ c && c ≤ 'f') || ('A' ≤ c && c ≤ 'F')

/-- The characters of a registered name; those beyond ASCII if `wide`. -/
def isNameChar (wide : Bool) (c : Char) : Bool := isUnreserved c || isSubDelimiter c || (wide && isWide c)

def isUserChar (wide : Bool) (c : Char) : Bool := isNameChar wide c || c = ':'

def isPathChar (wide : Bool) (c : Char) : Bool := isNameChar wide c || c = ':' || c = '@' || c = '/'

def isFragmentChar (wide : Bool) (c : Char) : Bool := isPathChar wide c || c = '?'

def isQueryChar (wide : Bool) (c : Char) : Bool := isFragmentChar wide c || (wide && isPrivate c)

/-! ### Reading -/

/-- What is left of a text, and the index of its first byte. -/
structure Rest where
  chars : List Char
  index : Nat

namespace Rest

/-- What is left behind as many characters of ASCII. -/
def skip (r : Rest) (n : Nat) : Rest := ⟨r.chars.drop n, r.index + n⟩

/-- What is left behind a text, if it is the next. -/
def after? (r : Rest) (text : String) : Option Rest :=
  if text.toList.isPrefixOf r.chars then some (r.skip text.length) else none

def head? (r : Rest) : Option Char := r.chars.head?

end Rest

/-- The characters that satisfy `p` and the escapes at the head of a text that begins at a byte index, and what is
left. -/
def spanEscaped (p : Char → Bool) : Nat → List Char → Except UriFault (List Char × Rest)
  | i, [] => .ok ([], ⟨[], i⟩)
  | i, '%' :: rest =>
    match rest with
    | a :: b :: rest =>
      if isHex a && isHex b then do
        let (taken, rest) ← spanEscaped p (i + 3) rest
        return ('%' :: a :: b :: taken, rest)
      else .error (.badEscape i)
    | _ => .error (.badEscape i)
  | i, c :: rest =>
    if p c then do
      let (taken, rest) ← spanEscaped p (i + c.utf8Size) rest
      return (c :: taken, rest)
    else .ok ([], ⟨c :: rest, i⟩)

def Rest.span (r : Rest) (p : Char → Bool) : Except UriFault (List Char × Rest) := spanEscaped p r.index r.chars

/-- One byte of a dotted address, without superfluous zeros. -/
private def octet? (r : Rest) : Option Rest :=
  let digits := (r.chars.take 3).takeWhile Char.isDigit
  if digits.isEmpty then none
  else if digits.head? = some '0' then some (r.skip 1)
  else if digits.foldl (fun n c => n * 10 + (c.toNat - '0'.toNat)) 0 ≤ 255 then some (r.skip digits.length)
  else none

private def dotted? (r : Rest) : Option Rest := do
  let r ← (← octet? r).after? "."
  let r ← (← octet? r).after? "."
  let r ← (← octet? r).after? "."
  octet? r

/-- What is left behind an address of eight groups of hexadecimal digits, of which `count` were read, or the index at
which a reader gave up.  `gap` tells before which group a double colon stood. -/
private def groups (fuel count : Nat) (gap : Option Nat) (r : Rest) : Except Nat Rest :=
  let ended := fun (count : Nat) (r : Rest) =>
    if (gap.isNone && count = 8) || (gap.isSome && count < 8) then Except.ok r else .error r.index
  match fuel with
  | 0 => ended count r
  | fuel + 1 =>
    if count = 8 then ended count r
    else
      let colon := r.head? = some ':'
      let inner := if colon then r.skip 1 else r
      let digits := (inner.chars.take 4).takeWhile isHex
      let behind := inner.skip digits.length
      if digits.isEmpty then
        if !colon then ended count r
        else if behind.head? = some ':' && gap.isNone then groups fuel count (some count) (behind.skip 1)
        else .error inner.index
      else if behind.head?.isNone && digits.length < 4 then ended count behind
      else if behind.head? = some '.' && digits.length < 4 then
        if 6 < count || colon == (gap == some count) then .error inner.index
        else match dotted? inner with
          | some r => ended (count + 2) r
          | none => .error behind.index
      else if colon == (count == 0 || gap == some count) then .error behind.index
      else groups fuel (count + 1) gap behind

/-- An address of a version to come. -/
private def futureAddress (r : Rest) : Except UriFault Rest := do
  if !(r.head? = some 'v' || r.head? = some 'V') then throw (.unexpectedChar r.index)
  let digits := (r.skip 1).chars.takeWhile isHex
  let r := r.skip (digits.length + 1)
  match if digits.isEmpty then none else r.after? "." with
  | none => throw (.unexpectedChar r.index)
  | some r =>
    let address := r.chars.takeWhile (isUserChar false)
    if address.isEmpty then throw (.unexpectedChar r.index)
    return r.skip address.length

/-- An address in square brackets, if there is one. -/
def bracketed? (r : Rest) : Except UriFault (Option Rest) :=
  match r.after? "[" with
  | none => .ok none
  | some start => do
    let behind ← match groups 9 0 none start with
      | .ok r => pure r
      | .error i => if i = start.index then futureAddress start else throw (.badAddress start.index)
    match behind.after? "]" with
    | some r => return some r
    | none => throw (.unexpectedChar behind.index)

/-- A colon and the digits behind it, if they are there. -/
private def skipNumber (r : Rest) : Rest :=
  match r.after? ":" with
  | some r => r.skip (r.chars.takeWhile Char.isDigit).length
  | none => r

/-- What is left behind an authority: a name or an address, with a user before it and a number behind it. -/
def skipAuthority (wide : Bool) (start : Rest) : Except UriFault Rest := do
  let (text, r) ← start.span (isUserChar wide)
  if r.head? = some '@' then
    let r := r.skip 1
    match ← bracketed? r with
    | some r => return skipNumber r
    | none =>
      let (_, r) ← r.span (isNameChar wide)
      return skipNumber r
  else if text = [] then
    match ← bracketed? r with
    | some r => return skipNumber r
    | none => return r
  else
    let indexOf := fun (before : List Char) => start.index + (String.ofList before).utf8ByteSize
    let name := text.takeWhile (· ≠ ':')
    let number := text.drop (name.length + 1)
    if ':' ∈ number then
      throw (.unexpectedChar (indexOf (text.reverse.dropWhile (· ≠ ':')).reverse - 1))
    let digits := number.takeWhile Char.isDigit
    if digits.length < number.length then throw (.unexpectedChar (indexOf (text.take (name.length + 1 + digits.length))))
    return r

/-- Reads the query and the fragment behind a path. -/
def readTail (wide : Bool) (r : UriReference) (rest : Rest) : Except UriFault UriReference := do
  let (query, rest) ← match rest.after? "?" with
    | some rest => do
      let (q, rest) ← rest.span (isQueryChar wide)
      pure (some q, rest)
    | none => pure (none, rest)
  let (fragment, rest) ← match rest.after? "#" with
    | some rest => do
      let (f, rest) ← rest.span (isFragmentChar wide)
      pure (some f, rest)
    | none => pure (none, rest)
  if rest.chars ≠ [] then throw (.unexpectedChar rest.index)
  return { r with query, fragment }

/-- Reads what follows the scheme: an authority behind two slashes, or the path at once. -/
def readHierarchy (wide : Bool) (scheme : Option (List Char)) (r : Rest) : Except UriFault UriReference :=
  match r.after? "//" with
  | some start => do
    let rest ← skipAuthority wide start
    let taken := start.chars.take (start.chars.length - rest.chars.length)
    let (path, behind) ← rest.span (isPathChar wide)
    if path ≠ [] && path.head? ≠ some '/' then throw (.unexpectedChar rest.index)
    readTail wide ⟨scheme, some taken, path, none, none⟩ behind
  | none => do
    let (path, behind) ← r.span (isPathChar wide)
    readTail wide ⟨scheme, none, path, none, none⟩ behind

/-- Reads a URI reference, or an internationalized one if `wide`; a colon in the first segment ends a scheme. -/
def read (wide : Bool) (text : String) : Except UriFault UriReference := do
  let start : Rest := ⟨text.toList, 0⟩
  let scheme := start.chars.takeWhile isSchemeChar
  match (start.skip scheme.length).after? ":" with
  | some rest =>
    if scheme.head?.any Char.isAlpha then readHierarchy wide (some scheme) rest else throw (.unexpectedChar 0)
  | none =>
    if (start.after? "//").isSome then readHierarchy wide none start
    else
      let (_, rest) ← start.span fun c => isPathChar wide c && c ≠ '/' && c ≠ ':'
      if rest.head? = some ':' then throw (.unexpectedChar rest.index)
      readHierarchy wide none start

/-- Reads a URI reference. -/
def parse (text : String) : Except UriFault UriReference := read false text

/-! ### Normal form -/

/-- The value of two hexadecimal digits. -/
def hexValue (a b : Char) : Nat :=
  let digit := fun (c : Char) => if c.isDigit then c.toNat - '0'.toNat else c.toLower.toNat - 'a'.toNat + 10
  digit a * 16 + digit b

/-- Letters outside escapes in lower case. -/
def lowerName : List Char → List Char
  | '%' :: a :: b :: rest => '%' :: a :: b :: lowerName rest
  | c :: rest => c.toLower :: lowerName rest
  | [] => []

/-- Escapes of unreserved characters become the characters, the digits of the others upper case. -/
def normalizeEscapes : List Char → List Char
  | '%' :: a :: b :: rest =>
    let c := Char.ofNat (hexValue a b)
    if hexValue a b < 128 && isUnreserved c then c :: normalizeEscapes rest
    else '%' :: a.toUpper :: b.toUpper :: normalizeEscapes rest
  | c :: rest => c :: normalizeEscapes rest
  | [] => []

/-- The segments of a path without `.`, and without each `..` and the segment before it. -/
def removeDots : List (List Char) → List (List Char) → List (List Char)
  | done, [] => done.reverse
  | done, ['.'] :: rest => if rest = [] then ([] :: done).reverse else removeDots done rest
  | done, ['.', '.'] :: rest => if rest = [] then ([] :: done.drop 1).reverse else removeDots (done.drop 1) rest
  | done, segment :: rest => removeDots (segment :: done) rest

/-- A path without dot segments, if it begins at the root. -/
def withoutDots (path : List Char) : List Char :=
  match path with
  | '/' :: rest => '/' :: List.intercalate ['/'] (removeDots [] (splitChars '/' rest))
  | _ => path

/-- An authority with its host in lower case, escapes apart, and without a colon that no number follows. -/
def normalizeAuthority (authority : List Char) : List Char :=
  let user := authority.takeWhile (· ≠ '@')
  let (before, host) := if user.length = authority.length then ([], authority)
    else (normalizeEscapes user ++ ['@'], authority.drop (user.length + 1))
  let host := lowerName (normalizeEscapes host)
  before ++ (if host.getLast? = some ':' then host.dropLast else host)

def normalize (r : UriReference) : UriReference :=
  let path := normalizeEscapes r.path
  { scheme := r.scheme.map fun s => s.map Char.toLower
    authority := r.authority.map normalizeAuthority
    path := if r.scheme.isSome then withoutDots path else path
    query := r.query.map normalizeEscapes
    fragment := r.fragment.map normalizeEscapes }

/-! ### Resolution -/

/-- A path that takes the place of the last segment of the base's path. -/
def merge (base : UriReference) (path : List Char) : List Char :=
  if base.path = [] then '/' :: path else ((base.path.reverse.dropWhile (· ≠ '/')).reverse) ++ path

/-- The reference as seen from a base. -/
def resolve (base r : UriReference) : UriReference :=
  if r.scheme.isSome then { r with path := withoutDots r.path }
  else if r.authority.isSome then { r with scheme := base.scheme, path := withoutDots r.path }
  else if r.path = [] then
    { base with query := if r.query.isSome then r.query else base.query, fragment := r.fragment }
  else
    let path := if r.path.head? = some '/' then r.path else merge base r.path
    { r with scheme := base.scheme, authority := base.authority, path := withoutDots path }

/-- Whether a reference only names a fragment. -/
def isLocal (r : UriReference) : Bool :=
  r.scheme.isNone && r.authority.isNone && r.path = [] && r.query.isNone

/-- Whether references can be resolved against a base. -/
def checkBase (base : UriReference) (text : String) (r : UriReference) : Except UriFault Unit :=
  if base.fragment.isSome then .error (.baseWithFragment text)
  else if base.authority.isNone && base.path ≠ [] && base.path.head? ≠ some '/' && r.scheme.isNone && !r.isLocal then
    .error (.opaqueBase text)
  else .ok ()

def chars (r : UriReference) : List Char :=
  (r.scheme.map fun s => s ++ [':']).getD [] ++ (r.authority.map fun a => '/' :: '/' :: a).getD [] ++ r.path ++
    (r.query.map fun q => '?' :: q).getD [] ++ (r.fragment.map fun f => '#' :: f).getD []

def text (r : UriReference) : String := String.ofList r.chars

end UriReference

/-- The normal form of an absolute URI, as text. -/
abbrev Uri := String

/-- The URI of a schema that has no identifier of its own. -/
def rootUri : Uri := "json-schema:///"

namespace Uri

def parsed (u : Uri) : UriReference :=
  match UriReference.parse u with
  | .ok r => r
  | .error _ => ⟨none, none, u.toList, none, none⟩

/-- What a reference means inside a document.  A fragment that ends the URI of the document leaves it as it is. -/
def resolve (base : Uri) (reference : String) : Except UriFault Uri :=
  if reference.toList.head? = some '#' && reference.toList.isSuffixOf base.toList then .ok base
  else do
    let r ← UriReference.parse reference
    UriReference.checkBase (parsed base) base r
    return ((UriReference.resolve (parsed base) r).normalize).text

/-- A URI without its fragment, and the fragment. -/
def splitFragment (u : String) : String × Option String :=
  let cs := u.toList
  let main := cs.takeWhile (· ≠ '#')
  if main.length = cs.length then (u, none)
  else (String.ofList main, some (String.ofList (cs.drop (main.length + 1))))

/-- The identifier that a URI ends in: its last segment, slashes at its end apart. -/
def lastSegment (u : Uri) : String :=
  let cs := (u.toList.reverse.dropWhile (· = '/')).takeWhile (· ≠ '/')
  String.ofList cs.reverse

end Uri

end YamlSchema.Schema
