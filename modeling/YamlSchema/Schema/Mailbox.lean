import YamlSchema.Schema.Host
import YamlSchema.Text.Blank
import YamlSchema.Text.Unicode.Category
import YamlSchema.Text.Unicode.Property

/-!
# E-mail addresses

An address is a local part and a domain with an `@` between them, alone or in angle brackets behind a name.  What is a
name of a host is handed in.
-/

namespace YamlSchema.Schema.Mailbox

open YamlSchema.Text.Unicode

/-- Characters of 16 bits whose two bytes look like a character of two bytes in UTF-8. -/
private def isBytePair (c : Char) : Bool :=
  let high := c.toNat / 256
  let low := c.toNat % 256
  0xC2 ≤ high && high ≤ 0xDF && 0x80 ≤ low && low ≤ 0xBF

private def isAtomChar (c : Char) : Bool :=
  c.isAlphanum || c ∈ ['!', '#', '$', '%', '&', '\'', '*', '+', '-', '/', '=', '?', '^', '_', '`', '{', '|', '}', '~'] ||
    isBytePair c || (128 ≤ c.toNat && (Property.alphabetic.hasChar c || Category.isOneOf c ["nd", "nl", "no"]))

private def isAtom (cs : List Char) : Bool := !cs.isEmpty && cs.all isAtomChar

/-- A local part in quotes: visible characters and blanks, quotes and backslashes behind a backslash. -/
private def isQuoted : List Char → Bool
  | [] => true
  | '\\' :: c :: rest => ('!' ≤ c && c ≤ '~') && isQuoted rest
  | c :: rest => (c = '\t' || isBytePair c || (' ' ≤ c && c ≤ '~' && c ≠ '"' && c ≠ '\\')) && isQuoted rest

private def byteCount (cs : List Char) : Nat := (String.ofList cs).utf8ByteSize

def isLocalPart (cs : List Char) : Bool :=
  byteCount cs ≤ 64 &&
    match cs with
    | '"' :: rest => 2 ≤ rest.length && rest.getLast? = some '"' && isQuoted rest.dropLast
    | _ => (splitChars '.' cs).all isAtom

private def isDomainLabel (label : List Char) : Bool :=
  byteCount label ≤ 63 && isAtom label && label.head? ≠ some '-' && label.getLast? ≠ some '-'

/-- The name of a host, or the address of one in square brackets. -/
def isDomain (isHost : List Char → Bool) (cs : List Char) : Bool :=
  byteCount cs ≤ 254 &&
    match cs with
    | '[' :: rest =>
      let inner := rest.dropLast
      rest.getLast? = some ']' &&
        (if "IPv6:".toList.isPrefixOf inner then Host.isAddress6 (inner.drop 5) else Host.isAddress4 inner)
    | _ => (splitChars '.' cs).all isDomainLabel && isHost cs

/-- A local part and a domain behind the last `@`. -/
def isAddress (isHost : List Char → Bool) (cs : List Char) : Bool :=
  let domain := (cs.reverse.takeWhile (· ≠ '@')).reverse
  domain.length < cs.length && isLocalPart (cs.take (cs.length - domain.length - 1)) && isDomain isHost domain

/-- What stands behind the last blank with an angle bracket behind it. -/
private def behindAngle? : List Char → Option (List Char)
  | [] => none
  | c :: rest => (behindAngle? rest).or (if c = ' ' && rest.head? = some '<' then some rest.tail else none)

/-- An address, alone or in angle brackets behind a name. -/
def isMailbox (isHost : List Char → Bool) (cs : List Char) : Bool :=
  match behindAngle? cs with
  | none => isAddress isHost cs
  | some rest =>
    let inner := ((rest.dropWhile Text.isBlank).reverse.dropWhile Text.isBlank).reverse
    inner.getLast? = some '>' && isAddress isHost inner.dropLast

end YamlSchema.Schema.Mailbox
