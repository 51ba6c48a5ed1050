import YamlSchema.Text.Split

/-!
# Names and addresses of hosts

A host is named by labels of letters, digits and hyphens between dots, or has an address of four bytes or of eight
groups of sixteen bits.
-/

namespace YamlSchema.Schema.Host

/-- A label of one to 63 letters, digits and hyphens, with no hyphen at its ends. -/
def isLabel (label : List Char) : Bool :=
  !label.isEmpty && label.length ≤ 63 && label.all (fun c => c.isAlphanum || c = '-') &&
    label.head? ≠ some '-' && label.getLast? ≠ some '-'

/-- Labels with dots between them, 253 characters at most. -/
def isName (cs : List Char) : Bool := cs.length ≤ 253 && (splitChars '.' cs).all isLabel

/-- A number of one byte, without superfluous zeros. -/
private def isOctet (cs : List Char) : Bool :=
  !cs.isEmpty && cs.length ≤ 3 && cs.all Char.isDigit && (cs.length = 1 || cs.head? ≠ some '0') &&
    cs.foldl (fun n c => n * 10 + (c.toNat - '0'.toNat)) 0 ≤ 255

/-- Four bytes with dots between them. -/
def isAddress4 (cs : List Char) : Bool :=
  let octets := splitChars '.' cs
  octets.length = 4 && octets.all isOctet

private def isHexDigit (c : Char) : Bool := c.isDigit || ('a' ≤ c && c ≤ 'f') || ('A' ≤ c && c ≤ 'F')

private def isGroup (cs : List Char) : Bool := !cs.isEmpty && cs.length ≤ 4 && cs.all isHexDigit

/-- How many groups of sixteen bits the pieces between colons are; the last may be an address of four bytes. -/
private def groups? (pieces : List (List Char)) (last : Bool) : Option Nat :=
  match pieces with
  | [] => some 0
  | [p] => if isGroup p then some 1 else if last && isAddress4 p then some 2 else none
  | p :: rest => if isGroup p then (groups? rest last).map (· + 1) else none

/-- The parts before and behind the first double colon. -/
private def splitDouble : List Char → List Char → Option (List Char × List Char)
  | _, [] => none
  | before, ':' :: ':' :: rest => some (before.reverse, rest)
  | before, c :: rest => splitDouble (c :: before) rest

/-- Eight groups of hexadecimal digits; a double colon stands for one group of zeros or more. -/
def isAddress6 (cs : List Char) : Bool :=
  let pieces := fun (part : List Char) => if part = [] then [] else splitChars ':' part
  match splitDouble [] cs with
  | none => groups? (splitChars ':' cs) true = some 8
  | some (before, after) =>
    match groups? (pieces before) false, groups? (pieces after) true with
    | some a, some b => a + b ≤ 7
    | _, _ => false

end YamlSchema.Schema.Host
