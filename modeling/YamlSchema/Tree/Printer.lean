import YamlSchema.Tree.Basic
import YamlSchema.Decimal.Shortest

/-!
# The text of a tree

Compact JSON: no blanks, members in their order, the shortest decimal for a double.  Only the quote, the backslash and
the control characters below U+0020 are escaped.
-/

namespace YamlSchema

/-- Doubles of trees: positional between 1e-5 and 1e16, always with a point, otherwise with a signed exponent. -/
def Decimal.json : Decimal.Layout := ⟨-5, 16, true, true⟩

namespace Quoted

/-- What stands for a character between the quotes. -/
def escape (c : Char) : List Char :=
  if c = '"' then ['\\', '"']
  else if c = '\\' then ['\\', '\\']
  else if c = '\n' then ['\\', 'n']
  else if c = '\t' then ['\\', 't']
  else if c = '\r' then ['\\', 'r']
  else if c = '\x08' then ['\\', 'b']
  else if c = '\x0c' then ['\\', 'f']
  else if c.toNat < 32 then ['\\', 'u', '0', '0', Nat.digitChar (c.toNat / 16), Nat.digitChar (c.toNat % 16)]
  else [c]

/-- A quoted string of the JSON notation. -/
def write (s : String) : List Char := '"' :: (s.toList.flatMap escape ++ ['"'])

end Quoted

namespace Number

/-- An integer in decimal digits, or the shortest decimal of a double. -/
def write : Number → List Char
  | .int value => if value < 0 then '-' :: Nat.toDigits 10 value.natAbs else Nat.toDigits 10 value.natAbs
  | .real value => ((Decimal.shortest value).render Decimal.json value.negative).toList

def text (n : Number) : String := String.ofList n.write

end Number

namespace Tree

mutual

def write : Tree → List Char
  | .null => "null".toList
  | .bool true => "true".toList
  | .bool false => "false".toList
  | .number n => n.write
  | .string s => Quoted.write s
  | .array items => '[' :: (writeItems items ++ [']'])
  | .object members => '{' :: (writeMembers members ++ ['}'])

def writeItems : List Tree → List Char
  | [] => []
  | [t] => t.write
  | t :: rest => t.write ++ ',' :: writeItems rest

def writeMembers : List (String × Tree) → List Char
  | [] => []
  | [(k, t)] => Quoted.write k ++ ':' :: t.write
  | (k, t) :: rest => Quoted.write k ++ ':' :: t.write ++ ',' :: writeMembers rest

end

/-- Compact JSON. -/
def text (t : Tree) : String := String.ofList t.write

end Tree

end YamlSchema
