import YamlSchema.Pattern.Expression

/-!
# The size of an expression

An expression without look-around and back references is an automaton over the bytes of a text, with a copy of a part
for each of its repetitions.  `Expression.size` is about the number of bytes that the states of the automaton take; an
expression beyond `Expression.sizeLimit` is refused.
-/

namespace YamlSchema

open Text.Unicode (Ranges)

namespace Utf8

/-- The bytes of the character with a number. -/
private def bytesOf (n : Nat) : List Nat :=
  if n < 0x80 then [n]
  else if n < 0x800 then [0xC0 + n / 64, 0x80 + n % 64]
  else if n < 0x10000 then [0xE0 + n / 4096, 0x80 + n / 64 % 64, 0x80 + n % 64]
  else [0xF0 + n / 262144, 0x80 + n / 4096 % 64, 0x80 + n / 64 % 64, 0x80 + n % 64]

/-- Where a range of characters has to be cut so that both halves are nearer to having one range for each byte. -/
private def cut? (low high : Nat) : Option Nat :=
  let lengths := [0x7F, 0x7FF, 0xD7FF, 0xDFFF, 0xFFFF].find? fun last => low ≤ last && last < high
  lengths.or ([64, 4096, 262144].findSome? fun block =>
    if low / block = high / block then none
    else if low % block ≠ 0 then some (low / block * block + block - 1)
    else if high % block ≠ block - 1 then some (high / block * block - 1)
    else none)

/-- The ranges of bytes of the characters of a range, as sequences in ascending order. -/
private def sequences : Nat → Nat → Nat → List (List (Nat × Nat))
  | 0, _, _ => []
  | fuel + 1, low, high =>
    match if high < 0x80 then none else cut? low high with
    | some last => sequences fuel low last ++ sequences fuel (last + 1) high
    | none => if 0xD800 ≤ low ∧ high ≤ 0xDFFF then [] else [(bytesOf low).zip (bytesOf high)]

/-- The sequences of bytes of the characters of a set. -/
def sequencesOf (r : Ranges) : List (List (Nat × Nat)) := r.flatMap fun p => sequences 64 p.1 p.2

end Utf8

namespace Expression

/-- The most bytes that the states of an automaton may take. -/
def sizeLimit : Nat := 10485760

/-- The bytes of a state that reads one byte. -/
private def stateSize : Nat := 32

/-- The bytes of a state that leads to two others. -/
private def forkSize : Nat := 40

/-- The states for sequences of bytes that share those for what they have in common at their beginning. -/
private def sharedStates (before : List (Nat × Nat)) : List (List (Nat × Nat)) → Nat
  | [] => 0
  | s :: rest =>
    let common := ((s.zip before).takeWhile fun p => p.1 = p.2).length
    (s.length - common) + sharedStates s rest

private def setSize (r : Ranges) : Nat :=
  match r with
  | [] => stateSize
  | [(low, high)] =>
    if low = high then stateSize * (Char.ofNat low).utf8Size else rangesSize r
  | _ => rangesSize r
where
  rangesSize (r : Ranges) : Nat :=
    if List.all r fun p => p.2 < 128 then 2 * stateSize + 8 * r.length
    else
      let sequences := Utf8.sequencesOf r
      2 * stateSize + 4 * sequences.length + stateSize * sharedStates [] sequences

mutual

/-- About the number of bytes for the states of an expression. -/
def size : Expression → Nat
  | .set s => setSize s
  | .sequence parts => sizeOfAll parts
  | .choice branches => 2 * stateSize + 4 * branches.length + sizeOfAll branches
  | .group _ e => 2 * stateSize + e.size
  | .repeated low none _ e => max low 1 * e.size + forkSize
  | .repeated low (some high) _ e => low * e.size + (high - low) * (e.size + forkSize) + stateSize
  | _ => stateSize

def sizeOfAll : List Expression → Nat
  | [] => 0
  | e :: rest => e.size + sizeOfAll rest

end

end Expression

end YamlSchema
