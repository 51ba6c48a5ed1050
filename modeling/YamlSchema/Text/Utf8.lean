/-!
# Bytes as text

`Utf8.fault?` finds where bytes stop being UTF-8: after how many of them, and how many bytes the broken sequence there
has, unless it is only cut off by the end.
-/

namespace YamlSchema.Utf8

/-- Where and how bytes are not UTF-8. -/
structure Fault where
  /-- The number of bytes in front of the broken sequence. -/
  start : Nat
  /-- The number of bytes of the broken sequence; `none` if the bytes end in the middle of one. -/
  size : Option Nat
  deriving DecidableEq, Repr

/-- For the first byte of a sequence, the ranges of the bytes behind it. -/
private def followers? (first : Nat) : Option (List (Nat × Nat)) :=
  let rest := (0x80, 0xBF)
  if first < 0x80 then some []
  else if 0xC2 ≤ first ∧ first ≤ 0xDF then some [rest]
  else if first = 0xE0 then some [(0xA0, 0xBF), rest]
  else if first = 0xED then some [(0x80, 0x9F), rest]
  else if 0xE1 ≤ first ∧ first ≤ 0xEF then some [rest, rest]
  else if first = 0xF0 then some [(0x90, 0xBF), rest, rest]
  else if 0xF1 ≤ first ∧ first ≤ 0xF3 then some [rest, rest, rest]
  else if first = 0xF4 then some [(0x80, 0x8F), rest, rest]
  else none

/-- How many bytes are in the ranges one after another, and whether the bytes end before the ranges do. -/
private def matching : List (Nat × Nat) → List UInt8 → Nat × Bool
  | [], _ => (0, false)
  | _ :: _, [] => (0, true)
  | (low, high) :: ranges, b :: bytes =>
    if low ≤ b.toNat ∧ b.toNat ≤ high then
      let (n, cut) := matching ranges bytes
      (n + 1, cut)
    else (0, false)

private def faultFrom (start : Nat) : Nat → List UInt8 → Option Fault
  | fuel + 1, first :: bytes => match followers? first.toNat with
    | none => some ⟨start, some 1⟩
    | some ranges =>
      let (n, cut) := matching ranges bytes
      if cut then some ⟨start, none⟩
      else if n < ranges.length then some ⟨start, some (n + 1)⟩
      else faultFrom (start + n + 1) fuel (bytes.drop n)
  | _, _ => none

/-- The first place where bytes are not UTF-8. -/
def fault? (bytes : List UInt8) : Option Fault := faultFrom 0 bytes.length bytes

/-- What is said about bytes that are not UTF-8. -/
def Fault.message (f : Fault) : String :=
  match f.size with
  | some n => s!"invalid utf-8 sequence of {n} bytes from index {f.start}"
  | none => s!"incomplete utf-8 byte sequence from index {f.start}"

end YamlSchema.Utf8
