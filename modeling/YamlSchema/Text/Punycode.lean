/-!
# Punycode

The encoding of texts by letters, digits and hyphens: the characters of ASCII stand first, and behind the last hyphen the
places and values of the others, as differences in a base of 36 digits whose thresholds adapt to what was written.
-/

namespace YamlSchema.Text.Punycode

private def digitChar (d : Nat) : Char := Char.ofNat (if d < 26 then 'a'.toNat + d else '0'.toNat + (d - 26))

private def digitValue? (c : Char) : Option Nat :=
  if c.isDigit then some (c.toNat - '0'.toNat + 26)
  else if c.isLower then some (c.toNat - 'a'.toNat)
  else if c.isUpper then some (c.toNat - 'A'.toNat)
  else none

/-- From which digit on another one follows, at a place counted in steps of 36. -/
private def threshold (place bias : Nat) : Nat := min 26 (max 1 (place - bias))

private theorem threshold_pos (place bias : Nat) : 0 < threshold place bias := by
  unfold threshold
  omega

/-- How often 35 divides a number until it is at most 455, and what it is then. -/
private def scaleDown (delta : Nat) : Nat × Nat :=
  if 455 < delta then
    let (steps, rest) := scaleDown (delta / 35)
    (steps + 1, rest)
  else (0, delta)
termination_by delta
decreasing_by omega

/-- The bias behind a difference, if `count` characters are written then. -/
private def adapt (delta count : Nat) (first : Bool) : Nat :=
  let delta := if first then delta / 700 else delta / 2
  let (steps, rest) := scaleDown (delta + delta / count)
  36 * steps + 36 * rest / (rest + 38)

/-! ### Encoding -/

/-- A difference as digits, from a place on. -/
private def digits (bias place q : Nat) : List Char :=
  if q < threshold place bias then [digitChar q]
  else
    let rest := q - threshold place bias
    let base := 36 - threshold place bias
    digitChar (threshold place bias + rest % base) :: digits bias (place + 36) (rest / base)
termination_by q
decreasing_by
  have h := threshold_pos place bias
  have h' := Nat.div_le_self (q - threshold place bias) (36 - threshold place bias)
  omega

private structure Writing where
  output : List Char
  delta : Nat
  bias : Nat
  count : Nat

/-- Passes one character of the text while those with the value `n` are written. -/
private def Writing.pass (basic n : Nat) (w : Writing) (c : Char) : Writing :=
  if c.toNat < n then { w with delta := w.delta + 1 }
  else if c.toNat = n then
    ⟨w.output ++ digits w.bias 36 w.delta, 0, adapt w.delta (w.count + 1) (w.count = basic), w.count + 1⟩
  else w

/-- Writes the characters with the given values, in ascending order. -/
private def writeFrom (cs : List Char) (basic next : Nat) (w : Writing) : List Nat → Writing
  | [] => w
  | n :: rest =>
    let w := cs.foldl (Writing.pass basic n) { w with delta := w.delta + (n - next) * (w.count + 1) }
    writeFrom cs basic (n + 1) { w with delta := w.delta + 1 } rest

/-- The encoded form of a text. -/
def encode (cs : List Char) : List Char :=
  let basic := cs.filter fun c => c.toNat < 128
  let values := ((cs.filter fun c => 128 ≤ c.toNat).map Char.toNat).mergeSort.eraseDups
  let w := writeFrom cs basic.length 128 ⟨[], 0, 72, basic.length⟩ values
  (if basic = [] then [] else basic ++ ['-']) ++ w.output

/-! ### Decoding -/

private def limit : Nat := 4294967295

/-- A difference: its digits from a place on, the first with a weight, and what follows it. -/
private def difference? (bias place weight i : Nat) : List Char → Option (Nat × List Char)
  | [] => none
  | c :: rest => do
    let digit ← digitValue? c
    if (limit - i) / weight < digit then none
    else
      let i := i + digit * weight
      let t := threshold place bias
      if digit < t then return (i, rest)
      else if limit / (36 - t) < weight then none
      else difference? bias (place + 36) (weight * (36 - t)) i rest

private def readFrom (fuel : Nat) (output : List Char) (n i bias : Nat) (cs : List Char) : Option (List Char) :=
  match fuel, cs with
  | _, [] => some output
  | 0, _ => none
  | fuel + 1, cs => do
    let (j, rest) ← difference? bias 36 1 i cs
    let count := output.length + 1
    let n := n + j / count
    if n.isValidChar then
      readFrom fuel (output.insertIdx (j % count) (Char.ofNat n)) n (j % count + 1) (adapt (j - i) count (i = 0)) rest
    else none

/-- The text that an encoded form stands for. -/
def decode? (cs : List Char) : Option (List Char) :=
  let digits := (cs.reverse.takeWhile (· ≠ '-')).reverse
  let basic := cs.take (cs.length - digits.length - 1)
  readFrom cs.length basic 128 0 72 (if basic = [] then cs else digits)

end YamlSchema.Text.Punycode
