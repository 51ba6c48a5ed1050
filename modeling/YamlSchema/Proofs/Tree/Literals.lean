import Mathlib.Data.List.TakeWhile
import YamlSchema.Proofs.Traversal
import YamlSchema.Proofs.Tree.Pointer
import YamlSchema.Tree.Printer
import YamlSchema.Tree.Reader

/-!
# Written strings and numbers

A string is read as it was written, whatever characters it has (`Json.string?_write`).  So is a literal, in front of
whatever may follow a value (`Json.literal?_text`), and every number is written as a literal (`Number.exists_text`): a
double as that of its shortest decimal, whichever layout with a point is used (`Decimal.toList_render`).  The value of
that literal is the number again for integers of 64 bits (`Number.readBack_int`), not for every double.
-/

namespace YamlSchema

/-! ### Strings -/

namespace Json

variable {fuel : Nat}

/-- A character in front of what is read of a string. -/
def inFront (c : Char) (found : List (Option Char) × List Char) : List (Option Char) × List Char :=
  (some c :: found.1, found.2)

theorem content?_shortEscape {e c : Char} (he : e ≠ 'u') (h : shortEscape? e = some c) (cs : List Char) :
    content? (fuel + 1) ('\\' :: e :: cs) = (content? fuel cs).map (inFront c) := by
  rw [content?.eq_5 _ _ _ he, h]
  cases content? fuel cs <;> rfl

theorem content?_plain {c : Char} (hquote : c ≠ '"') (hslash : c ≠ '\\') (h : ¬ c.toNat < 32) (cs : List Char) :
    content? (fuel + 1) (c :: cs) = (content? fuel cs).map (inFront c) := by
  rw [content?.eq_6 _ _ _ hquote (fun _ heq => absurd heq hslash) (fun _ _ heq => absurd heq hslash),
    if_neg (by simp [h, hslash])]
  cases content? fuel cs <;> rfl

theorem hexValue?_digitChar : ∀ d < 16, hexValue? (Nat.digitChar d) = some d := by decide

theorem content?_control {c : Char} (h : c.toNat < 32) (cs : List Char) :
    content? (fuel + 1)
        ('\\' :: 'u' :: '0' :: '0' :: Nat.digitChar (c.toNat / 16) :: Nat.digitChar (c.toNat % 16) :: cs) =
      (content? fuel cs).map (inFront c) := by
  have hunit : unit? ('0' :: '0' :: Nat.digitChar (c.toNat / 16) :: Nat.digitChar (c.toNat % 16) :: cs) =
      some (c.toNat, cs) := by
    have hzero : hexValue? '0' = some 0 := by decide
    have hvalue : ((0 * 16 + 0) * 16 + c.toNat / 16) * 16 + c.toNat % 16 = c.toNat := by omega
    simp only [unit?, hzero, hexValue?_digitChar _ (show c.toNat / 16 < 16 by omega),
      hexValue?_digitChar _ (show c.toNat % 16 < 16 by omega), bind, Option.bind, pure, hvalue]
  have hcode : (if 0xDC00 ≤ c.toNat ∧ c.toNat < 0xE000 then none else some (Char.ofNat c.toNat)) = some c := by
    rw [if_neg (by omega), Char.ofNat_toNat]
  rw [content?.eq_4, hunit]
  simp only [bind, Option.bind_some, if_neg (show ¬ (0xD800 ≤ c.toNat ∧ c.toNat < 0xDC00) by omega), hcode]
  cases content? fuel cs <;> rfl

/-- What stands for a character is read as that character. -/
theorem content?_escape (c : Char) (cs : List Char) :
    content? (fuel + 1) (Quoted.escape c ++ cs) = (content? fuel cs).map (inFront c) := by
  by_cases hshort : c = '"' ∨ c = '\\' ∨ c = '\n' ∨ c = '\t' ∨ c = '\r' ∨ c = '\x08' ∨ c = '\x0c'
  · rcases hshort with rfl | rfl | rfl | rfl | rfl | rfl | rfl <;>
      exact content?_shortEscape (by decide) (by decide) cs
  · simp only [not_or] at hshort
    obtain ⟨hquote, hslash, hline, htab, hreturn, hback, hfeed⟩ := hshort
    rw [Quoted.escape, if_neg hquote, if_neg hslash, if_neg hline, if_neg htab, if_neg hreturn, if_neg hback,
      if_neg hfeed]
    split
    · rename_i hcontrol
      exact content?_control hcontrol cs
    · rename_i hcontrol
      exact content?_plain hquote hslash hcontrol cs

theorem content?_flatMap_escape (cs rest : List Char) (h : cs.length < fuel) :
    content? fuel (cs.flatMap Quoted.escape ++ '"' :: rest) = some (cs.map some, rest) := by
  induction cs generalizing fuel with
  | nil =>
    obtain ⟨fuel, rfl⟩ := Nat.exists_eq_add_one.2 (Nat.zero_lt_of_lt h)
    rw [List.flatMap_nil, List.nil_append, content?.eq_3, List.map_nil]
  | cons c cs ih =>
    obtain ⟨fuel, rfl⟩ := Nat.exists_eq_add_one.2 (Nat.zero_lt_of_lt h)
    rw [List.flatMap_cons, List.append_assoc, content?_escape, ih (Nat.lt_of_succ_lt_succ h)]
    rfl

theorem stringOf?_map_some (cs : List Char) : stringOf? (cs.map some) = some (String.ofList cs) := by
  have hchars : (cs.map some).mapM id = some cs :=
    mapM_eq_some_iff.2 (List.forall₂_map_left_iff.2 (List.forall₂_same.2 fun _ _ => rfl))
  rw [stringOf?, hchars, Option.map_some]

/-- A string is read as it was written. -/
theorem string?_write (s : String) (rest : List Char) (h : s.length < fuel) :
    string? fuel (s.toList.flatMap Quoted.escape ++ '"' :: rest) = some (some s, rest) := by
  rw [string?, content?_flatMap_escape _ _ (by rwa [String.length_toList]), Option.map_some]
  dsimp only
  rw [stringOf?_map_some, String.ofList_toList]

/-! ### Literals -/

/-- What may stand behind a value. -/
def Closes (rest : List Char) : Prop := ∀ c ∈ rest.head?, c = ',' ∨ c = ']' ∨ c = '}'

/-- No digit stands at the head. -/
def EndsDigits (rest : List Char) : Prop := ∀ c ∈ rest.head?, c.isDigit = false

theorem Closes.endsDigits {rest : List Char} (h : Closes rest) : EndsDigits rest := fun c hc => by
  rcases h c hc with rfl | rfl | rfl <;> decide

/-- At least one digit and nothing else. -/
def AreDigits (ds : List Char) : Prop := ds ≠ [] ∧ ∀ c ∈ ds, c.isDigit = true

variable {ds rest : List Char}

theorem EndsDigits.span_append (hrest : EndsDigits rest) (hds : ∀ c ∈ ds, c.isDigit = true) :
    (ds ++ rest).takeWhile Char.isDigit = ds ∧ (ds ++ rest).dropWhile Char.isDigit = rest := by
  have hend : rest.takeWhile Char.isDigit = [] ∧ rest.dropWhile Char.isDigit = rest := by
    cases rest with
    | nil => exact ⟨rfl, rfl⟩
    | cons c rest =>
      have hc : ¬ c.isDigit = true := by rw [hrest c rfl]; exact Bool.false_ne_true
      exact ⟨List.takeWhile_cons_of_neg hc, List.dropWhile_cons_of_neg hc⟩
  rw [List.takeWhile_append_of_pos hds, List.dropWhile_append_of_pos hds, hend.1, hend.2, List.append_nil]
  exact ⟨rfl, rfl⟩

/-- A whole part is a single zero or does not begin with one. -/
def IsWhole (ds : List Char) : Prop := ds = ['0'] ∨ AreDigits ds ∧ ∀ more, ds ≠ '0' :: more

theorem areDigits_zero : AreDigits ['0'] := ⟨List.cons_ne_nil _ _, List.forall_mem_singleton.2 rfl⟩

theorem IsWhole.areDigits (h : IsWhole ds) : AreDigits ds := by
  rcases h with rfl | h
  · exact areDigits_zero
  · exact h.1

theorem whole?_append (h : IsWhole ds) (hrest : EndsDigits rest) : whole? (ds ++ rest) = some (ds, rest) := by
  rcases h with rfl | ⟨⟨hne, hdigits⟩, hzero⟩
  · cases rest with
    | nil => rfl
    | cons c rest =>
      rw [List.singleton_append, whole?.eq_1, hrest c rfl]
      rfl
  · obtain ⟨c, cs, rfl⟩ := List.exists_cons_of_ne_nil hne
    have hzero' : ∀ more, c :: cs ++ rest = '0' :: more → False := fun more heq =>
      hzero cs (by rw [(List.cons.inj heq).1])
    have hspan := hrest.span_append hdigits
    rw [whole?.eq_3 _ hzero', hspan.1, hspan.2]

namespace Literal

/-- What is written for a fraction. -/
def fractionText : Option (List Char) → List Char
  | none => []
  | some ds => '.' :: ds

/-- The sign of an exponent, with a plus sign or without. -/
def exponentSign (plus : Bool) : Bool → List Char
  | true => ['-']
  | false => if plus then ['+'] else []

/-- What is written for an exponent. -/
def exponentText (plus : Bool) : Option (Bool × List Char) → List Char
  | none => []
  | some (down, ds) => 'e' :: (exponentSign plus down ++ ds)

/-- A literal as it is written. -/
def text (plus : Bool) (l : Literal) : List Char :=
  (if l.negative then ['-'] else []) ++ (l.whole ++ (fractionText l.fraction ++ exponentText plus l.exponent))

/-- The parts of a literal are digits. -/
structure IsProper (l : Literal) : Prop where
  whole : IsWhole l.whole
  fraction : ∀ ds ∈ l.fraction, AreDigits ds
  exponent : ∀ e ∈ l.exponent, AreDigits e.2

end Literal

variable (plus : Bool)

theorem exponent?_append {e : Option (Bool × List Char)} (h : ∀ x ∈ e, AreDigits x.2) (hrest : Closes rest) :
    exponent? (Literal.exponentText plus e ++ rest) = some (e, rest) := by
  cases e with
  | none =>
    cases rest with
    | nil => rfl
    | cons c rest =>
      have hc : ¬ (c = 'e' ∨ c = 'E') := by rcases hrest c rfl with rfl | rfl | rfl <;> decide
      change exponent? (c :: rest) = _
      rw [exponent?.eq_def]
      dsimp only
      rw [if_neg hc]
  | some x =>
    obtain ⟨down, ds⟩ := x
    obtain ⟨hne, hdigits⟩ := h _ rfl
    obtain ⟨d, ds, rfl⟩ := List.exists_cons_of_ne_nil hne
    have hspan := hrest.endsDigits.span_append hdigits
    cases down with
    | true =>
      change exponent? ('e' :: '-' :: (d :: ds ++ rest)) = _
      rw [exponent?.eq_2, if_pos (.inl rfl)]
      dsimp only
      rw [hspan.1, hspan.2]
    | false =>
      cases plus with
      | true =>
        change exponent? ('e' :: '+' :: (d :: ds ++ rest)) = _
        rw [exponent?.eq_1, if_pos (.inl rfl)]
        dsimp only
        rw [hspan.1, hspan.2]
      | false =>
        -- a digit is no sign
        have hd : d.isDigit = true := hdigits d List.mem_cons_self
        change exponent? ('e' :: (d :: ds ++ rest)) = _
        rw [exponent?.eq_3 _ _ (fun more heq => ?_) (fun more heq => ?_), if_pos (.inl rfl)]
        · dsimp only
          rw [hspan.1, hspan.2]
        all_goals
          rw [(List.cons.inj heq).1] at hd
          cases hd

/-- Neither a digit nor a point stands in front of an exponent. -/
theorem head_exponentText (e : Option (Bool × List Char)) (hrest : Closes rest) :
    ∀ c ∈ (Literal.exponentText plus e ++ rest).head?, c.isDigit = false ∧ c ≠ '.' := by
  intro c hc
  cases e with
  | none => rcases hrest c hc with rfl | rfl | rfl <;> decide
  | some x =>
    cases hc
    decide

theorem fraction?_append {f : Option (List Char)} (h : ∀ ds ∈ f, AreDigits ds)
    (hrest : ∀ c ∈ rest.head?, c.isDigit = false ∧ c ≠ '.') :
    fraction? (Literal.fractionText f ++ rest) = some (f, rest) := by
  cases f with
  | none =>
    refine fraction?.eq_2 _ fun more heq => ?_
    rw [Literal.fractionText, List.nil_append] at heq
    exact (hrest '.' (by rw [heq]; rfl)).2 rfl
  | some ds =>
    obtain ⟨hne, hdigits⟩ := h _ rfl
    obtain ⟨d, ds, rfl⟩ := List.exists_cons_of_ne_nil hne
    have hspan := EndsDigits.span_append (fun c hc => (hrest c hc).1) hdigits
    rw [Literal.fractionText, List.cons_append, fraction?.eq_1, hspan.1, hspan.2]

/-- A literal is read as it was written. -/
theorem literal?_text {l : Literal} (h : l.IsProper) (hrest : Closes rest) : literal? (l.text plus ++ rest) = some (l, rest) := by
  have hexponent := exponent?_append plus h.exponent hrest
  have hfraction := fraction?_append h.fraction (head_exponentText plus l.exponent hrest)
  have hwhole : whole? (l.whole ++ (Literal.fractionText l.fraction ++ (Literal.exponentText plus l.exponent ++ rest))) =
      some (l.whole, Literal.fractionText l.fraction ++ (Literal.exponentText plus l.exponent ++ rest)) := by
    refine whole?_append h.whole fun c hc => ?_
    cases hf : l.fraction with
    | none => exact (head_exponentText plus l.exponent hrest c (by rwa [hf] at hc)).1
    | some ds =>
      rw [hf] at hc
      cases hc
      rfl
  obtain ⟨negative, whole, fraction, exponent⟩ := l
  cases negative with
  | true =>
    simp only [Literal.text, if_true, List.append_assoc, List.cons_append, List.nil_append]
    rw [literal?.eq_1]
    simp only [hwhole, hfraction, hexponent, bind, Option.bind_some, pure]
  | false =>
    have hminus : ∀ more, whole ++ (Literal.fractionText fraction ++ (Literal.exponentText plus exponent ++ rest)) =
        '-' :: more → False := by
      intro more heq
      obtain ⟨hne, hdigits⟩ := h.whole.areDigits
      obtain ⟨c, cs, rfl⟩ := List.exists_cons_of_ne_nil hne
      have hc := hdigits c List.mem_cons_self
      rw [(List.cons.inj heq).1] at hc
      cases hc
    simp only [Literal.text, Bool.false_eq_true, if_false, List.append_assoc, List.nil_append]
    rw [literal?.eq_2 _ hminus]
    simp only [hwhole, hfraction, hexponent, bind, Option.bind_some, pure]

end Json

/-! ### Written numbers -/

namespace Number

theorem areDigits_toDigits (n : Nat) : Json.AreDigits (Nat.toDigits 10 n) :=
  ⟨Nat.toDigits_ne_nil, fun _ hc => Nat.isDigit_of_mem_toDigits (by decide) (by decide) hc⟩

theorem isWhole_toDigits (n : Nat) : Json.IsWhole (Nat.toDigits 10 n) := by
  by_cases hn : n = 0
  · subst hn
    exact .inl rfl
  · exact .inr ⟨areDigits_toDigits n, head_toDigits hn⟩

/-- The literal as which an integer is written. -/
def literalOfInt (i : Int) : Json.Literal := ⟨decide (i < 0), Nat.toDigits 10 i.natAbs, none, none⟩

theorem write_int (plus : Bool) (i : Int) : (Number.int i).write = (literalOfInt i).text plus := by
  rw [write, Json.Literal.text]
  by_cases hi : i < 0
  · simp [literalOfInt, hi, Json.Literal.fractionText, Json.Literal.exponentText]
  · simp [literalOfInt, hi, Json.Literal.fractionText, Json.Literal.exponentText]

theorem isProper_literalOfInt (i : Int) : (literalOfInt i).IsProper :=
  ⟨isWhole_toDigits _, fun _ h => (nomatch h), fun _ h => (nomatch h)⟩

theorem toList_toString (i : Int) : (toString i).toList = (Number.int i).write := by
  cases i with
  | ofNat n =>
    have htext : toString (Int.ofNat n) = n.repr := rfl
    have hn : ¬ Int.ofNat n < 0 := Int.not_lt.2 (Int.natCast_nonneg n)
    rw [htext, Nat.toList_repr, write, if_neg hn]
    rfl
  | negSucc n =>
    have htext : toString (Int.negSucc n) = "-" ++ (n + 1).repr := rfl
    rw [htext, String.toList_append, Nat.toList_repr, write, if_pos (Int.negSucc_lt_zero n)]
    rfl

theorem toList_exponent (plus : Bool) (e : Int) :
    (if 0 ≤ e ∧ plus = true then "e+" else "e").toList ++ (toString e).toList =
      Json.Literal.exponentText plus (some (decide (e < 0), Nat.toDigits 10 e.natAbs)) := by
  rw [toList_toString, write, Json.Literal.exponentText]
  by_cases he : e < 0
  · rw [if_neg fun h => absurd h.1 (Int.not_le.2 he), if_pos he, decide_eq_true he]
    rfl
  · rw [if_neg he, decide_eq_false he]
    cases plus with
    | true =>
      rw [if_pos ⟨Int.not_lt.1 he, rfl⟩]
      rfl
    | false =>
      rw [if_neg fun h => Bool.false_ne_true h.2]
      rfl

section Layouts

variable {c : Char} {cs : List Char} (hc : c.isDigit = true) (hzero : c ≠ '0') (hcs : ∀ x ∈ cs, x.isDigit = true)

theorem isDigit_of_mem_zeros (n : Nat) : ∀ x ∈ List.replicate n '0', x.isDigit = true := by
  intro x hx
  rw [List.eq_of_mem_replicate hx]
  rfl

include hc hzero in
theorem isWhole_cons (hcs : ∀ x ∈ cs, x.isDigit = true) : Json.IsWhole (c :: cs) :=
  .inr ⟨⟨List.cons_ne_nil _ _, List.forall_mem_cons.2 ⟨hc, hcs⟩⟩, fun _ heq => hzero (List.cons.inj heq).1⟩

include hc hzero hcs

/-- All digits and more zeros stand before the point. -/
theorem isProper_padded (negative : Bool) (n : Nat) :
    (⟨negative, c :: (cs ++ List.replicate n '0'), some ['0'], none⟩ : Json.Literal).IsProper where
  whole := isWhole_cons hc hzero (List.forall_mem_append.2 ⟨hcs, isDigit_of_mem_zeros n⟩)
  fraction := by
    rintro _ ⟨⟩
    exact Json.areDigits_zero
  exponent := by rintro _ ⟨⟩

/-- The point stands between the digits. -/
theorem isProper_split (negative : Bool) {n : Nat} (hn : n < cs.length) :
    (⟨negative, c :: cs.take n, some (cs.drop n), none⟩ : Json.Literal).IsProper where
  whole := isWhole_cons hc hzero fun x hx => hcs x (List.mem_of_mem_take hx)
  fraction := by
    rintro _ ⟨⟩
    exact ⟨List.drop_eq_nil_iff.not.2 (Nat.not_le.2 hn), fun x hx => hcs x (List.mem_of_mem_drop hx)⟩
  exponent := by rintro _ ⟨⟩

omit hzero in
/-- Zeros and all digits stand behind the point. -/
theorem isProper_behind (negative : Bool) (n : Nat) :
    (⟨negative, ['0'], some (List.replicate n '0' ++ c :: cs), none⟩ : Json.Literal).IsProper where
  whole := .inl rfl
  fraction := by
    rintro _ ⟨⟩
    exact ⟨List.append_ne_nil_of_right_ne_nil _ (List.cons_ne_nil _ _),
      List.forall_mem_append.2 ⟨isDigit_of_mem_zeros n, List.forall_mem_cons.2 ⟨hc, hcs⟩⟩⟩
  exponent := by rintro _ ⟨⟩

/-- The point stands behind the first digit, and an exponent says where it belongs. -/
theorem isProper_scientific (negative : Bool) (e : Int) :
    (⟨negative, [c], if cs = [] then none else some cs, some (decide (e < 0), Nat.toDigits 10 e.natAbs)⟩ :
      Json.Literal).IsProper where
  whole := isWhole_cons hc hzero (List.forall_mem_nil _)
  fraction := by
    intro ds hds
    split at hds
    · cases hds
    · rename_i hne
      cases hds
      exact ⟨hne, hcs⟩
  exponent := by
    rintro _ ⟨⟩
    exact areDigits_toDigits _

end Layouts

end Number

namespace Decimal

/-- The literal as which a decimal is written, if whole numbers end in `.0`. -/
def literal (layout : Layout) (negative : Bool) (d : Decimal) : Json.Literal :=
  let ds := Nat.toDigits 10 d.digits
  let point : Int := ds.length + d.power
  if d.digits = 0 then ⟨negative, ['0'], some ['0'], none⟩
  else if layout.low < point ∧ point ≤ layout.high then
    if 0 ≤ d.power then ⟨negative, ds ++ List.replicate d.power.toNat '0', some ['0'], none⟩
    else if 0 < point then ⟨negative, ds.take point.toNat, some (ds.drop point.toNat), none⟩
    else ⟨negative, ['0'], some (List.replicate (-point).toNat '0' ++ ds), none⟩
  else
    ⟨negative, ds.take 1, if ds.drop 1 = [] then none else some (ds.drop 1),
      some (decide (point - 1 < 0), Nat.toDigits 10 (point - 1).natAbs)⟩

theorem toList_zeros (n : Nat) : (zeros n).toList = List.replicate n '0' := String.toList_ofList

variable (layout : Layout) (negative : Bool)

theorem isProper_literal (d : Decimal) : (d.literal layout negative).IsProper := by
  obtain ⟨hne, hdigits⟩ := Number.areDigits_toDigits d.digits
  obtain ⟨c, cs, heq⟩ := List.exists_cons_of_ne_nil hne
  rw [heq, List.forall_mem_cons] at hdigits
  simp only [literal, heq]
  split
  · exact ⟨.inl rfl, by rintro _ ⟨⟩; exact Json.areDigits_zero, fun _ h => nomatch h⟩
  · rename_i hd
    have hzero : c ≠ '0' := fun hc => head_toDigits hd cs (by rw [heq, hc])
    split
    · split
      · exact Number.isProper_padded hdigits.1 hzero hdigits.2 negative _
      · rename_i hpower
        split
        · rename_i hpoint
          obtain ⟨n, hn⟩ : ∃ n, (((c :: cs).length : Int) + d.power).toNat = n + 1 :=
            ⟨(((c :: cs).length : Int) + d.power).toNat - 1, by omega⟩
          rw [hn]
          refine Number.isProper_split hdigits.1 hzero hdigits.2 negative ?_
          rw [List.length_cons] at hn
          omega
        · exact Number.isProper_behind hdigits.1 hdigits.2 negative _
    · exact Number.isProper_scientific hdigits.1 hzero hdigits.2 negative _

/-- A decimal is written as its literal. -/
theorem toList_render (hpoint : layout.pointZero = true) (d : Decimal) :
    (d.render layout negative).toList = (d.literal layout negative).text layout.plus := by
  have hsign : (if negative = true then "-" else "").toList = if negative = true then ['-'] else [] := by
    cases negative <;> rfl
  simp only [render, literal, String.toList_append, hsign, hpoint, if_true]
  by_cases hd : d.digits = 0
  · simp only [if_pos hd]
    rfl
  · simp only [if_neg hd]
    by_cases hplace : layout.low < ((Nat.toDigits 10 d.digits).length : Int) + d.power ∧
        ((Nat.toDigits 10 d.digits).length : Int) + d.power ≤ layout.high
    · simp only [if_pos hplace]
      by_cases hpower : 0 ≤ d.power
      · simp [if_pos hpower, toList_zeros, Json.Literal.text, Json.Literal.fractionText, Json.Literal.exponentText]
      · simp only [if_neg hpower]
        by_cases hpoint : 0 < ((Nat.toDigits 10 d.digits).length : Int) + d.power
        · simp [if_pos hpoint, Json.Literal.text, Json.Literal.fractionText, Json.Literal.exponentText]
        · simp [if_neg hpoint, toList_zeros, Json.Literal.text, Json.Literal.fractionText, Json.Literal.exponentText]
    · have hfraction : (if (Nat.toDigits 10 d.digits).length = 1 then ""
          else "." ++ String.ofList ((Nat.toDigits 10 d.digits).drop 1)).toList =
          Json.Literal.fractionText
            (if (Nat.toDigits 10 d.digits).drop 1 = [] then none else some ((Nat.toDigits 10 d.digits).drop 1)) := by
        obtain ⟨c, cs, heq⟩ := List.exists_cons_of_ne_nil (Nat.toDigits_ne_nil (b := 10) (n := d.digits))
        rw [heq]
        cases cs <;> simp [Json.Literal.fractionText]
      simp only [if_neg hplace, String.toList_append, hfraction, Json.Literal.text, String.toList_ofList,
        List.append_assoc, Number.toList_exponent]

end Decimal

namespace Number

/-- A number is written as a literal. -/
theorem exists_text (n : Number) : ∃ l : Json.Literal, l.IsProper ∧ n.write = l.text true := by
  cases n with
  | int i => exact ⟨literalOfInt i, isProper_literalOfInt i, write_int true i⟩
  | real x =>
    exact ⟨_, Decimal.isProper_literal Decimal.json x.negative (Decimal.shortest x), Decimal.toList_render _ _ rfl _⟩

/-- What is read where a number is written. -/
def readBack (n : Number) : Option Number := (Json.literal? n.write).bind fun found => found.1.value

theorem readBack_of_text {n : Number} {l : Json.Literal} (h : l.IsProper) (heq : n.write = l.text true) :
    n.readBack = l.value := by
  have hread : Json.literal? (l.text true ++ []) = some (l, []) := Json.literal?_text true h fun _ hc => nomatch hc
  rw [List.append_nil] at hread
  rw [readBack, heq, hread, Option.bind_some]

/-- An integer of 64 bits is read as it was written. -/
theorem readBack_int {i : Int} (h : fits i = true) : (Number.int i).readBack = some (.int i) := by
  have hvalue : Json.naturalOf (Nat.toDigits 10 i.natAbs) = i.natAbs := foldl_toDigits i.natAbs
  have hi : (if decide (i < 0) = true then -((i.natAbs : Nat) : Int) else i.natAbs) = i := by
    simp only [decide_eq_true_eq]
    split <;> omega
  have hzero : ¬ (decide (i < 0) = true ∧ i.natAbs = 0) := by
    simp only [decide_eq_true_eq]
    omega
  rw [readBack_of_text (isProper_literalOfInt i) (write_int true i), Json.Literal.value]
  simp only [literalOfInt, hvalue, hi, h, hzero, not_false_eq_true, and_self, if_true]

end Number

end YamlSchema
