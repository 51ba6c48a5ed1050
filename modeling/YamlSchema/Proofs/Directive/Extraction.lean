import Mathlib.Data.List.TakeWhile
import YamlSchema.Directive

/-!
# Every directive of a text is found

A text `Begins` with a directive if it goes on as the directive is written and the value's word ends there.  Inside of
what is written no other directive begins (`Begins.not_begins_drop`), so the scan that goes on behind each directive
misses none: the directives of a text are those that begin at its positions, each once and in their order
(`extractDirectives_eq_map`).
-/

namespace YamlSchema

/-- The text of a key or a value of a directive. -/
def IsWord (text : String) : Prop := text.toList ≠ [] ∧ ∀ c ∈ text.toList, Directive.isWordChar c = true

theorem IsWord.notMem {text : String} (h : IsWord text) {c : Char} (hc : Directive.isWordChar c = false) :
    c ∉ text.toList := by
  intro hmem
  rw [h.2 c hmem] at hc
  cases hc

namespace Directive

/-- A directive as it stands in a text. -/
def written (d : Directive) : List Char :=
  '#' :: '#' :: ' ' :: (d.key.toList ++ ':' :: ' ' :: d.value.toList)

/-- A text goes on with a directive: its key is a word, and its value a word that goes on no further. -/
def Begins (cs : List Char) (d : Directive) : Prop :=
  IsWord d.key ∧ IsWord d.value ∧ ∃ rest, cs = d.written ++ rest ∧ ∀ c ∈ rest.head?, isWordChar c = false

/-! ### Words -/

theorem word?_eq_some_iff {cs w rest : List Char} : word? cs = some (w, rest) ↔
    cs = w ++ rest ∧ w ≠ [] ∧ (∀ c ∈ w, isWordChar c = true) ∧ ∀ c ∈ rest.head?, isWordChar c = false := by
  have hcut := List.takeWhile_append_dropWhile (p := isWordChar) (l := cs)
  unfold word?
  constructor
  · intro h
    split at h
    · cases h
    · rename_i hne
      cases h
      refine ⟨hcut.symm, hne, fun _ => List.mem_takeWhile_imp, fun c hc => ?_⟩
      have hhead := List.head?_dropWhile_not isWordChar cs
      rw [Option.mem_def.1 hc] at hhead
      simpa using hhead
  · rintro ⟨rfl, hne, hw, hrest⟩
    have htake : rest.takeWhile isWordChar = [] ∧ rest.dropWhile isWordChar = rest := by
      cases rest with
      | nil => exact ⟨rfl, rfl⟩
      | cons c rest =>
        have hc : ¬ isWordChar c = true := by simp [hrest c rfl]
        exact ⟨List.takeWhile_cons_of_neg hc, List.dropWhile_cons_of_neg hc⟩
    rw [List.takeWhile_append_of_pos hw, List.dropWhile_append_of_pos hw, htake.1, htake.2, List.append_nil]
    split
    · contradiction
    · rfl

/-! ### One position -/

theorem length_written (d : Directive) : d.written.length = 3 + d.key.length + 2 + d.value.length := by
  simp only [written, List.length_cons, List.length_append, String.length_toList]
  omega

/-- What stands at the head of a text is found there, and nothing else. -/
theorem atHead?_eq_some_iff {cs : List Char} {d : Directive} {n : Nat} :
    atHead? cs = some (d, n) ↔ Begins cs d ∧ n = d.written.length := by
  unfold atHead?
  constructor
  · intro h
    split at h
    · rename_i rest
      split at h
      · rename_i key behind hkey
        obtain ⟨rfl, hkeyNe, hkeyWord, -⟩ := word?_eq_some_iff.1 hkey
        split at h
        · rename_i value tail hvalue
          obtain ⟨rfl, hvalueNe, hvalueWord, hend⟩ := word?_eq_some_iff.1 hvalue
          cases h
          refine ⟨⟨?_, ?_, tail, ?_, hend⟩, ?_⟩
          · rw [IsWord, String.toList_ofList]
            exact ⟨hkeyNe, hkeyWord⟩
          · rw [IsWord, String.toList_ofList]
            exact ⟨hvalueNe, hvalueWord⟩
          · simp [written]
          · simp [length_written]
        · cases h
      · cases h
    · cases h
  · rintro ⟨⟨hkey, hvalue, rest, rfl, hend⟩, rfl⟩
    have hbehind : word? (d.key.toList ++ ':' :: ' ' :: (d.value.toList ++ rest)) =
        some (d.key.toList, ':' :: ' ' :: (d.value.toList ++ rest)) :=
      word?_eq_some_iff.2 ⟨rfl, hkey.1, hkey.2, fun c hc => by cases hc; decide⟩
    have htail : word? (d.value.toList ++ rest) = some (d.value.toList, rest) :=
      word?_eq_some_iff.2 ⟨rfl, hvalue.1, hvalue.2, hend⟩
    simp [written, hbehind, htail]
    omega

/-- A text begins with at most one directive. -/
theorem Begins.unique {cs : List Char} {d other : Directive} (h : Begins cs d) (hother : Begins cs other) :
    d = other := by
  have heq := (atHead?_eq_some_iff.2 ⟨h, rfl⟩).symm.trans (atHead?_eq_some_iff.2 ⟨hother, rfl⟩)
  cases heq
  rfl

/-- No directive begins inside of another one: behind its two hash signs there is none. -/
theorem Begins.not_begins_drop {cs : List Char} {d : Directive} (h : Begins cs d) {i : Nat} (hpos : 0 < i)
    (hi : i < d.written.length) (other : Directive) : ¬ Begins (cs.drop i) other := by
  obtain ⟨hkey, hvalue, rest, rfl, -⟩ := h
  rintro ⟨-, -, behind, heq, -⟩
  have hhash : '#' ∉ ' ' :: (d.key.toList ++ ':' :: ' ' :: d.value.toList) := by
    simp [hkey.notMem (c := '#') (by decide), hvalue.notMem (c := '#') (by decide)]
  have hhead := congrArg List.head? heq
  obtain rfl | ⟨i, rfl⟩ : i = 1 ∨ ∃ j, i = j + 2 := by
    rcases i with _ | _ | j
    · omega
    · exact .inl rfl
    · exact .inr ⟨j, rfl⟩
  · -- the second hash sign is followed by a blank
    simp [written] at heq
  · rw [written, List.length_cons, List.length_cons] at hi
    have hi' : i < (' ' :: (d.key.toList ++ ':' :: ' ' :: d.value.toList)).length := by omega
    rw [written, List.cons_append, List.cons_append, List.drop_succ_cons, List.drop_succ_cons, List.head?_drop,
      List.getElem?_append_left hi'] at hhead
    exact hhash (List.mem_of_getElem? hhead)

/-! ### All positions -/

/-- The directives that begin at the positions of a text, whose head is at position `i`. -/
def standing (i : Nat) : List Char → List (Nat × Directive)
  | [] => []
  | c :: rest => ((atHead? (c :: rest)).map fun found => (i, found.1)).toList ++ standing (i + 1) rest

theorem mem_standing_iff {cs : List Char} {i j : Nat} {d : Directive} :
    (j, d) ∈ standing i cs ↔ i ≤ j ∧ Begins (cs.drop (j - i)) d := by
  induction cs generalizing i with
  | nil =>
    rw [standing, List.drop_nil]
    refine iff_of_false List.not_mem_nil ?_
    rintro ⟨-, -, -, rest, heq, -⟩
    simp [written] at heq
  | cons c rest ih =>
    have hhead : (j, d) ∈ ((atHead? (c :: rest)).map fun found => (i, found.1)).toList ↔
        j = i ∧ Begins (c :: rest) d := by
      simp only [Option.mem_toList, Option.map_eq_some_iff, Prod.mk.injEq, Prod.exists, atHead?_eq_some_iff]
      constructor
      · rintro ⟨other, n, ⟨hbegins, -⟩, rfl, rfl⟩
        exact ⟨rfl, hbegins⟩
      · rintro ⟨rfl, hbegins⟩
        exact ⟨d, _, ⟨hbegins, rfl⟩, rfl, rfl⟩
    rw [standing, List.mem_append, hhead, ih]
    constructor
    · rintro (⟨rfl, hbegins⟩ | ⟨hle, hbegins⟩)
      · exact ⟨Nat.le_refl _, by rwa [Nat.sub_self]⟩
      · refine ⟨by omega, ?_⟩
        rwa [show j - i = j - (i + 1) + 1 by omega, List.drop_succ_cons]
    · rintro ⟨hle, hbegins⟩
      rcases Nat.eq_or_lt_of_le hle with rfl | hlt
      · rw [Nat.sub_self] at hbegins
        exact .inl ⟨rfl, hbegins⟩
      · rw [show j - i = j - (i + 1) + 1 by omega, List.drop_succ_cons] at hbegins
        exact .inr ⟨hlt, hbegins⟩

/-- Each directive ends before the next one begins. -/
theorem pairwise_standing (i : Nat) (cs : List Char) :
    (standing i cs).Pairwise fun p q => p.1 + p.2.written.length ≤ q.1 := by
  induction cs generalizing i with
  | nil => exact .nil
  | cons c rest ih =>
    rw [standing]
    cases hhead : atHead? (c :: rest) with
    | none => exact ih (i + 1)
    | some found =>
      obtain ⟨d, n⟩ := found
      refine List.pairwise_cons.2 ⟨fun q hq => ?_, ih (i + 1)⟩
      obtain ⟨hle, hbegins⟩ := mem_standing_iff.1 hq
      dsimp only
      refine Nat.le_of_not_lt fun hlt => ?_
      refine (atHead?_eq_some_iff.1 hhead).1.not_begins_drop (i := q.1 - i) (by omega) (by omega) q.2 ?_
      rwa [show q.1 - i = q.1 - (i + 1) + 1 by omega, List.drop_succ_cons]

/-- Where no directive begins in what is skipped, the scan misses none. -/
theorem scan_eq_map_standing {skip : Nat} {cs : List Char} (h : ∀ j < skip, ∀ d, ¬ Begins (cs.drop j) d) (i : Nat) :
    scan skip cs = (standing i cs).map Prod.snd := by
  induction cs generalizing skip i with
  | nil => rfl
  | cons c rest ih =>
    cases skip with
    | succ skip =>
      have hnone : atHead? (c :: rest) = none := by
        rw [Option.eq_none_iff_forall_ne_some]
        rintro ⟨d, n⟩ hd
        exact h 0 (Nat.succ_pos _) d (atHead?_eq_some_iff.1 hd).1
      rw [scan, standing, hnone, ih fun j hj d => h (j + 1) (Nat.succ_lt_succ hj) d]
      rfl
    | zero =>
      rw [scan, standing]
      cases hhead : atHead? (c :: rest) with
      | none =>
        dsimp only
        rw [ih fun j hj => absurd hj (Nat.not_lt_zero j)]
        rfl
      | some found =>
        obtain ⟨d, n⟩ := found
        obtain ⟨hbegins, rfl⟩ := atHead?_eq_some_iff.1 hhead
        dsimp only
        rw [ih fun j hj other => hbegins.not_begins_drop (i := j + 1) (Nat.succ_pos j) (by omega) other]
        rfl

end Directive

open Directive (Begins)

/-- The directives of a text are those that begin at its positions: one for each position where one begins, in the order
of the positions, and each ends before the next one begins. -/
theorem extractDirectives_eq_map (text : String) : ∃ places : List (Nat × Directive),
    extractDirectives text = places.map Prod.snd ∧
    (∀ i d, (i, d) ∈ places ↔ Begins (text.toList.drop i) d) ∧
    places.Pairwise fun p q => p.1 + p.2.written.length ≤ q.1 := by
  refine ⟨Directive.standing 0 text.toList, ?_, fun i d => ?_, Directive.pairwise_standing 0 _⟩
  · exact Directive.scan_eq_map_standing (fun j hj => absurd hj (Nat.not_lt_zero j)) 0
  · rw [Directive.mem_standing_iff, Nat.sub_zero]
    exact and_iff_right (Nat.zero_le i)

/-- Candidates that overlap a directive do not hide it. -/
example : extractDirectives "### a: b\n## a: ## b: c ## a:## b: c-" =
    [⟨"a", "b"⟩, ⟨"b", "c"⟩, ⟨"b", "c-"⟩] := by decide

end YamlSchema
