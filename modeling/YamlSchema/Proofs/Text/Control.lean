import YamlSchema.Proofs.Tree.Literals
import YamlSchema.Text.Shown

/-!
# Texts without control characters

A text is clean if it has none of the control characters below the space.  Numbers, trees and shown strings are written
cleanly, whatever stands in their strings (`Tree.isClean_text`, `isClean_shown`): what is no clean character is escaped.
-/

namespace YamlSchema

namespace Text

variable {c : Char} {cs ds : List Char}

/-- No character is a control character below the space. -/
def isClean (cs : List Char) : Bool := cs.all fun c => 32 ≤ c.toNat

theorem isClean_iff : isClean cs = true ↔ ∀ c ∈ cs, 32 ≤ c.toNat := by
  simp [isClean]

/-- A control character is in no clean text. -/
theorem notMem_of_isClean (hc : c.toNat < 32) (h : isClean cs = true) : c ∉ cs :=
  fun hmem => absurd (isClean_iff.1 h c hmem) (Nat.not_le.2 hc)

theorem mem_toList_iff_false (hc : c.toNat < 32) {t : String} (h : isClean t.toList = true) : c ∈ t.toList ↔ False :=
  iff_false_intro (notMem_of_isClean hc h)

@[simp] theorem isClean_nil : isClean [] = true := rfl

@[simp] theorem isClean_cons : isClean (c :: cs) = (decide (32 ≤ c.toNat) && isClean cs) := rfl

@[simp] theorem isClean_append : isClean (cs ++ ds) = (isClean cs && isClean ds) := List.all_append

/-- What is written out is clean if its characters are; that is quickly checked. -/
theorem isClean_literal (h : isClean cs = true) : isClean (String.ofList cs).toList = true := by
  rwa [String.toList_ofList]

theorem isClean_toList_append {s t : String} (hs : isClean s.toList = true) (ht : isClean t.toList = true) :
    isClean (s ++ t).toList = true := by
  simp [hs, ht]

theorem isClean_between {before t behind : String} (hbefore : isClean before.toList = true)
    (hbehind : isClean behind.toList = true) (h : isClean t.toList = true) :
    isClean (before ++ t ++ behind).toList = true := by
  simp [hbefore, hbehind, h]

theorem isClean_flatMap {α : Type} {f : α → List Char} {xs : List α} (h : ∀ x ∈ xs, isClean (f x) = true) :
    isClean (xs.flatMap f) = true :=
  isClean_iff.2 fun c hc =>
    have ⟨x, hx, hcx⟩ := List.mem_flatMap.1 hc
    isClean_iff.1 (h x hx) c hcx

theorem isClean_mono (hds : isClean ds = true) (h : ∀ c ∈ cs, c ∈ ds) : isClean cs = true :=
  isClean_iff.2 fun c hc => isClean_iff.1 hds c (h c hc)

theorem isClean_replicate (n : Nat) (hc : 32 ≤ c.toNat) : isClean (List.replicate n c) = true :=
  isClean_iff.2 fun d hd => by rwa [List.eq_of_mem_replicate hd]

theorem isClean_intercalate {separator : String} {texts : List String} (hs : isClean separator.toList = true)
    (h : ∀ t ∈ texts, isClean t.toList = true) : isClean (separator.intercalate texts).toList = true := by
  rw [String.toList_intercalate]
  induction texts with
  | nil => rfl
  | cons t rest ih =>
    rw [List.forall_mem_cons] at h
    cases rest with
    | nil => simpa [List.intercalate] using h.1
    | cons u rest =>
      have hrest := ih h.2
      rw [List.map_cons] at hrest
      simp [List.intercalate_cons_cons, h.1, hs, hrest]

/-! ### Bytes -/

/-- No byte of a text is below the space.  Literals are quickly checked by their bytes, which need not be decoded. -/
def hasCleanBytes (s : String) : Bool := s.toByteArray.data.toList.all fun b => 32 ≤ b.toNat

theorem isClean_of_hasCleanBytes {s : String} (h : hasCleanBytes s = true) : isClean s.toList = true := by
  rw [isClean_iff]
  intro c hc
  by_contra hlt
  have hsize : c.utf8Size = 1 := by
    rw [Char.utf8Size, if_pos]
    change c.toNat ≤ 127
    omega
  have hbyte : c.val.toUInt8 ∈ s.toByteArray.data.toList := by
    rw [← String.utf8Encode_toList, List.utf8Encode, List.toList_data_toByteArray, List.mem_flatMap]
    refine ⟨c, hc, ?_⟩
    rw [String.utf8EncodeChar_eq_singleton hsize]
    exact List.mem_singleton_self _
  have hnat : c.val.toUInt8.toNat = c.toNat := by
    rw [UInt32.toNat_toUInt8]
    refine Nat.mod_eq_of_lt ?_
    change c.toNat < 256
    omega
  have hle := List.all_eq_true.1 h _ hbyte
  rw [decide_eq_true_eq, hnat] at hle
  exact hlt hle

/-! ### Several texts -/

/-- A character is in one of some texts. -/
def OccursIn (c : Char) (texts : List String) : Prop := ∃ t ∈ texts, c ∈ t.toList

instance (c : Char) (texts : List String) : Decidable (OccursIn c texts) :=
  inferInstanceAs (Decidable (∃ t ∈ texts, c ∈ t.toList))

@[simp] theorem not_occursIn_nil : ¬ OccursIn c [] := fun ⟨_, h, _⟩ => nomatch h

@[simp] theorem occursIn_cons {t : String} {texts : List String} :
    OccursIn c (t :: texts) ↔ c ∈ t.toList ∨ OccursIn c texts := by
  simp [OccursIn]

@[simp] theorem occursIn_append {texts more : List String} :
    OccursIn c (texts ++ more) ↔ OccursIn c texts ∨ OccursIn c more := by
  simp [OccursIn, or_and_right, exists_or]

theorem not_occursIn_singleton (hc : c.toNat < 32) {t : String} (h : isClean t.toList = true) : ¬ OccursIn c [t] := by
  rw [occursIn_cons]
  exact fun hmem => hmem.elim (notMem_of_isClean hc h) not_occursIn_nil

theorem mem_intercalate_iff {separator : String} (hc : c ∉ separator.toList) (texts : List String) :
    c ∈ (separator.intercalate texts).toList ↔ OccursIn c texts := by
  rw [String.toList_intercalate]
  induction texts with
  | nil => simp [List.intercalate]
  | cons t rest ih =>
    cases rest with
    | nil => simp [List.intercalate]
    | cons u rest =>
      rw [List.map_cons] at ih
      simp [List.intercalate_cons_cons, hc, ih]

/-! ### Digits -/

@[simp] theorem isClean_toDigits {base : Nat} (hone : 1 < base) (hbase : base ≤ 16) (n : Nat) :
    isClean (Nat.toDigits base n) = true := by
  have hdigit : ∀ d < 16, 32 ≤ (Nat.digitChar d).toNat := by decide
  induction n using Nat.strongRecOn with
  | _ n ih =>
    rw [Nat.toDigits_eq_if hone]
    split
    · rename_i hlt
      simpa using hdigit n (Nat.lt_of_lt_of_le hlt hbase)
    · rename_i hle
      have hless : n / base < n := Nat.div_lt_self (by omega) hone
      have hlast : n % base < 16 := Nat.lt_of_lt_of_le (Nat.mod_lt n (by omega)) hbase
      simpa [ih _ hless] using hdigit _ hlast

theorem isClean_repr (n : Nat) : isClean n.repr.toList = true := by
  rw [Nat.toList_repr]
  exact isClean_toDigits (by decide) (by decide) n

/-! ### Shown strings -/

theorem isClean_shownChar (c : Char) : isClean (shownChar c) = true := by
  unfold shownChar
  iterate 6
    split
    · decide
  split
  · rename_i h
    simp only [Bool.and_eq_true, decide_eq_true_eq] at h
    simpa using h.1.2
  · split
    · rename_i h
      have hle : 32 ≤ c.toNat := by
        rw [← Nat.not_lt]
        intro hlt
        rw [shows_of_lt hlt] at h
        cases h
      simpa using hle
    · simp [isClean_toDigits]

@[simp] theorem isClean_shown (s : String) : isClean (shown s).toList = true := by
  rw [shown, String.toList_ofList]
  simpa using isClean_flatMap fun c _ => isClean_shownChar c

end Text

open Text

/-! ### Numbers -/

theorem Number.isClean_write_int (i : Int) : isClean (Number.int i).write = true := by
  have hdigits := isClean_toDigits (by decide) (by decide : 10 ≤ 16) i.natAbs
  rw [write]
  split
  · simpa using hdigits
  · exact hdigits

@[simp] theorem isClean_repr_int (i : Int) : isClean i.repr.toList = true := by
  have htext : i.repr.toList = (Number.int i).write := Number.toList_toString i
  rw [htext]
  exact Number.isClean_write_int i

namespace Decimal

theorem isClean_zeros (n : Nat) : isClean (zeros n).toList = true := by
  rw [toList_zeros]
  exact isClean_replicate n (by decide)

@[simp] theorem isClean_render (layout : Layout) (negative : Bool) (d : Decimal) :
    isClean (d.render layout negative).toList = true := by
  have hdigits := isClean_toDigits (by decide) (by decide : 10 ≤ 16) d.digits
  have htake (n : Nat) : isClean ((Nat.toDigits 10 d.digits).take n) = true :=
    isClean_mono hdigits fun c => List.mem_of_mem_take
  have hdrop (n : Nat) : isClean ((Nat.toDigits 10 d.digits).drop n) = true :=
    isClean_mono hdigits fun c => List.mem_of_mem_drop
  have htail : isClean (Nat.toDigits 10 d.digits).tail = true := isClean_mono hdigits fun c => List.mem_of_mem_tail
  rw [render, String.toList_append, isClean_append, Bool.and_eq_true]
  constructor
  · split <;> decide
  · dsimp only
    repeat' split
    all_goals simp [hdigits, htake, hdrop, htail, isClean_zeros, isClean_repr_int]

end Decimal

@[simp] theorem Number.isClean_text (n : Number) : isClean n.text.toList = true := by
  rw [text, String.toList_ofList]
  cases n with
  | int i => exact isClean_write_int i
  | real x => exact Decimal.isClean_render _ _ _

/-! ### Trees -/

theorem Quoted.isClean_escape (c : Char) : isClean (escape c) = true := by
  have hdigit : ∀ d < 16, 32 ≤ (Nat.digitChar d).toNat := by decide
  unfold escape
  iterate 7
    split
    · decide
  split
  · rename_i h
    have hlow := hdigit (c.toNat % 16) (Nat.mod_lt _ (by decide))
    have hhigh := hdigit (c.toNat / 16) (by omega)
    simp [hlow, hhigh]
  · rename_i h
    simpa using h

theorem Quoted.isClean_write (s : String) : isClean (write s) = true := by
  simpa [write] using isClean_flatMap fun c _ => isClean_escape c

namespace Tree

mutual

theorem isClean_write : ∀ t : Tree, isClean t.write = true
  | .null | .bool true | .bool false => by decide
  | .number n => by
    have h := n.isClean_text
    rwa [Number.text, String.toList_ofList] at h
  | .string s => Quoted.isClean_write s
  | .array items => by simpa [write] using isClean_writeItems items
  | .object members => by simpa [write] using isClean_writeMembers members

theorem isClean_writeItems : ∀ items : List Tree, isClean (writeItems items) = true
  | [] => rfl
  | [t] => isClean_write t
  | t :: u :: rest => by simpa [writeItems, isClean_write t] using isClean_writeItems (u :: rest)

theorem isClean_writeMembers : ∀ members : List (String × Tree), isClean (writeMembers members) = true
  | [] => rfl
  | [(k, t)] => by simpa [writeMembers, Quoted.isClean_write] using isClean_write t
  | (k, t) :: m :: rest => by
    simpa [writeMembers, Quoted.isClean_write, isClean_write t] using isClean_writeMembers (m :: rest)

end

/-- Whatever is in a tree, its text is clean. -/
@[simp] theorem isClean_text (t : Tree) : isClean t.text.toList = true := by
  rw [text, String.toList_ofList]
  exact isClean_write t

end Tree

end YamlSchema
