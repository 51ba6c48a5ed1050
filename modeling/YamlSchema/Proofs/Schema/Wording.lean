import YamlSchema.Proofs.Schema.Reports
import YamlSchema.Proofs.Text.Control

/-!
# What a report of a violation holds as it is

Values are written as JSON in the reports of violations, so that no control character of theirs is seen.  Some texts are
held as they are: patterns and names that were not expected (`Cause.verbatim`), the keys on the way to the value, and the
last key on the way to the keyword (`Violation.verbatim`).  A control character is in the line for a violation exactly if
it is in one of them (`mem_display_iff`).
-/

namespace YamlSchema

open Text

variable {c : Char}

/-! ### Ways -/

namespace Step

/-- The key that a step goes to. -/
def name? : Step → Option String
  | .key name => some name
  | .index _ => none

theorem mem_escapeChars_iff (hc : c.toNat < 32) (cs : List Char) : c ∈ escapeChars cs ↔ c ∈ cs := by
  have hne {d : Char} (hd : 32 ≤ d.toNat) : c ≠ d := fun heq => by
    rw [heq] at hc
    exact absurd hd (Nat.not_le.2 hc)
  fun_induction escapeChars cs with
  | case1 => rfl
  | case2 rest ih | case3 rest ih => simp [ih, hne]
  | case4 d rest _ _ ih => simp [ih]

theorem mem_text_iff (hc : c.toNat < 32) (s : Step) : c ∈ s.text.toList ↔ OccursIn c s.name?.toList := by
  cases s with
  | key name => simp [text, name?, mem_escapeChars_iff hc]
  | index i =>
    have hdigits := notMem_of_isClean hc (isClean_toDigits (by decide) (by decide : 10 ≤ 16) i)
    rw [toList_text_index]
    simp [name?, hdigits]

end Step

/-- The keys on a way. -/
def Pointer.names (p : Pointer) : List String := p.filterMap Step.name?

theorem Pointer.mem_text_iff (hc : c.toNat < 32) (p : Pointer) : c ∈ p.text.toList ↔ OccursIn c p.names := by
  have hslash : c ≠ '/' := fun heq => by
    rw [heq] at hc
    exact absurd hc (by decide)
  induction p with
  | nil => simp [text, names]
  | cons s p ih =>
    have hstep := Step.mem_text_iff hc s
    rw [toList_text, List.flatMap_cons, ← toList_text, List.mem_append, List.mem_cons, hstep]
    simp only [hslash, false_or, ih, names, List.filterMap_cons]
    cases s <;> simp [Step.name?]

namespace Schema

/-! ### Causes -/

namespace Cause

/-- The texts that the message about a cause holds as they are. -/
def verbatim : Cause → List String
  | .noMatch pattern => [pattern]
  | .wrongFormat name | .wrongEncoding name | .wrongMediaType name => [name]
  | .unexpectedNames names | .unevaluatedNames names => names
  | .ofName _ cause => cause.verbatim
  | _ => []

theorem isClean_plural (n : Nat) {one many : String} (hone : isClean one.toList = true)
    (hmany : isClean many.toList = true) : isClean (plural n one many).toList = true := by
  rw [plural]
  split
  · exact hone
  · exact hmany

@[simp] theorem isClean_typeName (t : TypeName) : isClean t.text.toList = true := by
  cases t <;> exact isClean_literal rfl

@[simp] theorem isClean_divisorText (n : Number) : isClean (divisorText n).toList = true :=
  Decimal.isClean_render _ _ _

@[simp] theorem isClean_utf8 (f : Utf8.Fault) : isClean f.message.toList = true := by
  rw [Utf8.Fault.message]
  split <;> simp only [toString, String.toList_append, isClean_append, isClean_repr, Bool.and_true] <;> decide

theorem mem_unexpected_iff (hc : c.toNat < 32) (names : List String) :
    c ∈ (unexpected names).toList ↔ OccursIn c names := by
  have hplural : isClean (plural names.length " was unexpected" " were unexpected").toList = true :=
    isClean_plural _ (isClean_literal rfl) (isClean_literal rfl)
  have hquote : c ≠ '\'' := fun heq => by
    rw [heq] at hc
    exact absurd hc (by decide)
  rw [unexpected, String.toList_append, List.mem_append, mem_toList_iff_false hc hplural, or_false,
    mem_intercalate_iff (notMem_of_isClean hc (isClean_literal rfl))]
  simp [OccursIn, toString, hquote]

/-- A control character is in a message just if it is in a text that the message holds as it is. -/
theorem mem_message_iff (hc : c.toNat < 32) (value : Tree) (cause : Cause) :
    c ∈ (cause.message value).toList ↔ OccursIn c cause.verbatim := by
  have hclean {t : String} (h : isClean t.toList = true) := mem_toList_iff_false hc h
  have hcommas {texts : List String} (h : ∀ t ∈ texts, isClean t.toList = true) :
      c ∈ (", ".intercalate texts).toList ↔ False := hclean (isClean_intercalate (isClean_literal rfl) h)
  fun_induction message value cause
  all_goals
    simp (disch := first
      | rw [String.toList_ofList]; decide
      | simp
      | apply isClean_plural <;> rw [String.toList_ofList] <;> decide) only [toString, String.toList_append, List.mem_append, hclean, verbatim, occursIn_cons, not_occursIn_nil, or_false, false_or, mem_unexpected_iff hc]
  case case2 =>
    refine hcommas ?_
    rw [List.forall_mem_map]
    intro t _
    simp only [toString, String.toList_append, isClean_append, isClean_typeName, Bool.and_true, Bool.and_self]
    exact isClean_literal rfl
  case case26 =>
    refine hcommas ?_
    rw [List.forall_mem_map]
    exact fun t _ => t.isClean_text
  case case29 items =>
    refine iff_false_intro ?_
    rintro ⟨text, htext, hmem⟩
    obtain ⟨t, -, rfl⟩ := List.mem_map.1 htext
    exact notMem_of_isClean hc t.isClean_text hmem
  case case34 ih => exact ih

end Cause

/-! ### Violations -/

namespace Violation

/-- The texts that the line for a violation holds as they are: the keys on the way to the value, the last key on the way
to the keyword, and what the message holds. -/
def verbatim (e : Violation) : List String :=
  e.at_.names ++ (e.keyword.getLast?.bind Step.name?).toList ++ e.cause.verbatim

theorem mem_lastSegment_iff (hc : c.toNat < 32) (p : Pointer) :
    c ∈ (lastSegment p.text).toList ↔ OccursIn c (p.getLast?.bind Step.name?).toList := by
  rcases p.eq_nil_or_concat' with rfl | ⟨way, s, rfl⟩
  · simp [Pointer.text, lastSegment]
  · rw [lastSegment_text, Step.mem_text_iff hc, List.getLast?_concat, Option.bind_some]

/-- A control character is in the line for a violation just if it is in a text that the line holds as it is. -/
theorem mem_display_iff (hc : c.toNat < 32) (schema : Tree) (e : Violation) :
    c ∈ (e.report schema).display.toList ↔ OccursIn c e.verbatim := by
  have hcolon : c ∉ ": ".toList := notMem_of_isClean hc (isClean_literal rfl)
  have hspace : c ∉ " ".toList := notMem_of_isClean hc (isClean_literal rfl)
  simp only [ErrorReport.display, report, toString, String.toList_append, List.mem_append, hcolon, hspace,
    or_false, mem_lastSegment_iff hc, Pointer.mem_text_iff hc, message, Cause.mem_message_iff hc, verbatim,
    occursIn_append]
  tauto

end Violation

end Schema

end YamlSchema
