import YamlSchema.Document
import YamlSchema.Proofs.Text.Control

/-!
# What messages about a YAML text hold as it is

Positions, numbers and strings are written cleanly in the messages about a YAML text.  What they hold as it is are the
keys on the way to a complaint (`Path.keys`) and the tags of a key that no tree can have (`Value.tags`): a control
character is in a message exactly if it is in one of these (`ContentError.mem_message_iff`).
-/

namespace YamlSchema

open Text

variable {c : Char}

namespace Yaml

/-! ### Faults -/

@[simp] theorem Mark.isClean_text (m : Mark) : isClean m.text.toList = true := by
  rw [text]
  simp only [toString, String.toList_append, isClean_append, isClean_repr, Bool.and_true]
  decide

theorem Problem.isClean_text (p : Problem) : isClean p.text.toList = true := by
  cases p <;> exact isClean_literal rfl

theorem Reading.isClean_text (r : Reading) : isClean r.text.toList = true := by
  cases r <;> exact isClean_literal rfl

namespace Fault

theorem isClean_placeText (p : Place) : isClean (placeText p).toList = true := by
  unfold placeText
  split
  · split
    · simp only [toString, String.toList_append, isClean_append, Mark.isClean_text, Bool.and_true]
      decide
    · rfl
  · rfl
  · simp only [toString, String.toList_append, isClean_append, isClean_repr, Bool.and_true]
    decide

theorem isClean_message (f : Fault) : isClean f.message.toList = true := by
  obtain ⟨problem, place, context⟩ := f
  have hat (m : Mark) : isClean s!" at {m.text}".toList = true := by
    simp only [toString, String.toList_append, isClean_append, Mark.isClean_text, Bool.and_true]
    exact isClean_literal rfl
  have hcomma : isClean ", ".toList = true := isClean_literal rfl
  simp only [message, toString, String.toList_append, isClean_append, problem.isClean_text, isClean_placeText,
    Bool.true_and, Bool.and_true]
  cases context with
  | none => rfl
  | some context =>
    simp only [String.toList_append, isClean_append, hcomma, context.1.isClean_text, Bool.true_and, Bool.and_true]
    split
    · exact hat _
    · rfl

end Fault

/-! ### Ways -/

namespace Path

/-- The keys on a way. -/
def keys : Path → List String
  | .root => []
  | .item parent _ => parent.keys
  | .entry parent key => parent.keys ++ [key]
  | .unnamed parent => parent.keys

mutual

theorem mem_text_iff (hc : c.toNat < 32) : ∀ p : Path, c ∈ p.text.toList ↔ OccursIn c p.keys
  | .root => by
    simp (disch := rw [String.toList_ofList]; decide) only [text, keys, mem_toList_iff_false hc, not_occursIn_nil]
  | .item parent i => by
    simp (disch := rw [String.toList_ofList]; decide) only [text, keys, toString, String.toList_append, List.mem_append,
      mem_toList_iff_false hc (isClean_repr i), mem_toList_iff_false hc, or_false, mem_text_iff hc parent]
  | .entry parent key => by simp [text, keys, mem_inside_iff hc parent]
  | .unnamed parent => by
    simp (disch := rw [String.toList_ofList]; decide) only [text, keys, String.toList_append, List.mem_append,
      mem_toList_iff_false hc, or_false, mem_inside_iff hc parent]

theorem mem_inside_iff (hc : c.toNat < 32) : ∀ p : Path, c ∈ p.inside.toList ↔ OccursIn c p.keys
  | .root => by simp [inside, keys]
  | .item parent i => by
    simp (disch := rw [String.toList_ofList]; decide) only [inside, keys, toString, String.toList_append,
      List.mem_append, mem_toList_iff_false hc (isClean_repr i), mem_toList_iff_false hc, or_false,
      mem_text_iff hc parent]
  | .entry parent key => by
    simp (disch := rw [String.toList_ofList]; decide) only [inside, keys, String.toList_append, List.mem_append,
      mem_toList_iff_false hc, or_false, mem_inside_iff hc parent, occursIn_append, occursIn_cons, not_occursIn_nil]
  | .unnamed parent => by
    simp (disch := rw [String.toList_ofList]; decide) only [inside, keys, String.toList_append, List.mem_append,
      mem_toList_iff_false hc, or_false, mem_inside_iff hc parent]

end

end Path

/-! ### Values -/

namespace Value

mutual

/-- The tags in a value. -/
def tags : Value → List String
  | .sequence items => tagsOfItems items
  | .mapping entries => tagsOfEntries entries
  | .tagged tag value => tag :: tags value
  | _ => []

def tagsOfItems : List Value → List String
  | [] => []
  | v :: rest => tags v ++ tagsOfItems rest

def tagsOfEntries : List (Value × Value) → List String
  | [] => []
  | (k, v) :: rest => tags k ++ tags v ++ tagsOfEntries rest

end

theorem mem_bareTag_iff (hc : c ≠ '!') (tag : String) : c ∈ (bareTag tag).toList ↔ c ∈ tag.toList := by
  unfold bareTag
  split
  · rename_i d rest h
    rw [String.toList_ofList, h]
    simp [hc]
  · rfl

@[simp] theorem isClean_numeral (n : Numeral) : isClean n.text.toList = true := by
  unfold Numeral.text
  split
  · exact isClean_repr_int _
  · exact Decimal.isClean_render _ _ _
  all_goals exact isClean_literal rfl

@[simp] theorem isClean_bool (b : Bool) : isClean (toString b).toList = true := by
  cases b <;> exact isClean_literal rfl

theorem mem_shownKey_iff (hc : c.toNat < 32) {v : Value} (h : c ∈ v.shown.toList ↔ OccursIn c v.tags) :
    c ∈ v.shownKey.toList ↔ OccursIn c v.tags := by
  cases v with
  | bool b => rw [shownKey, mem_toList_iff_false hc (isClean_bool b)]; simp [tags]
  | number n => rw [shownKey, mem_toList_iff_false hc (isClean_numeral n)]; simp [tags]
  | string s => rw [shownKey, mem_toList_iff_false hc (isClean_shown s)]; simp [tags]
  | null | sequence items | mapping entries | tagged tag value =>
    rw [shownKey]
    exact h

mutual

theorem mem_shown_iff (hc : c.toNat < 32) : ∀ v : Value, c ∈ v.shown.toList ↔ OccursIn c v.tags
  | .null => by
    simp (disch := rw [String.toList_ofList]; decide) only [shown, tags, mem_toList_iff_false hc, not_occursIn_nil]
  | .bool b => by
    have hclean : isClean s!"Bool({b})".toList = true :=
      isClean_between (isClean_literal rfl) (isClean_literal rfl) (isClean_bool b)
    simp only [shown, tags, mem_toList_iff_false hc hclean, not_occursIn_nil]
  | .number n => by
    simp (disch := rw [String.toList_ofList]; decide) only [shown, tags, toString, String.toList_append, List.mem_append,
      mem_toList_iff_false hc (isClean_numeral n), mem_toList_iff_false hc, or_false, not_occursIn_nil]
  | .string s => by
    simp (disch := rw [String.toList_ofList]; decide) only [shown, tags, toString, String.toList_append, List.mem_append,
      mem_toList_iff_false hc (isClean_shown s), mem_toList_iff_false hc, or_false, not_occursIn_nil]
  | .sequence items => by
    simp (disch := rw [String.toList_ofList]; decide) only [shown, tags, String.toList_append, List.mem_append,
      mem_toList_iff_false hc, or_false, false_or, mem_shownItems_iff hc items]
  | .mapping entries => by
    simp (disch := rw [String.toList_ofList]; decide) only [shown, tags, String.toList_append, List.mem_append,
      mem_toList_iff_false hc, or_false, false_or, mem_shownEntries_iff hc entries]
  | .tagged tag value => by
    have hmark : c ≠ '!' := fun heq => by
      rw [heq] at hc
      exact absurd hc (by decide)
    simp (disch := rw [String.toList_ofList]; decide) only [shown, tags, String.toList_append, List.mem_append,
      mem_toList_iff_false hc, or_false, false_or, mem_bareTag_iff hmark, mem_shown_iff hc value, occursIn_cons]

theorem mem_shownItems_iff (hc : c.toNat < 32) :
    ∀ items : List Value, c ∈ (shownItems items).toList ↔ OccursIn c (tagsOfItems items)
  | [] => by simp [shownItems, tagsOfItems]
  | [v] => by simp [shownItems, tagsOfItems, mem_shown_iff hc v]
  | v :: w :: rest => by
    rw [shownItems, tagsOfItems, occursIn_append, ← mem_shown_iff hc v, ← mem_shownItems_iff hc (w :: rest)]
    simp (disch := rw [String.toList_ofList]; decide) only [String.toList_append, List.mem_append,
      mem_toList_iff_false hc, or_false]
    exact List.cons_ne_nil _ _

theorem mem_shownEntries_iff (hc : c.toNat < 32) :
    ∀ entries : List (Value × Value), c ∈ (shownEntries entries).toList ↔ OccursIn c (tagsOfEntries entries)
  | [] => by simp [shownEntries, tagsOfEntries]
  | [(k, v)] => by
    have hkey := mem_shownKey_iff hc (mem_shown_iff hc k)
    simp (disch := rw [String.toList_ofList]; decide) only [shownEntries, tagsOfEntries, String.toList_append,
      List.mem_append, mem_toList_iff_false hc, or_false, hkey, mem_shown_iff hc v, occursIn_append, not_occursIn_nil]
  | (k, v) :: e :: rest => by
    have hkey := mem_shownKey_iff hc (mem_shown_iff hc k)
    have hrest := mem_shownEntries_iff hc (e :: rest)
    rw [shownEntries, tagsOfEntries, occursIn_append, occursIn_append, ← hkey, ← mem_shown_iff hc v, ← hrest]
    simp (disch := rw [String.toList_ofList]; decide) only [String.toList_append, List.mem_append,
      mem_toList_iff_false hc, or_false]
    exact List.cons_ne_nil _ _

end

end Value

/-! ### Messages -/

namespace Found

theorem isClean_int (i : Int) : isClean ("integer `" ++ i.repr ++ "`").toList = true :=
  isClean_between (isClean_literal rfl) (isClean_literal rfl) (isClean_repr_int i)

theorem isClean_text (f : Found) : isClean f.text.toList = true := by
  cases f with
  | nothing | sequence | mapping => exact isClean_literal rfl
  | bool b =>
    have hopen : isClean "boolean `".toList = true := isClean_literal rfl
    have hclose : isClean "`".toList = true := isClean_literal rfl
    exact isClean_between hopen hclose (Value.isClean_bool b)
  | number n =>
    rcases n with i | x | negative | -
    · exact isClean_int i
    · have hopen : isClean "floating point `".toList = true := isClean_literal rfl
      have hclose : isClean "`".toList = true := isClean_literal rfl
      exact isClean_between hopen hclose (Decimal.isClean_render _ _ _)
    · cases negative <;> exact isClean_literal rfl
    · exact isClean_literal rfl
  | wide i =>
    have hopen : isClean "integer `".toList = true := isClean_literal rfl
    have hclose : isClean "` as ".toList = true := isClean_literal rfl
    have hkind : isClean (if i < 0 then "i128" else "u128").toList = true := by
      split <;> exact isClean_literal rfl
    exact isClean_toList_append (isClean_between hopen hclose (isClean_repr_int i)) hkind
  | string s =>
    have hopen : isClean "string ".toList = true := isClean_literal rfl
    exact isClean_toList_append hopen (isClean_shown s)

end Found

/-- The texts that what is said about a complaint holds as they are. -/
def Complaint.verbatim : Complaint → List String
  | .wrongType _ expected | .wrongValue _ expected => [expected]
  | .duplicateKey _ => []
  | .unknownField name known => name :: known
  | .duplicateField name => [name]

theorem Complaint.mem_text_iff (hc : c.toNat < 32) (what : Complaint) :
    c ∈ what.text.toList ↔ OccursIn c what.verbatim := by
  cases what with
  | wrongType found expected =>
    have htext : (wrongType found expected).text = "invalid type: " ++ found.text ++ ", expected " ++ expected := rfl
    simp (disch := rw [String.toList_ofList]; decide) only [htext, verbatim, String.toList_append, List.mem_append,
      mem_toList_iff_false hc found.isClean_text, mem_toList_iff_false hc, or_false, false_or, occursIn_cons,
      not_occursIn_nil]
  | wrongValue t expected =>
    have htext : (wrongValue t expected).text = "invalid value: string " ++ Text.shown t ++ ", expected " ++ expected :=
      rfl
    simp (disch := rw [String.toList_ofList]; decide) only [htext, verbatim, String.toList_append, List.mem_append,
      mem_toList_iff_false hc (isClean_shown t), mem_toList_iff_false hc, or_false, false_or, occursIn_cons,
      not_occursIn_nil]
  | duplicateKey key =>
    refine iff_of_false (notMem_of_isClean hc ?_) not_occursIn_nil
    have hentry : isClean "duplicate entry ".toList = true := isClean_literal rfl
    have hkey : isClean "with key ".toList = true := isClean_literal rfl
    refine isClean_toList_append hentry ?_
    cases key with
    | bool b =>
      have hopen : isClean "with key `".toList = true := isClean_literal rfl
      have hclose : isClean "`".toList = true := isClean_literal rfl
      exact isClean_between hopen hclose (Value.isClean_bool b)
    | number n => exact isClean_toList_append hkey (Value.isClean_numeral n)
    | string s => exact isClean_toList_append hkey (isClean_shown s)
    | null => exact isClean_literal rfl
    | sequence | mapping | tagged => exact isClean_literal rfl
  | unknownField name known =>
    have htick : c ≠ '`' := fun heq => by
      rw [heq] at hc
      exact absurd hc (by decide)
    have hcomma : c ∉ ", ".toList := notMem_of_isClean hc (isClean_literal rfl)
    have hknown : OccursIn c (known.map fun k => "`" ++ k ++ "`") ↔ OccursIn c known := by
      simp [OccursIn, htick]
    have htext : (unknownField name known).text = "unknown field `" ++ name ++ "`, expected one of " ++
      ", ".intercalate (known.map fun k => "`" ++ k ++ "`") := rfl
    simp (disch := rw [String.toList_ofList]; decide) only [htext, verbatim, String.toList_append, List.mem_append,
      mem_toList_iff_false hc, or_false, false_or, occursIn_cons]
    exact or_congr_right ((mem_intercalate_iff hcomma _).trans hknown)
  | duplicateField name =>
    have htext : (duplicateField name).text = "duplicate field `" ++ name ++ "`" := rfl
    simp (disch := rw [String.toList_ofList]; decide) only [htext, verbatim, String.toList_append, List.mem_append,
      mem_toList_iff_false hc, or_false, false_or, occursIn_cons, not_occursIn_nil]

/-- The texts that a message holds as they are: the keys on the way to what it is about. -/
def DecodeError.verbatim : DecodeError → List String
  | .complaint what path _ => path.keys ++ what.verbatim
  | _ => []

theorem DecodeError.mem_message_iff (hc : c.toNat < 32) (e : DecodeError) :
    c ∈ e.message.toList ↔ OccursIn c e.verbatim := by
  have hmark (m : Mark) : isClean (atMark m).toList = true := by
    rw [atMark]
    split
    · simp only [toString, String.toList_append, isClean_append, Mark.isClean_text, Bool.and_true]
      exact isClean_literal rfl
    · rfl
  cases e with
  | broken b =>
    refine iff_of_false (notMem_of_isClean hc ?_) not_occursIn_nil
    cases b with
    | fault f => exact f.isClean_message
    | unknownAnchor m =>
      have htext : isClean "unknown anchor".toList = true := isClean_literal rfl
      exact isClean_toList_append htext (hmark m)
  | endOfStream | moreThanOneDocument | repetitionLimit =>
    exact iff_of_false (notMem_of_isClean hc (isClean_literal rfl)) not_occursIn_nil
  | recursionLimit m =>
    have htext : isClean "recursion limit exceeded".toList = true := isClean_literal rfl
    exact iff_of_false (notMem_of_isClean hc (isClean_toList_append htext (hmark m))) not_occursIn_nil
  | complaint what path m =>
    have hway : c ∈ (if path.text = "." then "" else path.text ++ ": ").toList ↔ OccursIn c path.keys := by
      rw [← path.mem_text_iff hc]
      split
      · rename_i hroot
        rw [hroot]
        simp (disch := rw [String.toList_ofList]; decide) only [mem_toList_iff_false hc]
      · simp (disch := rw [String.toList_ofList]; decide) only [String.toList_append, List.mem_append,
          mem_toList_iff_false hc, or_false]
    have htext : (complaint what path m).message =
      (if path.text = "." then "" else path.text ++ ": ") ++ what.text ++ atMark m := rfl
    simp only [htext, verbatim, String.toList_append, List.mem_append, hway, what.mem_text_iff hc,
      mem_toList_iff_false hc (hmark m), or_false, occursIn_append]

/-- The texts that a message holds as they are: the tags in a key. -/
def Unrepresentable.verbatim : Unrepresentable → List String
  | .key value => value.tags
  | .number _ => []

theorem Unrepresentable.mem_message_iff (hc : c.toNat < 32) (e : Unrepresentable) :
    c ∈ e.message.toList ↔ OccursIn c e.verbatim := by
  cases e with
  | key value =>
    simp (disch := rw [String.toList_ofList]; decide) only [message, verbatim, toString, String.toList_append,
      List.mem_append, mem_toList_iff_false hc, or_false, false_or, value.mem_shown_iff hc]
  | number value =>
    simp (disch := rw [String.toList_ofList]; decide) only [message, verbatim, toString, String.toList_append,
      List.mem_append, mem_toList_iff_false hc (Value.isClean_numeral value), mem_toList_iff_false hc, or_false,
      not_occursIn_nil]


end Yaml

/-- The texts that a message holds as they are. -/
def ContentError.verbatim : ContentError → List String
  | .unreadable e => e.verbatim
  | .unrepresentable e => e.verbatim

/-- A control character is in a message about a text that holds no tree just if it is in a text that the message holds as
it is. -/
theorem ContentError.mem_message_iff (hc : c.toNat < 32) (e : ContentError) :
    c ∈ e.message.toList ↔ OccursIn c e.verbatim := by
  cases e with
  | unreadable e => exact e.mem_message_iff hc
  | unrepresentable e => exact e.mem_message_iff hc

end YamlSchema
