import YamlSchema.Proofs.Tree.Lacking
import YamlSchema.Proofs.Yaml.Wording

/-!
# What is read from strings without a character

Where no string that is parsed has a control character (`FirstDocument.strings`), neither has the tree that a text holds,
nor any text that is quoted in what is said instead (`reads_ofYaml`).  Everything that is read on the way `Reads` to
something without the character, step by step.
-/

namespace YamlSchema

open Text

/-- What is read has a property, or what is said instead quotes no text with a character. -/
def Reads {ε α : Type} (c : Char) (verbatim : ε → List String) (P : α → Prop) : Except ε α → Prop
  | .ok a => P a
  | .error e => ¬ OccursIn c (verbatim e)

namespace Reads

variable {ε α β : Type} {c : Char} {verbatim : ε → List String} {P : α → Prop} {Q : β → Prop}

theorem bind {x : Except ε α} {f : α → Except ε β} (hx : Reads c verbatim P x)
    (hf : ∀ a, P a → Reads c verbatim Q (f a)) : Reads c verbatim Q (x >>= f) := by
  cases x with
  | ok a => exact hf a hx
  | error e => exact hx

end Reads

namespace Yaml

variable {c : Char}

/-! ### Strings -/

/-- The strings of an event: the text of a scalar, and the name of a local tag. -/
def Node.strings : Node → List String
  | .scalar s => s.text :: (localTag? s.tag).toList
  | .sequenceStart tag | .mappingStart tag => (localTag? tag).toList
  | .alias _ | .sequenceEnd | .mappingEnd | .absent => []

/-- All strings that are parsed in a document. -/
def FirstDocument.strings (d : FirstDocument) : List String := d.nodes.toList.flatMap fun n => n.1.strings

/-- No string and no tag in a value has a character. -/
inductive Value.Lacks (c : Char) : Value → Prop
  | null : Lacks c .null
  | bool (b : Bool) : Lacks c (.bool b)
  | number (n : Numeral) : Lacks c (.number n)
  | string {s : String} (h : c ∉ s.toList) : Lacks c (.string s)
  | sequence {items : List Value} (h : ∀ v ∈ items, Lacks c v) : Lacks c (.sequence items)
  | mapping {entries : List (Value × Value)} (hkeys : ∀ e ∈ entries, Lacks c e.1) (h : ∀ e ∈ entries, Lacks c e.2) :
      Lacks c (.mapping entries)
  | tagged {tag : String} {v : Value} (htag : c ∉ tag.toList) (h : Lacks c v) : Lacks c (.tagged tag v)

/-! ### Scalars -/

theorem integerMeaning?_ne_string {text t : String} : integerMeaning? text ≠ some (.string t) := by
  intro h
  obtain ⟨i, -, hi⟩ := Option.bind_eq_some_iff.1 h
  rw [wholeMeaning?] at hi
  split at hi
  · cases hi
  · split at hi <;> cases hi

theorem eq_of_plainMeaning {text t : String} (h : plainMeaning text = .string t) : t = text := by
  rw [plainMeaning] at h
  split at h
  · cases h
  split at h
  · cases h
  split at h
  · rename_i m hm
    exact absurd (h ▸ hm) integerMeaning?_ne_string
  split at h
  · cases h
    rfl
  split at h <;> cases h
  rfl

/-- A scalar is a string only by its text, and no complaint quotes that. -/
theorem reads_meaning (hc : c.toNat < 32) (s : Scalar) (tagged : Bool) :
    Reads c Complaint.verbatim (fun m => ∀ t, m = .string t → t = s.text) (s.meaning tagged) := by
  have hplain : ∀ t, (if s.style = .plain then plainMeaning s.text else .string s.text) = .string t → t = s.text := by
    intro t h
    split at h
    · exact eq_of_plainMeaning h
    · cases h
      rfl
  have hwrong {expected : String} (h : isClean expected.toList = true) :
      Reads c Complaint.verbatim (fun m => ∀ t, m = Meaning.string t → t = s.text)
        (.error (.wrongValue s.text expected)) := by
    exact not_occursIn_singleton hc h
  rw [Scalar.meaning]
  split
  · exact hplain
  split
  · exact hplain
  -- the tags of the YAML types, one after the other
  split
  · split
    · exact fun t ht => nomatch ht
    · exact hwrong (isClean_literal rfl)
  split
  · split
    · rename_i m hm
      exact fun t ht => absurd (ht ▸ hm) integerMeaning?_ne_string
    · exact hwrong (isClean_literal rfl)
  split
  · split
    · exact fun t ht => nomatch ht
    · exact hwrong (isClean_literal rfl)
  split
  · split
    · exact fun t ht => nomatch ht
    · exact hwrong (isClean_literal rfl)
  split
  · exact hplain
  · intro t ht
    cases ht
    rfl

/-- What a scalar holds lacks what its text lacks. -/
theorem reads_valueOf (hc : c.toNat < 32) {s : Scalar} (hs : c ∉ s.text.toList) (tagged : Bool) :
    Reads c Complaint.verbatim (Value.Lacks c) (valueOf s tagged) := by
  refine (reads_meaning hc s tagged).bind fun m hm => ?_
  cases m with
  | null => exact .null
  | bool b => exact .bool b
  | number n => exact .number n
  | string t =>
    rw [hm t rfl]
    exact .string hs
  | wide i =>
    have hany : isClean "any YAML value".toList = true := isClean_literal rfl
    exact not_occursIn_singleton hc hany

theorem reads_complain {α : Type} {P : α → Prop} {path : Path} (hpath : ¬ OccursIn c path.keys) (m : Mark)
    {x : Except Complaint α} (hx : Reads c Complaint.verbatim P x) :
    Reads c DecodeError.verbatim P (complain path m x) := by
  cases x with
  | ok a => exact hx
  | error what => exact fun hmem => (occursIn_append.1 hmem).elim hpath hx

/-! ### Events -/

section Events

variable {d : FirstDocument}

theorem reads_node (hd : ¬ OccursIn c d.strings) (pos : Nat) :
    Reads c DecodeError.verbatim (fun n => ¬ OccursIn c n.1.strings) (d.node pos) := by
  rw [FirstDocument.node]
  cases hn : d.nodes[pos]? with
  | some n =>
    have hmem : n ∈ d.nodes.toList := Array.mem_toList_iff.2 (Array.mem_of_getElem? hn)
    exact fun ⟨t, ht, hct⟩ => hd ⟨t, List.mem_flatMap.2 ⟨n, hmem, ht⟩, hct⟩
  | none => cases d.broken <;> exact not_occursIn_nil

theorem reads_follow (anchor jumps : Nat) :
    Reads c DecodeError.verbatim (fun _ => True) (d.follow anchor jumps) := by
  rw [FirstDocument.follow]
  split
  · exact not_occursIn_nil
  · split
    · trivial
    · exact not_occursIn_nil

/-- A tag around a value. -/
theorem lacks_wrap {tag : Option Tag} {v : Value} (htag : ¬ OccursIn c (localTag? tag).toList) (hv : v.Lacks c) :
    Value.Lacks c (match localTag? tag with
      | some name => .tagged name v
      | none => v) := by
  cases hname : localTag? tag with
  | none => exact hv
  | some name =>
    rw [hname] at htag
    exact .tagged (by simpa using htag) hv

/-- With so much fuel, the values, items and entries that are decoded lack a character. -/
structure DecodesLacking (c : Char) (d : FirstDocument) (fuel : Nat) : Prop where
  value : ∀ path room pos jumps, ¬ OccursIn c path.keys →
    Reads c DecodeError.verbatim (fun r => r.1.Lacks c) (decodeValue d fuel path room pos jumps)
  items : ∀ path index room pos jumps, ¬ OccursIn c path.keys →
    Reads c DecodeError.verbatim (fun r => ∀ v ∈ r.1, v.Lacks c) (decodeItems d fuel path index room pos jumps)
  entries : ∀ path m seen room pos jumps, ¬ OccursIn c path.keys →
    Reads c DecodeError.verbatim (fun r => ∀ e ∈ r.1, e.1.Lacks c ∧ e.2.Lacks c)
      (decodeEntries d fuel path m seen room pos jumps)

theorem DecodesLacking.zero : DecodesLacking c d 0 where
  value path room pos jumps _ := by
    rw [decodeValue]
    exact not_occursIn_nil
  items path index room pos jumps _ := by
    rw [decodeItems]
    exact not_occursIn_nil
  entries path m seen room pos jumps _ := by
    rw [decodeEntries]
    exact not_occursIn_nil

namespace DecodesLacking

variable {fuel : Nat} (ih : DecodesLacking c d fuel) (hd : ¬ OccursIn c d.strings) {path : Path}
variable (hpath : ¬ OccursIn c path.keys) (room pos jumps : Nat)

include ih hd hpath

theorem value_succ (hc : c.toNat < 32) :
    Reads c DecodeError.verbatim (fun r => r.1.Lacks c) (decodeValue d (fuel + 1) path room pos jumps) := by
  rw [decodeValue]
  refine (reads_node hd pos).bind ?_
  rintro ⟨node, m⟩ hnode
  cases node with
  | scalar s =>
    obtain ⟨htext, htag⟩ := not_or.1 (occursIn_cons.not.1 hnode)
    exact (reads_complain hpath m (reads_valueOf hc htext _)).bind fun v hv => lacks_wrap htag hv
  | sequenceStart tag =>
    cases room with
    | zero => exact not_occursIn_nil
    | succ room =>
      exact (ih.items path 0 room (pos + 1) jumps hpath).bind fun r hr => lacks_wrap hnode (.sequence hr)
  | mappingStart tag =>
    cases room with
    | zero => exact not_occursIn_nil
    | succ room =>
      refine (ih.entries path m [] room (pos + 1) jumps hpath).bind fun r hr => ?_
      exact lacks_wrap hnode (.mapping (fun e he => (hr e he).1) fun e he => (hr e he).2)
  | absent => exact .null
  | sequenceEnd | mappingEnd => exact not_occursIn_nil
  | _ =>
    -- an alias
    rename_i anchor
    refine (reads_follow anchor jumps).bind ?_
    rintro ⟨target, jumps⟩ -
    exact (ih.value path room target jumps hpath).bind fun r hr => hr

theorem items_succ (index : Nat) : Reads c DecodeError.verbatim (fun r => ∀ v ∈ r.1, v.Lacks c)
    (decodeItems d (fuel + 1) path index room pos jumps) := by
  rw [decodeItems]
  refine (reads_node hd pos).bind ?_
  rintro ⟨node, m⟩ -
  dsimp only
  split
  · exact List.forall_mem_nil _
  · refine (ih.value (.item path index) room pos jumps hpath).bind ?_
    rintro ⟨v, pos, jumps⟩ hv
    refine (ih.items path (index + 1) room pos jumps hpath).bind ?_
    rintro ⟨vs, pos, jumps⟩ hvs
    exact List.forall_mem_cons.2 ⟨hv, hvs⟩

theorem entries_succ (m : Mark) (seen : List Value) :
    Reads c DecodeError.verbatim (fun r => ∀ e ∈ r.1, e.1.Lacks c ∧ e.2.Lacks c)
      (decodeEntries d (fuel + 1) path m seen room pos jumps) := by
  rw [decodeEntries]
  refine (reads_node hd pos).bind ?_
  rintro ⟨node, m⟩ hnode
  dsimp only
  split
  · exact List.forall_mem_nil _
  · refine (ih.value path room pos jumps hpath).bind ?_
    rintro ⟨key, pos, jumps⟩ hkey
    dsimp only
    split
    · exact fun hmem => (occursIn_append.1 hmem).elim hpath not_occursIn_nil
    · refine (ih.value _ room pos jumps ?_).bind ?_
      · split
        · have htext := (not_or.1 (occursIn_cons.not.1 hnode)).1
          simp [Path.keys, hpath, htext]
        · exact hpath
      rintro ⟨v, pos, jumps⟩ hv
      refine (ih.entries path _ (key :: seen) room pos jumps hpath).bind ?_
      rintro ⟨rest, pos, jumps⟩ hrest
      exact List.forall_mem_cons.2 ⟨⟨hkey, hv⟩, hrest⟩

end DecodesLacking

/-- What is decoded lacks a character that no event has; the induction is on the fuel, which values, items and entries
hand on to each other. -/
theorem decodesLacking (hc : c.toNat < 32) (hd : ¬ OccursIn c d.strings) (fuel : Nat) : DecodesLacking c d fuel := by
  induction fuel with
  | zero => exact .zero
  | succ fuel ih =>
    constructor
    · exact fun path room pos jumps hpath => ih.value_succ hd hpath room pos jumps hc
    · exact fun path index room pos jumps hpath => ih.items_succ hd hpath room pos jumps index
    · exact fun path m seen room pos jumps hpath => ih.entries_succ hd hpath room pos jumps m seen

end Events

theorem Value.reads_ofText (hc : c.toNat < 32) {text : String} (h : ¬ OccursIn c (FirstDocument.ofText text).strings) :
    Reads c DecodeError.verbatim (Value.Lacks c) (Value.ofText text) := by
  rw [Value.ofText]
  refine ((decodesLacking hc h _).value .root maxDepth 0 0 not_occursIn_nil).bind ?_
  rintro ⟨v, pos, jumps⟩ hv
  dsimp only
  rw [FirstDocument.complete]
  split
  · exact not_occursIn_nil
  · split
    · exact not_occursIn_nil
    · exact hv

/-! ### Trees -/

theorem Value.tagsOfItems_eq_flatMap (items : List Value) : tagsOfItems items = items.flatMap tags := by
  induction items with
  | nil => rw [tagsOfItems, List.flatMap_nil]
  | cons v rest ih => rw [tagsOfItems, ih, List.flatMap_cons]

theorem Value.tagsOfEntries_eq_flatMap (entries : List (Value × Value)) :
    tagsOfEntries entries = entries.flatMap fun e => tags e.1 ++ tags e.2 := by
  induction entries with
  | nil => rw [tagsOfEntries, List.flatMap_nil]
  | cons e rest ih => rw [tagsOfEntries, ih, List.flatMap_cons]

theorem Value.Lacks.not_occursIn_tags {v : Value} (h : v.Lacks c) : ¬ OccursIn c v.tags := by
  induction h with
  | null | bool | number | string => simp [tags]
  | sequence _ ih =>
    rw [tags, tagsOfItems_eq_flatMap]
    rintro ⟨tag, htag, hmem⟩
    obtain ⟨v, hv, htag⟩ := List.mem_flatMap.1 htag
    exact ih v hv ⟨tag, htag, hmem⟩
  | mapping _ _ ihKeys ih =>
    rw [tags, tagsOfEntries_eq_flatMap]
    rintro ⟨tag, htag, hmem⟩
    obtain ⟨e, he, htag⟩ := List.mem_flatMap.1 htag
    rcases List.mem_append.1 htag with htag | htag
    · exact ihKeys e he ⟨tag, htag, hmem⟩
    · exact ih e he ⟨tag, htag, hmem⟩
  | tagged htag _ ih =>
    rw [tags, occursIn_cons]
    exact fun hmem => hmem.elim htag ih

theorem Value.Lacks.notMem_keyText? (hc : c.toNat < 32) {v : Value} (h : v.Lacks c) {text : String}
    (htext : v.keyText? = some text) : c ∉ text.toList := by
  cases h with
  | bool b =>
    cases htext
    exact notMem_of_isClean hc (isClean_bool b)
  | number n =>
    cases htext
    exact notMem_of_isClean hc (isClean_numeral n)
  | string hs =>
    cases htext
    exact hs
  | null | sequence | mapping | tagged => cases htext

theorem Value.reads_treesOf {items : List Value}
    (h : ∀ v ∈ items, Reads c Unrepresentable.verbatim (Tree.Lacks c) v.toTree) :
    Reads c Unrepresentable.verbatim (fun ts => ∀ t ∈ ts, t.Lacks c) (treesOf items) := by
  induction items with
  | nil =>
    rw [treesOf]
    exact List.forall_mem_nil _
  | cons v rest ih =>
    rw [List.forall_mem_cons] at h
    rw [treesOf]
    exact h.1.bind fun t ht => (ih h.2).bind fun ts hts => List.forall_mem_cons.2 ⟨ht, hts⟩

theorem Value.reads_membersOf (hc : c.toNat < 32) {entries : List (Value × Value)}
    (hkeys : ∀ e ∈ entries, e.1.Lacks c)
    (h : ∀ e ∈ entries, Reads c Unrepresentable.verbatim (Tree.Lacks c) e.2.toTree) :
    Reads c Unrepresentable.verbatim (fun members => (Tree.object members).Lacks c) (membersOf entries) := by
  induction entries with
  | nil =>
    rw [membersOf]
    exact Tree.Lacks.nil
  | cons e rest ih =>
    rw [List.forall_mem_cons] at hkeys h
    rw [membersOf]
    cases htext : e.1.keyText? with
    | none => exact hkeys.1.not_occursIn_tags
    | some key =>
      exact h.1.bind fun t ht => (ih hkeys.2 h.2).bind fun members hmembers =>
        hmembers.cons (hkeys.1.notMem_keyText? hc htext) ht

theorem Value.Lacks.reads_toTree (hc : c.toNat < 32) {v : Value} (h : v.Lacks c) :
    Reads c Unrepresentable.verbatim (Tree.Lacks c) v.toTree := by
  induction h with
  | null =>
    rw [toTree]
    exact .null
  | bool b =>
    rw [toTree]
    exact .bool b
  | number n =>
    rw [toTree]
    split
    · exact .number _
    · exact not_occursIn_nil
  | string hs =>
    rw [toTree]
    exact .string hs
  | sequence _ ih =>
    rw [toTree]
    exact (reads_treesOf ih).bind fun ts hts => .array hts
  | mapping hkeys _ _ ih =>
    rw [toTree]
    exact (reads_membersOf hc hkeys ih).bind fun members hmembers =>
      hmembers.subset fun m hm => OrderedMap.mem_of_mem_ofEntries hm
  | tagged _ _ ih => rwa [toTree]

end Yaml

/-- Where no parsed string has a control character, neither has the tree or what is quoted instead. -/
theorem Tree.reads_ofYaml {c : Char} (hc : c.toNat < 32) {text : String}
    (h : ¬ OccursIn c (Yaml.FirstDocument.ofText text).strings) :
    Reads c ContentError.verbatim (Tree.Lacks c) (Tree.ofYaml text) := by
  have hvalue := Yaml.Value.reads_ofText hc h
  rw [ofYaml]
  generalize Yaml.Value.ofText text = value at hvalue ⊢
  cases value with
  | error e => exact hvalue
  | ok v =>
    have htree := Yaml.Value.Lacks.reads_toTree hc hvalue
    dsimp only
    generalize v.toTree = tree at htree ⊢
    cases tree with
    | error e => exact htree
    | ok t => exact htree

end YamlSchema
