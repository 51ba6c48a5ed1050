import YamlSchema.Proofs.Schema.Linking
import YamlSchema.Proofs.Schema.Origin

/-!
# How violations are found

A schema finds a violation by itself, in a schema that it embeds or behind a reference (`Found`).  That is so of what one
rule finds if it is inside the rule (`found_of_mem_rule`), so of all that a schema finds (`found_of_mem_read`), and of a
whole program by the number of links that are followed (`findsBehind_follow`).  The pattern that a rule asks for stands in
its schema (`Reading.pattern_mem_of_read`).
-/

namespace YamlSchema.Schema

/-! ### Patterns -/

/-- Whether an assertion is about a pattern. -/
def Assertion.isPattern : Assertion → Bool
  | .pattern _ => true
  | _ => false

/-- Whether a rule asks for a pattern itself. -/
def Rule.asksPattern : Rule → Bool
  | .assertion _ a => a.isPattern
  | _ => false

namespace Reading

section Patterns

attribute [local simp] Rule.asksPattern refuse

variable {s : Setting} {all : Siblings} {keyword : String} {value : Tree} {r : Reading}

theorem asksPattern_counted {a : Nat → Assertion} (ha : ∀ n, (a n).isPattern = false) :
    ∀ rule ∈ counted s keyword value a, rule.asksPattern = false := by
  unfold counted
  split <;> simp [ha]

theorem asksPattern_numeric {a : Number → Assertion} (ha : ∀ n, (a n).isPattern = false) :
    ∀ rule ∈ numeric keyword value a, rule.asksPattern = false := by
  unfold numeric
  split <;> simp [ha]

theorem asksPattern_bound {exclusive : String} {a exclusively : Number → Assertion}
    (ha : ∀ n, (a n).isPattern = false) (hexclusively : ∀ n, (exclusively n).isPattern = false) :
    ∀ rule ∈ bound s all keyword exclusive value a exclusively, rule.asksPattern = false := by
  unfold bound
  split
  · exact asksPattern_numeric hexclusively
  · exact asksPattern_numeric ha

theorem asksPattern_named {a : List String → Assertion} (ha : ∀ names, (a names).isPattern = false) :
    ∀ rule ∈ named value fun names => [.assertion keyword (a names)], rule.asksPattern = false := by
  unfold named
  split
  · split <;> simp [ha]
  · simp

theorem asksPattern_typed : ∀ rule ∈ typed s value, rule.asksPattern = false := by
  unfold typed
  dsimp only
  split
  · split <;> simp [Assertion.isPattern]
  · split <;> simp [Assertion.isPattern]
  · split <;> simp [Assertion.isPattern]
  · simp [Assertion.isPattern]

theorem asksPattern_content (mediaType : String) : ∀ rule ∈ content all mediaType, rule.asksPattern = false := by
  unfold content
  split
  · simp [Assertion.isPattern]
  · split
    · simp [Assertion.isPattern]
    · split <;> simp [Assertion.isPattern]
    · simp [Assertion.isPattern]

theorem asksPattern_requiredRules : ∀ rule ∈ requiredRules keyword r, rule.asksPattern = false := by
  unfold requiredRules
  split
  · rw [List.forall_mem_flatMap]
    intro e _
    split
    · split
      · simp
      · exact asksPattern_named fun _ => rfl
    · simp
  · simp

theorem asksPattern_dependencyRules : ∀ rule ∈ dependencyRules keyword r, rule.asksPattern = false := by
  unfold dependencyRules
  split
  · rw [List.forall_mem_flatMap]
    intro e _
    split
    · exact asksPattern_named fun _ => rfl
    · cases r.entries.find? fun n => n.1 = e.1 <;> simp
  · simp

theorem asksPattern_formatRules : ∀ rule ∈ formatRules s keyword r, rule.asksPattern = false := by
  unfold formatRules
  split
  · simp [Assertion.isPattern]
  · split
    · cases Format.ofName? s.draft _ <;> simp [Assertion.isPattern]
    · simp

theorem asksPattern_referenceRules : ∀ rule ∈ referenceRules s keyword r, rule.asksPattern = false := by
  unfold referenceRules
  split
  · split <;> simp [Assertion.isPattern]
  · simp [Assertion.isPattern]

theorem asksPattern_patternRules (entries : List (Except Refusal (Pattern × Node))) :
    ∀ rule ∈ patternRules entries, rule.asksPattern = false := by
  rw [patternRules, List.forall_mem_map]
  intro e _
  split <;> simp

theorem asksPattern_closing : ∀ rule ∈ closing s all r, rule.asksPattern = false := by
  unfold closing
  dsimp only
  split
  · simp [Assertion.isPattern]
  split
  · split <;> simp [Assertion.isPattern]
  split
  · simp [Assertion.isPattern]
  split
  · simp [Assertion.isPattern]
  · simp [Assertion.isPattern]
  · exact asksPattern_patternRules _

theorem asksPattern_containing : ∀ rule ∈ containing s all r, rule.asksPattern = false := by
  unfold containing
  split
  · simp [Assertion.isPattern]
  · split <;> simp [Assertion.isPattern]

theorem asksPattern_mapIdx {nodes : List Node} {rule : Nat → Node → Rule}
    (h : ∀ i n, (rule i n).asksPattern = false) : ∀ made ∈ nodes.mapIdx rule, made.asksPattern = false := by
  intro made hmade
  obtain ⟨i, _, rfl⟩ := List.mem_mapIdx.1 hmade
  exact h _ _

theorem asksPattern_map {entries : List (String × Node)} {rule : String → Node → Rule}
    (h : ∀ name n, (rule name n).asksPattern = false) :
    ∀ made ∈ entries.map fun e => rule e.1 e.2, made.asksPattern = false :=
  List.forall_mem_map.2 fun _ _ => h _ _

theorem asksPattern_itemRules : ∀ rule ∈ itemRules s all r, rule.asksPattern = false := by
  unfold itemRules
  dsimp only
  split
  · exact asksPattern_mapIdx fun _ _ => rfl
  · split <;> simp [Assertion.isPattern]
  · split <;> simp [Assertion.isPattern]
  · split
    · split <;> simp [Assertion.isPattern]
    · simp [Assertion.isPattern]
  · simp [Assertion.isPattern]

theorem asksPattern_additionalItemRules : ∀ rule ∈ additionalItemRules s all keyword r, rule.asksPattern = false := by
  unfold additionalItemRules
  split
  · split
    · simp
    · simp [Assertion.isPattern]
    · split <;> simp
    · simp
  all_goals simp [Assertion.isPattern]

/-- Only one keyword asks for a pattern itself. -/
theorem asksPattern_keywordRules (h : keyword ≠ "pattern") :
    ∀ rule ∈ keywordRules s all keyword r, rule.asksPattern = false := by
  unfold keywordRules
  dsimp only
  split
  -- references
  · exact asksPattern_referenceRules
  · exact asksPattern_referenceRules
  · simp
  -- keywords with no schema in them
  · exact asksPattern_typed
  · split <;> simp [Assertion.isPattern]
  · simp [Assertion.isPattern]
  · exact asksPattern_numeric fun _ => rfl
  · exact asksPattern_bound (fun _ => rfl) fun _ => rfl
  · exact asksPattern_numeric fun _ => rfl
  · exact asksPattern_bound (fun _ => rfl) fun _ => rfl
  · exact asksPattern_numeric fun _ => rfl
  iterate 6
    · exact asksPattern_counted fun _ => rfl
  · exact absurd rfl h
  · split <;> simp [Assertion.isPattern]
  · exact asksPattern_named fun _ => rfl
  · exact asksPattern_requiredRules
  · exact asksPattern_formatRules
  · split
    · simp
    · split <;> simp [Assertion.isPattern]
  · split
    · exact asksPattern_content _
    · simp
  -- members
  · split
    · simp
    · split
      · exact asksPattern_map fun _ _ => rfl
      · simp
  · split
    · simp
    · split
      · exact asksPattern_patternRules _
      · simp
  · exact asksPattern_closing
  -- items
  · split
    · exact asksPattern_mapIdx fun _ _ => rfl
    · simp
  · exact asksPattern_itemRules
  · exact asksPattern_additionalItemRules
  · exact asksPattern_containing
  · split <;> simp [Assertion.isPattern]
  · exact asksPattern_dependencyRules
  · split
    · exact asksPattern_map fun _ _ => rfl
    · simp
  -- applicators
  · split
    · exact asksPattern_mapIdx fun _ _ => rfl
    · simp
  · split <;> simp
  · split <;> simp
  · simp
  · split <;> simp
  · simp

/-- and it asks for its own value. -/
theorem eq_of_mem_patternRules {p : Pattern}
    (h : .assertion keyword (.pattern p) ∈ keywordRules s all "pattern" r) : r.tree = .string p.text := by
  simp only [keywordRules] at h
  split at h
  · rename_i text htree
    split at h
    · rename_i p' hp
      obtain ⟨-, rfl⟩ := by simpa using h
      rw [htree, text_of_read? hp]
    · simp at h
  · simp at h

end Patterns

/-- A pattern that a schema asks for stands in it. -/
theorem pattern_mem_of_read {s : Setting} {members : OrderedMap Tree} {all : List Rule}
    (h : (read s (.object members)).node = .rules all) {keyword : String} {p : Pattern}
    (hp : .assertion keyword (.pattern p) ∈ all) : ("pattern", .string p.text) ∈ members := by
  have hknown : ∀ e ∈ readMembers s members,
      .assertion keyword (.pattern p) ∈ knownRules s (readMembers s members) e →
        ("pattern", .string p.text) ∈ members := by
    intro e he hmem
    rw [readMembers_eq_map, List.mem_map] at he
    obtain ⟨⟨key, t⟩, hm, rfl⟩ := he
    rw [knownRules, List.mem_ite_nil_right] at hmem
    by_cases hkey : key = "pattern"
    · subst hkey
      have htree : t = .string p.text := (tree_read _ t).symm.trans (eq_of_mem_patternRules hmem.2)
      rwa [← htree]
    · exact absurd (asksPattern_keywordRules hkey _ hmem.2) (by simp [Rule.asksPattern, Assertion.isPattern])
  rw [read, assemble] at h
  dsimp only at h
  split at h
  · cases h
    exact absurd (asksPattern_referenceRules _ hp) (by simp [Rule.asksPattern, Assertion.isPattern])
  · cases h
    obtain ⟨e, he, hmem⟩ := List.mem_flatMap.1 hp
    split at hmem
    · split at hmem <;> simp at hmem
    · exact hknown e he hmem

end Reading

/-! ### Rules -/

/-- The parts of a value that rules look at, and the steps to them. -/
inductive LooksAt (v : Tree) : Option Step → Tree → Prop
  | whole : LooksAt v none v
  | member {name : String} {t : Tree} (h : (name, t) ∈ membersOf v) : LooksAt v (some (.key name)) t
  | item {i : Nat} {t : Tree} (h : (itemsOf v)[i]? = some t) : LooksAt v (some (.index i)) t

/-- What a rule with schemas in it says of a value itself.  The names that it gives are keys of the value. -/
inductive Cause.IsOwn (v : Tree) : Cause → Prop
  | containsNone : IsOwn v .containsNone
  | unexpectedNames {names : List String} (h : ∀ name ∈ names, ∃ t, (name, t) ∈ membersOf v) :
      IsOwn v (.unexpectedNames names)
  | unevaluatedNames {names : List String} (h : ∀ name ∈ names, ∃ t, (name, t) ∈ membersOf v) :
      IsOwn v (.unevaluatedNames names)
  | unevaluatedItems (items : List Tree) : IsOwn v (.unevaluatedItems items)
  | forbidden (schema : Tree) : IsOwn v (.forbidden schema)
  | noneOfAny : IsOwn v .noneOfAny
  | noneOfOne : IsOwn v .noneOfOne
  | severalOfOne : IsOwn v .severalOfOne

theorem Cause.IsOwn.hasKeyword {v : Tree} {cause : Cause} (h : cause.IsOwn v) : cause.hasKeyword = true := by
  cases h <;> rfl

/-- The violations of a schema by a value, and how they are found: by the schema itself, in one that it embeds, or
behind a reference. -/
inductive Found (resources : Resources) : Setting → Tree → Tree → Violation → Prop
  | never (s : Setting) (v : Tree) : Found resources s (.bool false) v ⟨[], [], v, .notAllowed⟩
  | asserted {s : Setting} {members : OrderedMap Tree} {v : Tree} {keyword : String} {a : Assertion} {c : Tree × Cause}
      (h : Owns s (.object members) [.key keyword])
      (hpattern : ∀ p, a = .pattern p → ("pattern", .string p.text) ∈ members) (hc : c ∈ a.causes v) :
      Found resources s (.object members) v (.under none [.key keyword] ⟨[], [], c.1, c.2⟩)
  | own {s : Setting} {members : OrderedMap Tree} {v : Tree} {tail : Pointer} {cause : Cause}
      (h : Owns s (.object members) tail) (hcause : cause.IsOwn v) :
      Found resources s (.object members) v ⟨[], tail, v, cause⟩
  | inside {s s' : Setting} {members : OrderedMap Tree} {v part t : Tree} {way : Pointer} {step : Option Step}
      {e : Violation} (h : Embeds s members way s' t) (hpart : LooksAt v step part) (he : Found resources s' t part e) :
      Found resources s (.object members) v (e.under step way)
  | ofName {s s' : Setting} {members : OrderedMap Tree} {v t u : Tree} {name : String} {e : Violation}
      (h : Embeds s members [.key "propertyNames"] s' t) (hname : (name, u) ∈ membersOf v)
      (he : Found resources s' t (.string name) e) : Found resources s (.object members) v (e.ofName v name)
  | behind {s s' : Setting} {members : OrderedMap Tree} {v operand t : Tree} {keyword : String} {link : Link}
      {e : Violation} (h : PointsAt s members keyword operand link) (hfind : resources.find link = .ok (s', t))
      (he : Found resources s' t v e) : Found resources s (.object members) v (e.under none [.key keyword])

/-- What is found behind links is found where they lead. -/
def FindsBehind (resources : Resources) (f : Follow) : Prop :=
  ∀ link v, ∀ e ∈ f.violations link v, ∃ s t, resources.find link = .ok (s, t) ∧ Found resources s t v e

/-- A step in the instance may be taken after one in the schema. -/
theorem Violation.under_under (step : Option Step) (way : Pointer) (e : Violation) :
    (e.under none way).under step [] = e.under step way := by
  simp only [under, Option.toList_none, List.nil_append, ite_self]

section Rules

variable {resources : Resources} {f : Follow} {s : Setting} {members : OrderedMap Tree}
  (hinside : ∀ {way s' t}, Embeds s members way s' t →
    ∀ v, ∀ e ∈ (read s' t).node.violations f v, Found resources s' t v e)

include hinside

theorem found_of_carries {way : Pointer} {node : Node} (h : Carries s members way node) {v part : Tree}
    {step : Option Step} (hpart : LooksAt v step part) :
    ∀ e ∈ (node.violations f part).map (Violation.under step way), Found resources s (.object members) v e := by
  obtain ⟨s', t, hembeds, rfl⟩ := h
  rw [List.forall_mem_map]
  exact fun e he => .inside hembeds hpart (hinside hembeds part e he)

theorem found_of_carries_under {way : Pointer} {node : Node} (h : Carries s members way node) {v part : Tree}
    {step : Option Step} (hpart : LooksAt v step part) :
    ∀ e ∈ (node.violations f part).map (Violation.under none way),
      Found resources s (.object members) v (e.under step []) := by
  rw [List.forall_mem_map]
  intro e he
  rw [Violation.under_under]
  exact found_of_carries hinside h hpart _ (List.mem_map_of_mem he)

theorem found_of_violationsNamed {named : List (String × Node)} {name : String} {v t : Tree}
    (hmember : (name, t) ∈ membersOf v)
    (h : ∀ e ∈ named, Carries s members [.key "properties", .key e.1] e.2) :
    ∀ found ∈ violationsNamed f named name t, ∀ e ∈ found,
      Found resources s (.object members) v (e.under (some (.key name)) []) := by
  induction named with
  | nil => simp [violationsNamed]
  | cons entry rest ih =>
    rw [List.forall_mem_cons] at h
    rw [violationsNamed]
    split
    · simp only [Option.mem_some_iff, forall_eq']
      exact found_of_carries_under hinside h.1 (.member hmember)
    · exact ih h.2

theorem found_of_violationsMatching {patterned : List (Pattern × Node)} {name : String} {v t : Tree}
    (hmember : (name, t) ∈ membersOf v)
    (h : ∀ e ∈ patterned, Carries s members [.key "patternProperties", .key e.1.text] e.2) :
    ∀ found ∈ violationsMatching f patterned name t, ∀ e ∈ found,
      Found resources s (.object members) v (e.under (some (.key name)) []) := by
  induction patterned with
  | nil => simp [violationsMatching]
  | cons entry rest ih =>
    rw [List.forall_mem_cons] at h
    rw [violationsMatching]
    split
    · simp only [Option.mem_some_iff, forall_eq']
      intro e he
      rcases List.mem_append.1 he with he | he
      · exact found_of_carries_under hinside h.1 (.member hmember) e he
      · cases hrest : violationsMatching f rest name t with
        | none => simp [hrest] at he
        | some found =>
          rw [hrest, Option.getD_some] at he
          exact ih h.2 found hrest e he
    · exact ih h.2

theorem found_of_mem_members {named : List (String × Node)} {patterned : List (Pattern × Node)} {others : Option Node}
    (hclosing : Owns s (.object members) [.key "additionalProperties"])
    (hnamed : ∀ e ∈ named, Carries s members [.key "properties", .key e.1] e.2)
    (hpatterned : ∀ e ∈ patterned, Carries s members [.key "patternProperties", .key e.1.text] e.2)
    (hothers : ∀ node ∈ others, Carries s members [.key "additionalProperties"] node) (v : Tree) :
    ∀ e ∈ (Rule.members named patterned others).violations f v, Found resources s (.object members) v e := by
  intro e he
  rw [Rule.violations, List.mem_append] at he
  rcases he with he | he
  · obtain ⟨_, hm, he⟩ := List.mem_flatMap.1 he
    obtain ⟨m, hmember, rfl⟩ := List.mem_map.1 hm
    have hfound : ∀ found : Option (List Violation),
        (∀ es ∈ found, ∀ e ∈ es, Found resources s (.object members) v (e.under (some (.key m.1)) [])) →
        ∀ e ∈ (found.getD []).map (Violation.under (some (.key m.1)) []), Found resources s (.object members) v e := by
      intro found h
      rw [List.forall_mem_map]
      intro e he
      cases found with
      | none => cases he
      | some es => exact h es rfl e he
    dsimp only at he
    split at he
    · cases others with
      | none => simp [violationsIfAny] at he
      | some node => exact found_of_carries hinside (hothers node rfl) (.member hmember) e he
    · rcases List.mem_append.1 he with he | he
      · exact hfound _ (found_of_violationsNamed hinside hmember hnamed) e he
      · exact hfound _ (found_of_violationsMatching hinside hmember hpatterned) e he
  · split at he
    · cases he
    · rw [List.mem_singleton] at he
      subst he
      refine .own hclosing (.unexpectedNames fun name hname => ?_)
      obtain ⟨p, hp, hname⟩ := List.mem_filterMap.1 hname
      obtain ⟨m, hm, rfl⟩ := List.mem_map.1 hp
      dsimp only at hname
      split at hname
      · split at hname
        · cases hname
        · cases hname
          exact ⟨m.2, hm⟩
      · cases hname

/-- What a rule finds is found by its schema if what it finds inside is. -/
theorem found_of_mem_rule (hf : FindsBehind resources f) {r : Rule} (hr : StemsFrom s members r)
    (hpattern : ∀ keyword p, r = .assertion keyword (.pattern p) → ("pattern", .string p.text) ∈ members) (v : Tree) :
    ∀ e ∈ r.violations f v, Found resources s (.object members) v e := by
  intro e he
  cases hr with
  | assertion h =>
    obtain ⟨c, hc, rfl⟩ := List.mem_map.1 he
    exact .asserted h (fun p hp => hpattern _ p (by rw [hp])) hc
  | reference h =>
    obtain ⟨found, hfound, rfl⟩ := List.mem_map.1 he
    obtain ⟨s', t, hfind, hbehind⟩ := hf _ v found hfound
    exact .behind h hfind hbehind
  | property h =>
    rw [Rule.violations] at he
    split at he
    · rename_i t ht
      exact found_of_carries hinside h (.member (OrderedMap.mem_of_get? ht)) e he
    · cases he
  | patternProperty h =>
    rw [Rule.violations, List.mem_flatMap] at he
    obtain ⟨m, hm, he⟩ := he
    split at he
    · exact found_of_carries hinside h (.member hm) e he
    · cases he
  | members hclosing hnamed hpatterned hothers =>
    exact found_of_mem_members hinside hclosing hnamed hpatterned hothers v e he
  | items h =>
    rw [Rule.violations, List.mem_flatten] at he
    obtain ⟨es, hes, he⟩ := he
    obtain ⟨i, hi, rfl⟩ := List.mem_mapIdx.1 hes
    exact found_of_carries hinside h (.item (List.getElem?_eq_getElem hi)) e he
  | itemAt h =>
    rw [Rule.violations] at he
    split at he
    · rename_i t ht
      exact found_of_carries hinside h (.item ht) e he
    · cases he
  | itemsFrom h =>
    rw [Rule.violations, List.mem_flatten] at he
    obtain ⟨es, hes, he⟩ := he
    obtain ⟨i, hi, rfl⟩ := List.mem_mapIdx.1 hes
    refine found_of_carries hinside h (.item ?_) e he
    rw [← List.getElem?_drop, List.getElem?_eq_getElem hi]
  | contains h =>
    cases v with
    | array items =>
      obtain ⟨-, rfl⟩ := by simpa [Rule.violations] using he
      exact .own h .containsNone
    | _ => simp [Rule.violations] at he
  | containsWithin h =>
    cases v with
    | array items =>
      rw [Rule.violations] at he
      split at he
      · rename_i way hway
        obtain rfl := List.mem_singleton.1 he
        exact .own (h _ way hway) .containsNone
      · cases he
    | _ => simp [Rule.violations] at he
  | names h =>
    rw [Rule.violations, List.mem_flatMap] at he
    obtain ⟨m, hm, he⟩ := he
    obtain ⟨found, hfound, rfl⟩ := List.mem_map.1 he
    obtain ⟨s', t, hembeds, rfl⟩ := h
    exact .ofName hembeds hm (hinside hembeds _ found hfound)
  | dependency h =>
    rw [Rule.violations] at he
    split at he
    · exact found_of_carries hinside h .whole e he
    · cases he
  | allOf h => exact found_of_carries hinside h .whole e he
  | anyOf h =>
    obtain ⟨-, rfl⟩ := by simpa [Rule.violations] using he
    exact .own h .noneOfAny
  | oneOf h =>
    rw [Rule.violations] at he
    split at he
    · obtain rfl := List.mem_singleton.1 he
      exact .own h .noneOfOne
    · cases he
    · obtain rfl := List.mem_singleton.1 he
      exact .own h .severalOfOne
  | not h =>
    obtain ⟨-, rfl⟩ := by simpa [Rule.violations] using he
    exact .own h (.forbidden _)
  | conditional hyes hno =>
    rename_i test yes no
    rw [Rule.violations] at he
    split at he
    · cases yes with
      | none => simp [violationsIfAny] at he
      | some node => exact found_of_carries hinside (hyes node rfl) .whole e he
    · cases no with
      | none => simp [violationsIfAny] at he
      | some node => exact found_of_carries hinside (hno node rfl) .whole e he
  | unevaluatedMembers h =>
    rw [Rule.violations, List.mem_ite_nil_left, List.mem_singleton] at he
    obtain ⟨-, rfl⟩ := he
    refine .own h (.unevaluatedNames ?_)
    rw [List.forall_mem_map]
    exact fun m hm => ⟨m.2, List.mem_of_mem_filter hm⟩
  | unevaluatedItems h =>
    rw [Rule.violations, List.mem_ite_nil_left, List.mem_singleton] at he
    obtain ⟨-, rfl⟩ := he
    exact .own h (.unevaluatedItems _)
  | refused => simp [Rule.violations] at he

end Rules

/-! ### Schemas -/

theorem Embeds.sizeOf_lt {s s' : Setting} {members : OrderedMap Tree} {way : Pointer} {t : Tree}
    (h : Embeds s members way s' t) : sizeOf t < sizeOf (Tree.object members) := by
  have hmember : ∀ {key : String} {u : Tree} {ms : OrderedMap Tree}, (key, u) ∈ ms →
      sizeOf u < sizeOf (Tree.object ms) := by
    intro key u ms hu
    have hlt := List.sizeOf_lt_of_mem hu
    simp only [Prod.mk.sizeOf_spec, Tree.object.sizeOf_spec] at hlt ⊢
    omega
  cases h with
  | sole _ ht => exact hmember ht
  | listed _ hitems ht =>
    have hlt := List.sizeOf_lt_of_mem (List.mem_of_getElem? ht)
    have hitems := hmember hitems
    simp only [Tree.array.sizeOf_spec] at hitems
    omega
  | named _ hentries ht => exact Nat.lt_trans (hmember ht) (hmember hentries)

theorem mem_violationsOfAll {f : Follow} {rules : List Rule} {v : Tree} {e : Violation} :
    e ∈ violationsOfAll f rules v ↔ ∃ r ∈ rules, e ∈ r.violations f v := by
  induction rules with
  | nil => simp [violationsOfAll]
  | cons r rest ih => simp [violationsOfAll, ih]

/-- Every violation of a schema that is read is found by it. -/
theorem found_of_mem_read {resources : Resources} {f : Follow} (hf : FindsBehind resources f) (s : Setting) :
    ∀ (t v : Tree), ∀ e ∈ (read s t).node.violations f v, Found resources s t v e
  | .object members, v, e, he => by
    obtain ⟨all, hall⟩ := Reading.exists_rules_of_read s members
    rw [hall, Node.violations, mem_violationsOfAll] at he
    obtain ⟨r, hr, he⟩ := he
    refine found_of_mem_rule (fun {_ s' t} hembeds => found_of_mem_read hf s' t) hf
      (Reading.stemsFrom_of_read hall r hr) ?_ v e he
    rintro keyword p rfl
    exact Reading.pattern_mem_of_read hall hr
  | .bool false, v, e, he => by
    rw [read, Node.violations, List.mem_singleton] at he
    subst he
    exact .never s v
  | .bool true, _, _, he | .null, _, _, he | .number _, _, _, he | .string _, _, _, he | .array _, _, _, he => by
    simp [read, Node.violations] at he
termination_by t => sizeOf t
decreasing_by exact hembeds.sizeOf_lt

/-! ### Programs -/

/-- However many links are followed, what is found behind them is found where they lead. -/
theorem findsBehind_follow {resources : Resources} {p : Program} (hlinks : p.links.Sound resources) (fuel : Nat) :
    FindsBehind resources (p.follow fuel) := by
  induction fuel with
  | zero => simp [FindsBehind, Program.follow]
  | succ fuel ih =>
    intro link v e he
    rw [Program.follow] at he
    dsimp only at he
    cases hnode : p.links.node? link with
    | none => simp [hnode] at he
    | some n =>
      obtain ⟨s, t, hfind, rfl⟩ := hlinks link n hnode
      rw [hnode] at he
      exact ⟨s, t, hfind, found_of_mem_read ih s t v e he⟩

/-- Every violation of a compiled schema is found by it. -/
theorem Validator.found_of_mem_violations {references : References} {schema : Tree} {c : Validator}
    (h : Validator.compile references schema = .ok c) : ∃ uri resources,
      Resources.uriOf c.schema = .ok uri ∧ Resources.gather references uri c.schema = .ok resources ∧
        ∀ v, ∀ e ∈ c.program.violations v, Found resources (Program.rootSetting uri c.schema) c.schema v e := by
  obtain ⟨-, uri, resources, huri, hgather, hbuild⟩ := Validator.exists_of_compile h
  obtain ⟨hroot, hlinks⟩ := Program.build_sound hbuild
  refine ⟨uri, resources, huri, hgather, fun v e he => ?_⟩
  rw [Program.violations, hroot] at he
  exact found_of_mem_read (findsBehind_follow hlinks _) _ _ v e he

end YamlSchema.Schema
