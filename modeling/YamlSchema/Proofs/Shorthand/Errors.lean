import Mathlib.Data.List.Nodup
import YamlSchema.Proofs.Schema.Rules
import YamlSchema.Proofs.Shorthand.Compilation
import YamlSchema.Proofs.Tree.Pointer

/-!
# The errors of shorthand

`Flawed` says what is wrong with a value by a shorthand schema: at every place that the schema leads to, the type, the
choice or each missing key.  The schema that is compiled of it finds each of these once and nothing else
(`enumerates_violations_outline`).
-/

namespace YamlSchema.Shorthand

open Schema

/-! ### What is wrong with a value -/

/-- A tree of strings, sequences and mappings, none of which has a string as its `type`; sequences hold any literals. -/
inductive IsPlain : Tree → Prop
  | string (name : String) : IsPlain (.string name)
  | array (literals : List Tree) : IsPlain (.array literals)
  | object {ms : List (String × Tree)} (hfull : isFullSchema ms = false) (hkeys : (OrderedMap.keys ms).Nodup)
      (h : ∀ m ∈ ms, IsPlain m.2) : IsPlain (.object ms)

theorem IsPlain.isShorthand {t : Tree} (h : IsPlain t) : IsShorthand t := by
  induction h with
  | string name => exact .string name
  | array literals => exact .array literals
  | object hfull hkeys _ ih => exact .object hfull hkeys ih

theorem IsPlain.not_hasHole {t : Tree} (h : IsPlain t) : ¬ HasHole t := by
  induction h with
  | string name => exact fun h => by cases h
  | array literals => exact fun h => by cases h
  | object _ _ _ ih =>
    intro h
    cases h with
    | member hm h => exact ih _ hm h

/-- A violation as seen from one step further out in the instance. -/
def deeper (step : Step) (way : Pointer) (e : Violation) : Violation :=
  ⟨step :: e.at_, way ++ e.keyword, e.value, e.cause⟩

/-- A shorthand schema is violated by a value, at the place and by the keyword of its outline that are told. -/
inductive Flawed : Tree → Tree → Violation → Prop
  | primitive {name : String} {type : TypeName} {v : Tree} (hname : name ∈ primitives)
      (htype : TypeName.ofName? name = some type) (h : type.has v = false) :
      Flawed (.string name) v ⟨[], [.key "type"], v, .wrongType [type]⟩
  | literal {name : String} {v : Tree} (hbase : IsBase name) (hname : name ∉ primitives) (h : v ≠ .string name) :
      Flawed (.string name) v ⟨[], [.key "enum"], v, .notInEnum [.string name]⟩
  | noSequence {name : String} {v : Tree} (h : TypeName.array.has v = false) :
      Flawed (.string (name ++ "[]")) v ⟨[], [.key "type"], v, .wrongType [.array]⟩
  | item {name : String} {items : List Tree} {i : Nat} {u : Tree} {e : Violation} (hu : items[i]? = some u)
      (h : Flawed (.string name) u e) :
      Flawed (.string (name ++ "[]")) (.array items) (deeper (.index i) [.key "items"] e)
  | choice {literals : List Tree} {v : Tree} (h : ∀ literal ∈ literals, v.same literal = false) :
      Flawed (.array literals) v ⟨[], [.key "enum"], v, .notInEnum literals⟩
  | noMapping {ms : List (String × Tree)} {v : Tree} (h : TypeName.object.has v = false) :
      Flawed (.object ms) v ⟨[], [.key "type"], v, .wrongType [.object]⟩
  | missing {ms vs : List (String × Tree)} {key : String} (hkey : key ∈ OrderedMap.keys ms)
      (h : key ∉ OrderedMap.keys vs) :
      Flawed (.object ms) (.object vs) ⟨[], [.key "required"], .object vs, .required key⟩
  | member {ms vs : List (String × Tree)} {m : String × Tree} {u : Tree} {e : Violation} (hm : m ∈ ms)
      (hu : OrderedMap.get? vs m.1 = some u) (h : Flawed m.2 u e) :
      Flawed (.object ms) (.object vs) (deeper (.key m.1) [.key "properties", .key m.1] e)

section Forms

variable {v : Tree} {e : Violation}

theorem flawed_primitive_iff {name : String} {type : TypeName} (hname : name ∈ primitives)
    (htype : TypeName.ofName? name = some type) :
    Flawed (.string name) v e ↔ type.has v = false ∧ e = ⟨[], [.key "type"], v, .wrongType [type]⟩ := by
  constructor
  · intro h
    generalize hs : Tree.string name = s at h
    cases h with
    | primitive _ hother h =>
      cases hs
      rw [htype, Option.some.injEq] at hother
      rw [hother]
      exact ⟨h, rfl⟩
    | literal _ hother =>
      cases hs
      exact absurd hname hother
    | noSequence | item => exact absurd (Tree.string.inj hs) (isBase_of_mem_primitives hname _)
    | choice | noMapping | missing | member => cases hs
  · rintro ⟨h, rfl⟩
    exact .primitive hname htype h

theorem flawed_literal_iff {name : String} (hbase : IsBase name) (hname : name ∉ primitives) :
    Flawed (.string name) v e ↔ v ≠ .string name ∧ e = ⟨[], [.key "enum"], v, .notInEnum [.string name]⟩ := by
  constructor
  · intro h
    generalize hs : Tree.string name = s at h
    cases h with
    | primitive hother =>
      cases hs
      exact absurd hother hname
    | literal _ _ h =>
      cases hs
      exact ⟨h, rfl⟩
    | noSequence | item => exact absurd (Tree.string.inj hs) (hbase _)
    | choice | noMapping | missing | member => cases hs
  · rintro ⟨h, rfl⟩
    exact .literal hbase hname h

theorem flawed_append_iff {name : String} : Flawed (.string (name ++ "[]")) v e ↔
    (TypeName.array.has v = false ∧ e = ⟨[], [.key "type"], v, .wrongType [.array]⟩) ∨
      ∃ i u inner, (itemsOf v)[i]? = some u ∧ Flawed (.string name) u inner ∧
        e = deeper (.index i) [.key "items"] inner := by
  constructor
  · intro h
    generalize hs : Tree.string (name ++ "[]") = s at h
    cases h with
    | primitive hother => exact absurd (Tree.string.inj hs).symm (isBase_of_mem_primitives hother name)
    | literal hbase => exact absurd (Tree.string.inj hs).symm (hbase name)
    | noSequence h => exact .inl ⟨h, rfl⟩
    | item hu h =>
      rw [append_suffix_inj (Tree.string.inj hs)]
      exact .inr ⟨_, _, _, hu, h, rfl⟩
    | choice | noMapping | missing | member => cases hs
  · rintro (⟨h, rfl⟩ | ⟨i, u, inner, hu, h, rfl⟩)
    · exact .noSequence h
    · cases v with
      | array items => exact .item hu h
      | _ => simp [itemsOf, Tree.array?] at hu

theorem flawed_array_iff {literals : List Tree} : Flawed (.array literals) v e ↔
    (∀ literal ∈ literals, v.same literal = false) ∧ e = ⟨[], [.key "enum"], v, .notInEnum literals⟩ := by
  constructor
  · intro h
    cases h with
    | choice h => exact ⟨h, rfl⟩
  · rintro ⟨h, rfl⟩
    exact .choice h

theorem flawed_object_iff {ms : List (String × Tree)} : Flawed (.object ms) v e ↔
    ((TypeName.object.has v = false ∧ e = ⟨[], [.key "type"], v, .wrongType [.object]⟩) ∨
      ∃ m ∈ ms, ∃ u inner, OrderedMap.get? (membersOf v) m.1 = some u ∧ Flawed m.2 u inner ∧
        e = deeper (.key m.1) [.key "properties", .key m.1] inner) ∨
      ∃ key ∈ OrderedMap.keys ms, TypeName.object.has v = true ∧ key ∉ OrderedMap.keys (membersOf v) ∧
        e = ⟨[], [.key "required"], v, .required key⟩ := by
  constructor
  · intro h
    cases h with
    | noMapping h => exact .inl (.inl ⟨h, rfl⟩)
    | missing hkey h => exact .inr ⟨_, hkey, rfl, h, rfl⟩
    | member hm hu h => exact .inl (.inr ⟨_, hm, _, _, hu, h, rfl⟩)
  · rintro ((⟨h, rfl⟩ | ⟨m, hm, u, inner, hu, h, rfl⟩) | ⟨key, hkey, hv, h, rfl⟩)
    · exact .noMapping h
    · cases v with
      | object vs => exact .member hm hu h
      | _ => simp [membersOf, Tree.object?] at hu
    · cases v with
      | object vs => exact .missing hkey h
      | _ => cases hv

end Forms

/-! ### Lists without repeats -/

/-- A list holds what has a property, each once. -/
def Enumerates {α : Type} (l : List α) (P : α → Prop) : Prop := l.Nodup ∧ ∀ a, a ∈ l ↔ P a

namespace Enumerates

variable {α β : Type}

theorem congr {l : List α} {P Q : α → Prop} (h : Enumerates l P) (hPQ : ∀ a, Q a ↔ P a) : Enumerates l Q :=
  ⟨h.1, fun a => (h.2 a).trans (hPQ a).symm⟩

theorem append {l m : List α} {P Q : α → Prop} (hl : Enumerates l P) (hm : Enumerates m Q)
    (hPQ : ∀ a, P a → ¬ Q a) : Enumerates (l ++ m) fun a => P a ∨ Q a := by
  refine ⟨hl.1.append hm.1 fun a ha ha' => hPQ a ((hl.2 a).1 ha) ((hm.2 a).1 ha'), fun a => ?_⟩
  rw [List.mem_append, hl.2, hm.2]

theorem map {l : List α} {P : α → Prop} {f : α → β} (hf : Function.Injective f) (hl : Enumerates l P) :
    Enumerates (l.map f) fun b => ∃ a, P a ∧ b = f a := by
  refine ⟨hl.1.map hf, fun b => ?_⟩
  rw [List.mem_map]
  exact exists_congr fun a => and_congr (hl.2 a) eq_comm

/-- What each element of a list stands for, one after the other; no two stand for the same. -/
theorem flatMap {l : List α} {g : α → List β} {P : α → β → Prop} (hl : l.Nodup) (hg : ∀ a ∈ l, Enumerates (g a) (P a))
    (hP : ∀ a ∈ l, ∀ a' ∈ l, ∀ b, P a b → P a' b → a = a') :
    Enumerates (l.flatMap g) fun b => ∃ a ∈ l, P a b := by
  refine ⟨List.nodup_flatMap.2 ⟨fun a ha => (hg a ha).1, ?_⟩, fun b => ?_⟩
  · refine hl.imp_of_mem fun {a a'} ha ha' hne b hb hb' => hne ?_
    exact hP a ha a' ha' b (((hg a ha).2 b).1 hb) (((hg a' ha').2 b).1 hb')
  · rw [List.mem_flatMap]
    exact exists_congr fun a => and_congr_right fun ha => (hg a ha).2 b

end Enumerates

/-! ### What the outline finds -/

section Outline

variable {s : Setting} (hs : s.draft = .draft7) {f : Follow} {v : Tree}

private theorem violationsOfAll_append (rules more : List Rule) :
    violationsOfAll f (rules ++ more) v = violationsOfAll f rules v ++ violationsOfAll f more v := by
  induction rules with
  | nil => rfl
  | cons r rest ih => rw [List.cons_append, violationsOfAll, violationsOfAll, ih, List.append_assoc]

private theorem violationsOfAll_map {α : Type} (l : List α) (rule : α → Rule) :
    violationsOfAll f (l.map rule) v = l.flatMap fun a => (rule a).violations f v := by
  induction l with
  | nil => rfl
  | cons a rest ih => rw [List.map_cons, violationsOfAll, ih, List.flatMap_cons]

private theorem violationsOfAll_singleton (r : Rule) : violationsOfAll f [r] v = r.violations f v := by
  rw [violationsOfAll, violationsOfAll, List.append_nil]

theorem deeper_injective (step : Step) (way : Pointer) : Function.Injective (deeper step way) := by
  rintro ⟨at_, keyword, value, cause⟩ ⟨at', keyword', value', cause'⟩ h
  simp only [deeper, Violation.mk.injEq, List.cons.injEq, true_and, List.append_cancel_left_eq] at h
  obtain ⟨rfl, rfl, rfl, rfl⟩ := h
  rfl

/-- What is wrong by shorthand is about a value at some place, and it belongs to a keyword. -/
private theorem Flawed.cause {t : Tree} {e : Violation} (h : Flawed t v e) :
    e.cause.hasPlace = true ∧ e.cause.hasKeyword = true := by
  induction h with
  | item _ _ ih | member _ _ _ ih => exact ih
  | _ => exact ⟨rfl, rfl⟩

/-- The violations of a value inside another one, as they are seen from there. -/
private theorem enumerates_under {n : Node} {t u : Tree} (h : Enumerates (n.violations f u) (Flawed t u)) (step : Step)
    (way : Pointer) : Enumerates ((n.violations f u).map (Violation.under (some step) way)) fun e =>
      ∃ inner, Flawed t u inner ∧ e = deeper step way inner := by
  have hunder : (n.violations f u).map (Violation.under (some step) way) = (n.violations f u).map (deeper step way) := by
    refine List.map_congr_left fun e he => ?_
    obtain ⟨hplace, hkeyword⟩ := ((h.2 e).1 he).cause
    simp [Violation.under, deeper, hplace, hkeyword]
  rw [hunder]
  exact h.map (deeper_injective step way)

private theorem enumerates_assertion {keyword : String} {a : Assertion} {broken : Bool} {cause : Cause}
    (ha : a.causes v = Assertion.when broken v cause) (hcause : cause.hasKeyword = true) :
    Enumerates ((Rule.assertion keyword a).violations f v) fun e =>
      broken = true ∧ e = ⟨[], [.key keyword], v, cause⟩ := by
  rw [Rule.violations, ha]
  cases broken <;> simp [Enumerates, Assertion.when, Violation.under, hcause]

private theorem enumerates_type (type : TypeName) :
    Enumerates ((Rule.assertion "type" (.type [type] true)).violations f v) fun e =>
      type.has v = false ∧ e = ⟨[], [.key "type"], v, .wrongType [type]⟩ := by
  have hcauses : (Assertion.type [type] true).causes v = Assertion.when (!type.has v) v (.wrongType [type]) := by
    simp [Assertion.causes]
  exact (enumerates_assertion hcauses rfl).congr fun e => by rw [Bool.not_eq_true']

private theorem enumerates_enum (literals : List Tree) :
    Enumerates ((Rule.assertion "enum" (.enum literals)).violations f v) fun e =>
      (∀ literal ∈ literals, v.same literal = false) ∧ e = ⟨[], [.key "enum"], v, .notInEnum literals⟩ := by
  have hcauses : (Assertion.enum literals).causes v =
      Assertion.when (!literals.any fun o => v.same o) v (.notInEnum literals) := rfl
  exact (enumerates_assertion hcauses rfl).congr fun e => by simp

private theorem enumerates_required {names : List String} (hnames : names.Nodup) :
    Enumerates ((Rule.assertion "required" (.required names)).violations f v) fun e =>
      ∃ key ∈ names, TypeName.object.has v = true ∧ key ∉ OrderedMap.keys (membersOf v) ∧
        e = ⟨[], [.key "required"], v, .required key⟩ := by
  cases v with
  | object vs =>
    have hviolations : (Rule.assertion "required" (.required names)).violations f (.object vs) =
        (names.filter fun n => !OrderedMap.contains vs n).map fun key =>
          (⟨[], [.key "required"], .object vs, .required key⟩ : Violation) := by
      simp [Rule.violations, Assertion.causes, Assertion.missing, Violation.under, Cause.hasKeyword]
    have hinjective : Function.Injective fun key =>
        (⟨[], [.key "required"], .object vs, .required key⟩ : Violation) := by
      intro key key' h
      simpa using h
    have hfilter : Enumerates (names.filter fun n => !OrderedMap.contains vs n) fun key =>
        key ∈ names ∧ key ∉ OrderedMap.keys vs := by
      refine ⟨hnames.filter _, fun key => ?_⟩
      rw [List.mem_filter, Bool.not_eq_true', ← Bool.not_eq_true, OrderedMap.contains_iff]
    rw [hviolations]
    refine (hfilter.map hinjective).congr fun e => ?_
    simp [TypeName.has, membersOf, Tree.object?, and_assoc]
  | _ => simp [Enumerates, Rule.violations, Assertion.causes, TypeName.has]

private theorem enumerates_property {name : String} {n : Node} {t : Tree}
    (h : ∀ u, Enumerates (n.violations f u) (Flawed t u)) :
    Enumerates ((Rule.property name n).violations f v) fun e => ∃ u inner,
      OrderedMap.get? (membersOf v) name = some u ∧ Flawed t u inner ∧
        e = deeper (.key name) [.key "properties", .key name] inner := by
  rw [Rule.violations]
  cases OrderedMap.get? (membersOf v) name with
  | none => simp [Enumerates]
  | some u =>
    dsimp only
    refine (enumerates_under (h u) _ _).congr fun e => ?_
    simp

private theorem enumerates_items {n : Node} {t : Tree} (h : ∀ u, Enumerates (n.violations f u) (Flawed t u)) :
    Enumerates ((Rule.items n).violations f v) fun e => ∃ i u inner,
      (itemsOf v)[i]? = some u ∧ Flawed t u inner ∧ e = deeper (.index i) [.key "items"] inner := by
  have hindices : (itemsOf v).zipIdx.Nodup := by
    refine List.Nodup.of_map Prod.snd ?_
    rw [List.zipIdx_map_snd]
    exact List.nodup_range' ..
  rw [Rule.violations, List.mapIdx_eq_zipIdx_map, ← List.flatMap_def]
  refine (Enumerates.flatMap (P := fun a e => ∃ inner, Flawed t a.1 inner ∧ e = deeper (.index a.2) [.key "items"] inner)
    hindices (fun a _ => enumerates_under (h a.1) _ _) ?_).congr fun e => ?_
  · rintro ⟨u, i⟩ hu ⟨u', i'⟩ hu' _ ⟨inner, -, rfl⟩ ⟨inner', -, heq⟩
    simp only [deeper, Violation.mk.injEq, List.cons.injEq, Step.index.injEq] at heq
    obtain ⟨rfl, -⟩ := heq.1
    rw [List.mem_zipIdx_iff_getElem?] at hu hu'
    exact Prod.ext (Option.some.inj (hu.symm.trans hu')) rfl
  · simp only [Prod.exists, List.mem_zipIdx_iff_getElem?]
    constructor
    · rintro ⟨i, u, inner, hu, hinner, rfl⟩
      exact ⟨u, i, hu, inner, hinner, rfl⟩
    · rintro ⟨u, i, hu, inner, hinner, rfl⟩
      exact ⟨i, u, inner, hu, hinner, rfl⟩

include hs

private theorem enumerates_violations_name (name : String) : ∀ v : Tree,
    Enumerates ((read s (outline (.string name))).node.violations f v) (Flawed (.string name) v) := by
  induction name using name_induction with
  | hbase name h =>
    intro v
    by_cases hname : name ∈ primitives
    · obtain ⟨type, htype⟩ := ofName?_of_mem_primitives hname
      rw [outline_primitive hname, node_of_typed hs htype, Node.violations, violationsOfAll_singleton]
      exact (enumerates_type type).congr fun e => flawed_primitive_iff hname htype
    · rw [outline_literal h hname, node_of_enum hs, Node.violations, violationsOfAll_singleton]
      refine (enumerates_enum _).congr fun e => ?_
      rw [flawed_literal_iff h hname, List.forall_mem_singleton]
      cases v <;> simp [Tree.same]
  | hsuffix n ih =>
    intro v
    rw [node_outline_append hs, Node.violations, violationsOfAll, violationsOfAll_singleton]
    refine ((enumerates_type .array).append (enumerates_items ih) ?_).congr fun e => flawed_append_iff
    rintro e ⟨hv, -⟩ ⟨i, u, inner, hu, -⟩
    cases v <;> simp_all [TypeName.has, itemsOf, Tree.array?]

/-- The outline of shorthand finds all that is wrong with a value, each once. -/
theorem enumerates_violations_outline {t : Tree} (h : IsPlain t) : ∀ v : Tree,
    Enumerates ((read s (outline t)).node.violations f v) (Flawed t v) := by
  induction h with
  | string name => exact enumerates_violations_name hs name
  | array literals =>
    intro v
    rw [outline_array, node_of_enum hs, Node.violations, violationsOfAll_singleton]
    exact (enumerates_enum literals).congr fun e => flawed_array_iff
  | @object ms hfull hkeys hms ih =>
    intro v
    rw [node_outline_object hs hfull fun m hm => (hms m hm).isShorthand, Node.violations, violationsOfAll_append,
      violationsOfAll, violationsOfAll_map, violationsOfAll_singleton]
    have hmembers : Enumerates (ms.flatMap fun m =>
        (Rule.property m.1 (read s (outline m.2)).node).violations f v) _ :=
      Enumerates.flatMap (List.Nodup.of_map _ hkeys) (fun m hm => enumerates_property (ih m hm)) ?_
    · refine ((((enumerates_type .object).append hmembers ?_)).append (enumerates_required hkeys) ?_).congr
        fun e => flawed_object_iff
      · rintro e ⟨hv, -⟩ ⟨m, hm, u, inner, hu, -⟩
        cases v <;> simp_all [TypeName.has, membersOf, Tree.object?]
      · rintro e (⟨hv, -⟩ | ⟨m, hm, u, inner, hu, -, rfl⟩) ⟨key, -, hobject, -, heq⟩
        · rw [hv] at hobject
          cases hobject
        · simp [deeper] at heq
    · -- what stands under a key is told under that key, and no key comes twice
      rintro m hm m' hm' _ ⟨u, inner, -, -, rfl⟩ ⟨u', inner', -, -, heq⟩
      simp only [deeper, Violation.mk.injEq, List.cons.injEq, Step.key.injEq] at heq
      exact List.inj_on_of_nodup_map hkeys hm hm' heq.1.1

end Outline

end YamlSchema.Shorthand
