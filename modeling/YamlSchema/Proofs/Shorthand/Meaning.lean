import YamlSchema.Proofs.Schema.Rules
import YamlSchema.Proofs.Shorthand.Compilation

/-!
# What shorthand means

`Matches` says which values a shorthand schema describes.  The schema that is compiled of it finds nothing wrong with
exactly these (`check_inflate_iff_matches`), whatever other schemas may be referred to.
-/

namespace YamlSchema.Shorthand

open Schema

/-- A value is as a shorthand schema describes it. -/
inductive Matches : Tree → Tree → Prop
  | text (s : String) : Matches (.string "string") (.string s)
  | number (n : Number) : Matches (.string "number") (.number n)
  | truth (b : Bool) : Matches (.string "boolean") (.bool b)
  /-- A name with a suffix describes sequences of what the name before it describes. -/
  | each {name : String} {items : List Tree} (h : ∀ t ∈ items, Matches (.string name) t) :
      Matches (.string (name ++ "[]")) (.array items)
  /-- Any other name describes itself. -/
  | itself {name : String} (hbase : IsBase name) (hname : name ∉ primitives) :
      Matches (.string name) (.string name)
  | choice {literals : List Tree} {literal v : Tree} (hliteral : literal ∈ literals) (h : v.same literal = true) :
      Matches (.array literals) v
  | anything (v : Tree) : Matches (.bool true) v
  /-- Every key is there, and what stands under it is as described; other keys may be there too. -/
  | members {ms vs : List (String × Tree)} (hkeys : ∀ m ∈ ms, m.1 ∈ OrderedMap.keys vs)
      (h : ∀ m ∈ ms, ∀ v, OrderedMap.get? vs m.1 = some v → Matches m.2 v) : Matches (.object ms) (.object vs)

/-! ### What each form describes -/

theorem matches_primitive_iff {name : String} {t : TypeName} (hname : name ∈ primitives)
    (ht : TypeName.ofName? name = some t) {v : Tree} : Matches (.string name) v ↔ t.has v = true := by
  constructor
  · intro h
    generalize hs : Tree.string name = s at h
    cases h with
    | text | number | truth =>
      rw [Tree.string.inj hs] at ht
      cases ht
      rfl
    | each => exact absurd (Tree.string.inj hs) (isBase_of_mem_primitives hname _)
    | itself _ hother =>
      rw [Tree.string.inj hs] at hname
      exact absurd hname hother
    | choice | anything | members => cases hs
  · intro h
    simp only [primitives, List.mem_cons, List.not_mem_nil, or_false] at hname
    rcases hname with rfl | rfl | rfl <;> cases ht <;> cases v <;> simp [TypeName.has] at h
    · exact .text _
    · exact .number _
    · exact .truth _

theorem matches_append_iff {name : String} {v : Tree} :
    Matches (.string (name ++ "[]")) v ↔ ∃ items, v = .array items ∧ ∀ t ∈ items, Matches (.string name) t := by
  constructor
  · intro h
    generalize hs : Tree.string (name ++ "[]") = s at h
    cases h with
    | text | number | truth =>
      exact absurd (Tree.string.inj hs).symm (isBase_of_mem_primitives (by decide) name)
    | @each other items h =>
      rw [append_suffix_inj (Tree.string.inj hs)]
      exact ⟨items, rfl, h⟩
    | itself hbase => exact absurd (Tree.string.inj hs).symm (hbase name)
    | choice | anything | members => cases hs
  · rintro ⟨items, rfl, h⟩
    exact .each h

theorem matches_literal_iff {name : String} (hbase : IsBase name) (hname : name ∉ primitives) {v : Tree} :
    Matches (.string name) v ↔ v = .string name := by
  constructor
  · intro h
    generalize hs : Tree.string name = s at h
    cases h with
    | text | number | truth => exact absurd (by rw [Tree.string.inj hs]; decide) hname
    | each h => exact absurd (Tree.string.inj hs) (hbase _)
    | itself => rfl
    | choice | anything | members => cases hs
  · rintro rfl
    exact .itself hbase hname

theorem matches_array_iff {literals : List Tree} {v : Tree} :
    Matches (.array literals) v ↔ ∃ literal ∈ literals, v.same literal = true := by
  constructor
  · intro h
    cases h with
    | choice hliteral h => exact ⟨_, hliteral, h⟩
  · rintro ⟨literal, hliteral, h⟩
    exact .choice hliteral h

theorem matches_object_iff {ms : List (String × Tree)} {v : Tree} :
    Matches (.object ms) v ↔ ∃ vs, v = .object vs ∧ (∀ m ∈ ms, m.1 ∈ OrderedMap.keys vs) ∧
      ∀ m ∈ ms, ∀ u, OrderedMap.get? vs m.1 = some u → Matches m.2 u := by
  constructor
  · intro h
    cases h with
    | members hkeys h => exact ⟨_, rfl, hkeys, h⟩
  · rintro ⟨vs, rfl, hkeys, h⟩
    exact .members hkeys h

theorem matches_bool_iff {b : Bool} {v : Tree} : Matches (.bool b) v ↔ b = true := by
  constructor
  · intro h
    cases h
    rfl
  · rintro rfl
    exact .anything v

/-! ### What its outline finds -/

section Outline

variable {s : Setting} (hs : s.draft = .draft7) {f : Follow}

include hs

private theorem violations_primitive_iff {name : String} {t : TypeName} (hname : name ∈ primitives)
    (ht : TypeName.ofName? name = some t) {v : Tree} :
    (read s (outline (.string name))).node.violations f v = [] ↔ t.has v = true := by
  rw [outline_primitive hname, node_of_typed hs ht, Node.violations_singleton_eq_nil_iff,
    Rule.violations_type_eq_nil_iff]
  simp

private theorem violations_enum_iff {literals : List Tree} {v : Tree} :
    (read s (.object [("enum", .array literals)])).node.violations f v = [] ↔
      ∃ literal ∈ literals, v.same literal = true := by
  rw [node_of_enum hs, Node.violations_singleton_eq_nil_iff, Rule.violations_assertion_eq_nil_iff,
    Assertion.causes_enum_eq_nil_iff]

private theorem violations_base_iff {name : String} (hbase : IsBase name) {v : Tree} :
    (read s (outline (.string name))).node.violations f v = [] ↔ Matches (.string name) v := by
  by_cases hname : name ∈ primitives
  · obtain ⟨t, ht⟩ := ofName?_of_mem_primitives hname
    rw [violations_primitive_iff hs hname ht, matches_primitive_iff hname ht]
  · rw [outline_literal hbase hname, violations_enum_iff hs, matches_literal_iff hbase hname]
    simp only [List.mem_singleton, exists_eq_left]
    cases v <;> simp [Tree.same]

private theorem violations_name_iff (name : String) : ∀ v : Tree,
    (read s (outline (.string name))).node.violations f v = [] ↔ Matches (.string name) v := by
  induction name using name_induction with
  | hbase name hbase => exact fun v => violations_base_iff hs hbase
  | hsuffix n ih =>
    intro v
    rw [node_outline_append hs, Node.violations_rules_eq_nil_iff, List.forall_mem_cons,
      List.forall_mem_singleton, Rule.violations_type_eq_nil_iff, Rule.violations_items_eq_nil_iff, matches_append_iff]
    cases v <;> simp [TypeName.has, itemsOf, Tree.array?, ih]

/-- The outline of shorthand finds nothing wrong with exactly the values that the shorthand describes. -/
theorem violations_outline_eq_nil_iff {t : Tree} (h : IsShorthand t) (hhole : ¬ HasHole t) : ∀ v : Tree,
    (read s (outline t)).node.violations f v = [] ↔ Matches t v := by
  induction h with
  | null => exact absurd .null hhole
  | number n => exact absurd (.number n) hhole
  | bool b =>
    intro v
    rw [outline_bool, matches_bool_iff]
    cases b <;> simp [Schema.read, Node.violations]
  | string name => exact violations_name_iff hs name
  | array literals =>
    intro v
    rw [outline_array, violations_enum_iff hs, matches_array_iff]
  | @object ms hfull _ hms ih =>
    intro v
    have hinner : ∀ m ∈ ms, ∀ u, (read s (outline m.2)).node.violations f u = [] ↔ Matches m.2 u :=
      fun m hm => ih m hm fun hinner => hhole (.member hm hinner)
    rw [node_outline_object hs hfull hms, Node.violations_rules_eq_nil_iff, List.cons_append,
      List.forall_mem_cons, List.forall_mem_append, List.forall_mem_map, List.forall_mem_singleton,
      Rule.violations_type_eq_nil_iff, Rule.violations_assertion_eq_nil_iff, matches_object_iff]
    cases v with
    | object vs =>
      rw [Assertion.causes_required_eq_nil_iff, OrderedMap.keys, List.forall_mem_map]
      simp only [Rule.violations_property_eq_nil_iff]
      constructor
      · rintro ⟨-, hproperties, hkeys⟩
        exact ⟨vs, rfl, hkeys, fun m hm u hu => (hinner m hm u).1 (hproperties m hm u hu)⟩
      · rintro ⟨_, hvs, hkeys, hmembers⟩
        cases hvs
        exact ⟨⟨.object, by simp, rfl⟩, fun m hm u hu => (hinner m hm u).2 (hmembers m hm u hu), hkeys⟩
    | _ => simp [TypeName.has]

end Outline

/-! ### Validation -/

/-- Shorthand is compiled, whatever may be referred to, and an instance is found valid exactly if it is as described;
where a null or a number stands in it, it is refused. -/
theorem check_inflate_iff_matches (references : References) {t : Tree} (h : IsShorthand t) :
    (¬ HasHole t → ∃ c, Validator.compile references (inflate t) = .ok c ∧ ∀ v, c.check v = [] ↔ Matches t v) ∧
      (HasHole t → ∃ why, Validator.compile references (inflate t) = .error why) := by
  refine ⟨fun hhole => ⟨_, compile_inflate references h hhole, fun v => ?_⟩, compile_inflate_of_hasHole references h⟩
  rw [Validator.check, List.map_eq_nil_iff, Program.violations]
  exact violations_outline_eq_nil_iff (draft_rootSetting _ _) h hhole v

/-- A list of texts under a key that looks like a reference; a null in its place. -/
theorem check_inflate_of_texts :
    (∃ c, Validator.compile [] (inflate (.object [("$ref", .string "string[]")])) = .ok c ∧
      c.check (.object [("$ref", .array [.string "a"]), ("other", .null)]) = [] ∧
      c.check (.object [("$ref", .array [.bool true])]) ≠ []) ∧
    ∃ why, Validator.compile [] (inflate (.object [("$ref", .null)])) = .error why := by
  have htexts : IsShorthand (.object [("$ref", .string "string[]")]) :=
    .object (by decide) (by decide) (by rw [List.forall_mem_singleton]; exact .string _)
  have hnull : IsShorthand (.object [("$ref", .null)]) :=
    .object (by decide) (by decide) (by rw [List.forall_mem_singleton]; exact .null)
  have hwhole : ¬ HasHole (.object [("$ref", .string "string[]")]) := by
    intro h
    cases h with
    | member hm h =>
      rw [List.mem_singleton] at hm
      subst hm
      cases h
  obtain ⟨c, hc, hcheck⟩ := (check_inflate_iff_matches [] htexts).1 hwhole
  have hname : "string[]" = "string" ++ "[]" := by decide
  have hstring : ∀ v, Matches (.string "string") v ↔ TypeName.string.has v = true :=
    fun v => matches_primitive_iff (by decide) (by decide)
  have hitems : ∀ v, Matches (.string "string[]") v ↔ ∃ items, v = .array items ∧
      ∀ t ∈ items, Matches (.string "string") t := fun v => by rw [hname, matches_append_iff]
  refine ⟨⟨c, hc, ?_, fun hnil => ?_⟩,
    (check_inflate_iff_matches [] hnull).2 (.member (List.mem_singleton_self _) .null)⟩
  · rw [hcheck, matches_object_iff]
    refine ⟨_, rfl, by simp [OrderedMap.keys], ?_⟩
    simp [OrderedMap.get?, hitems, hstring, TypeName.has]
  · rw [hcheck, matches_object_iff] at hnil
    obtain ⟨vs, hvs, -, h⟩ := hnil
    cases hvs
    simp [OrderedMap.get?, hitems, hstring, TypeName.has] at h

end YamlSchema.Shorthand
