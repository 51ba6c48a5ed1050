import YamlSchema.Proofs.Schema.Standalone
import YamlSchema.Proofs.Shorthand.Outline

/-!
# Shorthand is compiled

The outline of shorthand stands alone and refers to nothing.  It is a schema unless a null or a number stands in it, and
these are all that it ever demands (`demands_outline`); so it is compiled exactly if there is none
(`compile_inflate`, `compile_inflate_of_hasHole`).
-/

namespace YamlSchema.Shorthand

open Schema

/-! ### The tree -/

/-- The outline of a name is a mapping that names nothing. -/
theorem outline_string_spec (name : String) :
    ∃ ms, outline (.string name) = .object ms ∧ isAnonymous (.object ms) = true := by
  induction name using name_induction with
  | hbase name h =>
    by_cases hname : name ∈ primitives
    · exact ⟨_, outline_primitive hname, rfl⟩
    · exact ⟨_, outline_literal h hname, rfl⟩
  | hsuffix n _ => exact ⟨_, outline_append n, rfl⟩

/-- The outline of shorthand gives itself no name, and it is none. -/
private theorem outline_spec {t : Tree} (h : IsShorthand t) :
    isAnonymous (outline t) = true ∧ (outline t).isString = false := by
  cases h with
  | null => rw [outline_null]; exact ⟨rfl, rfl⟩
  | bool b => rw [outline_bool]; exact ⟨rfl, rfl⟩
  | number n => rw [outline_number]; exact ⟨rfl, rfl⟩
  | string name =>
    obtain ⟨ms, hms, hname⟩ := outline_string_spec name
    rw [hms]
    exact ⟨hname, rfl⟩
  | array literals => rw [outline_array]; exact ⟨rfl, rfl⟩
  | object hfull => rw [outline_object hfull]; exact ⟨rfl, rfl⟩

theorem isAnonymous_outline {t : Tree} (h : IsShorthand t) : isAnonymous (outline t) = true := (outline_spec h).1

private theorem standalone_outline_string (name : String) : Standalone (outline (.string name)) := by
  induction name using name_induction with
  | hbase name h =>
    by_cases hname : name ∈ primitives
    · rw [outline_primitive hname]; exact standalone_typed name
    · rw [outline_literal h hname]; exact standalone_enum _
  | hsuffix n ih =>
    obtain ⟨ms, hms, hname⟩ := outline_string_spec n
    rw [hms] at ih
    rw [outline_append, hms]
    exact standalone_items ih hname

theorem standalone_outline {t : Tree} (h : IsShorthand t) : Standalone (outline t) := by
  induction h with
  | null => rw [outline_null]; exact standalone_of_object?_eq_none rfl
  | bool b => rw [outline_bool]; exact standalone_of_object?_eq_none rfl
  | number n => rw [outline_number]; exact standalone_of_object?_eq_none rfl
  | string name => exact standalone_outline_string name
  | array literals => rw [outline_array]; exact standalone_enum literals
  | @object ms hfull _ hms ih =>
    rw [outline_object hfull]
    refine standalone_properties ?_ ?_ _
    · rw [List.forall_mem_map]; exact ih
    · rw [List.forall_mem_map]; exact fun m hm => isAnonymous_outline (hms m hm)

theorem ofName?_of_mem_primitives {name : String} (h : name ∈ primitives) :
    ∃ t, TypeName.ofName? name = some t := by
  simp only [primitives, List.mem_cons, List.not_mem_nil, or_false] at h
  rcases h with rfl | rfl | rfl
  · exact ⟨.string, by decide⟩
  · exact ⟨.number, by decide⟩
  · exact ⟨.boolean, by decide⟩

private theorem isSchema_outline_string (name : String) : IsSchema (outline (.string name)) := by
  induction name using name_induction with
  | hbase name h =>
    by_cases hname : name ∈ primitives
    · obtain ⟨t, ht⟩ := ofName?_of_mem_primitives hname
      rw [outline_primitive hname]
      exact isSchema_typed ht
    · rw [outline_literal h hname]; exact isSchema_enum _
  | hsuffix n ih => rw [outline_append]; exact isSchema_items ih

theorem isSchema_outline {t : Tree} (h : IsShorthand t) (hhole : ¬ HasHole t) : IsSchema (outline t) := by
  induction h with
  | null => exact absurd .null hhole
  | bool b => rw [outline_bool]; exact isSchema_bool b
  | number n => exact absurd (.number n) hhole
  | string name => exact isSchema_outline_string name
  | array literals => rw [outline_array]; exact isSchema_enum literals
  | @object ms hfull hkeys hms ih =>
    rw [outline_object hfull]
    refine isSchema_properties ?_ hkeys
    rw [List.forall_mem_map]
    exact fun m hm => ih m hm fun hinner => hhole (.member hm hinner)

/-! ### The rules -/

private theorem demandsOfAll_append (rules more : List Rule) :
    demandsOfAll (rules ++ more) = demandsOfAll rules ++ demandsOfAll more := by
  induction rules with
  | nil => simp [demandsOfAll]
  | cons r rest ih => rw [List.cons_append, demandsOfAll, demandsOfAll, ih, List.append_assoc]

private theorem demandsOfAll_property (ms : List (String × Tree)) (n : String × Tree → Node) :
    demandsOfAll (ms.map fun m => .property m.1 (n m)) = ms.flatMap fun m => (n m).demands := by
  induction ms with
  | nil => simp [demandsOfAll]
  | cons m rest ih => rw [List.map_cons, demandsOfAll, Rule.demands, ih, List.flatMap_cons]

section Rules

variable {s : Setting} (hs : s.draft = .draft7)

include hs

/-- The rules of a name with a suffix: a sequence whose items meet the name before it. -/
theorem node_outline_append (n : String) : (read s (outline (.string (n ++ "[]")))).node =
    .rules [.assertion "type" (.type [.array] true), .items (read s (outline (.string n))).node] := by
  obtain ⟨ms, hms, hname⟩ := outline_string_spec n
  rw [outline_append, hms, node_of_items hs hname]

/-- The rules of a mapping: it is one, what stands under a key meets its outline, and every key is there. -/
theorem node_outline_object {ms : List (String × Tree)} (hfull : isFullSchema ms = false)
    (hms : ∀ m ∈ ms, IsShorthand m.2) : (read s (outline (.object ms))).node =
      .rules (.assertion "type" (.type [.object] true) ::
        (ms.map fun m => .property m.1 (read s (outline m.2)).node) ++
          [.assertion "required" (.required (OrderedMap.keys ms))]) := by
  rw [outline_object hfull, node_of_properties hs, List.map_map]
  · rfl
  · refine isAnonymous_of_forall ?_
    rw [List.forall_mem_map]
    exact fun m hm => (outline_spec (hms m hm)).2
  · rw [List.forall_mem_map]
    exact fun m hm => isAnonymous_outline (hms m hm)

private theorem demands_outline_string (name : String) : (read s (outline (.string name))).node.demands = [] := by
  induction name using name_induction with
  | hbase name h =>
    by_cases hname : name ∈ primitives
    · obtain ⟨t, ht⟩ := ofName?_of_mem_primitives hname
      rw [outline_primitive hname, node_of_typed hs ht]
      simp [Node.demands, demandsOfAll, Rule.demands]
    · rw [outline_literal h hname, node_of_enum hs]
      simp [Node.demands, demandsOfAll, Rule.demands]
  | hsuffix n ih =>
    rw [node_outline_append hs, Node.demands]
    simp [demandsOfAll, Rule.demands, ih]

/-- The nulls and numbers in shorthand are all that its outline demands, and they demand that it is refused. -/
theorem demands_outline {t : Tree} (h : IsShorthand t) :
    (∀ d ∈ (read s (outline t)).node.demands, ∃ why, d = .fail why) ∧
      ((read s (outline t)).node.demands = [] ↔ ¬ HasHole t) := by
  induction h with
  | null =>
    rw [outline_null]
    have hdemands : (read s .null).node.demands =
      [.fail (.violation .null (.wrongType [.boolean, .object]))] := by simp [Schema.read, Node.demands]
    rw [hdemands]
    exact ⟨by simp, by simp [HasHole.null]⟩
  | number n =>
    rw [outline_number]
    have hdemands : (read s (.number n)).node.demands =
      [.fail (.violation (.number n) (.wrongType [.boolean, .object]))] := by simp [Schema.read, Node.demands]
    rw [hdemands]
    exact ⟨by simp, by simp [HasHole.number n]⟩
  | bool b =>
    rw [outline_bool]
    have hhole : ¬ HasHole (.bool b) := fun h => by cases h
    simp [Schema.read, Node.demands, hhole]
  | string name =>
    have hhole : ¬ HasHole (.string name) := fun h => by cases h
    rw [demands_outline_string hs]
    simp [hhole]
  | array literals =>
    have hhole : ¬ HasHole (.array literals) := fun h => by cases h
    rw [outline_array, node_of_enum hs]
    simp [Node.demands, demandsOfAll, Rule.demands, hhole]
  | @object ms hfull _ hms ih =>
    -- of the three keywords of a mapping only the properties hold schemas
    have hdemands : (read s (outline (.object ms))).node.demands =
        ms.flatMap fun m => (read s (outline m.2)).node.demands := by
      rw [node_outline_object hs hfull hms, Node.demands, List.cons_append, demandsOfAll, demandsOfAll_append,
        demandsOfAll_property]
      simp [demandsOfAll, Rule.demands]
    rw [hdemands]
    constructor
    · intro d hd
      obtain ⟨m, hm, hd⟩ := List.mem_flatMap.1 hd
      exact (ih m hm).1 d hd
    · rw [List.flatMap_eq_nil_iff]
      constructor
      · intro hnil hhole
        cases hhole with
        | member hm hinner => exact (ih _ hm).2.1 (hnil _ hm) hinner
      · exact fun hhole m hm => (ih m hm).2.2 fun hinner => hhole (.member hm hinner)

end Rules

/-! ### Compilation -/

section Compilation

variable {t : Tree} (references : References)

/-- Shorthand without nulls and numbers is compiled, whatever may be referred to. -/
theorem compile_inflate (h : IsShorthand t) (hhole : ¬ HasHole t) :
    Validator.compile references (inflate t) = .ok ⟨outline t,
      (read (Program.rootSetting rootUri (outline t)) (outline t)).node, []⟩ := by
  have hdemands := (demands_outline (draft_rootSetting rootUri (outline t)) h).2.2 hhole
  exact compileLowered_of_standalone (standalone_outline h) (isAnonymous_outline h) (isSchema_outline h hhole)
    hdemands

/-- Shorthand with a null or a number in it is refused. -/
theorem compile_inflate_of_hasHole (h : IsShorthand t) (hhole : HasHole t) :
    ∃ why, Validator.compile references (inflate t) = .error why := by
  obtain ⟨hfail, hnil⟩ := demands_outline (draft_rootSetting rootUri (outline t)) h
  cases hdemands : (read (Program.rootSetting rootUri (outline t)) (outline t)).node.demands with
  | nil => exact absurd hhole (hnil.1 hdemands)
  | cons d rest =>
    obtain ⟨why, rfl⟩ := hfail d (by rw [hdemands]; exact List.mem_cons_self ..)
    exact compileLowered_error_of_fail (isAnonymous_outline h) hdemands

end Compilation

end YamlSchema.Shorthand
