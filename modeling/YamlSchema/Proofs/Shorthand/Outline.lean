import Mathlib.Data.List.Basic
import YamlSchema.Proofs.Schema.Lowering

/-!
# Shorthand, written out and lowered

The `outline` of a shorthand schema is what is compiled of it.  Names are read from their end, one sequence for each
suffix `[]` (`name_induction`); a mapping keeps its keys and becomes a schema of properties (`outline_object`).
-/

namespace YamlSchema.Shorthand

open Schema (lower lowerMembers lowerMember lowerEach lowerEach_eq_map schemaKeywords schemaMapKeywords dropPseudoType
  isPseudoEnum)

/-! ### Shorthand -/

/-- A tree is shorthand at every place: no mapping in it is a full schema, and no key comes twice.  Nulls and numbers
have no meaning there, but nothing keeps one from writing them. -/
inductive IsShorthand : Tree → Prop
  | null : IsShorthand .null
  | bool (b : Bool) : IsShorthand (.bool b)
  | number (n : Number) : IsShorthand (.number n)
  | string (name : String) : IsShorthand (.string name)
  | array (literals : List Tree) : IsShorthand (.array literals)
  | object {ms : List (String × Tree)} (hfull : isFullSchema ms = false) (hkeys : (OrderedMap.keys ms).Nodup)
      (h : ∀ m ∈ ms, IsShorthand m.2) : IsShorthand (.object ms)

/-- A null or a number stands at some place of shorthand; literals are no such places. -/
inductive HasHole : Tree → Prop
  | null : HasHole .null
  | number (n : Number) : HasHole (.number n)
  | member {ms : List (String × Tree)} {m : String × Tree} (hm : m ∈ ms) (h : HasHole m.2) : HasHole (.object ms)

/-! ### Names -/

/-- A name without suffix. -/
def IsBase (name : String) : Prop := ∀ n, name ≠ n ++ "[]"

private theorem length_lt_of_eq_append {name n : String} (h : name = n ++ "[]") : n.length < name.length := by
  rw [h, String.length_append]
  have : "[]".length = 2 := by decide
  omega

/-- Every name is one without suffix, or it comes from a shorter one. -/
theorem name_induction {P : String → Prop} (hbase : ∀ name, IsBase name → P name)
    (hsuffix : ∀ n, P n → P (n ++ "[]")) (name : String) : P name := by
  induction hlength : name.length using Nat.strongRecOn generalizing name with
  | _ k ih =>
    by_cases h : IsBase name
    · exact hbase name h
    · obtain ⟨n, hn⟩ : ∃ n, name = n ++ "[]" := by simpa [IsBase] using h
      have hlt := length_lt_of_eq_append hn
      rw [hn]
      exact hsuffix n (ih n.length (by omega) n rfl)

theorem append_suffix_inj {n other : String} (h : n ++ "[]" = other ++ "[]") : n = other := by
  have hlist := congrArg String.toList h
  rw [String.toList_append, String.toList_append] at hlist
  exact String.toList_inj.1 (List.append_cancel_right hlist)

theorem ofName_append (n : String) : ofName (n ++ "[]") = sequenceOf (ofName n) := by
  have hreverse : (n ++ "[]").toList.reverse = ']' :: '[' :: n.toList.reverse := by
    rw [String.toList_append, List.reverse_append]
    rfl
  rw [ofName, hreverse, ofReversed, ofName]

theorem ofName_of_isBase {name : String} (h : IsBase name) : ofName name = ofBase name := by
  have hreversed : ∀ base, name.toList.reverse ≠ ']' :: '[' :: base := by
    intro base heq
    refine h (String.ofList base.reverse) (String.toList_inj.1 ?_)
    rw [String.toList_append, String.toList_ofList, ← List.reverse_reverse name.toList, heq]
    simp
  -- the second case of `ofReversed` is the one where no suffix is left
  rw [ofName, ofReversed.eq_2 _ (fun base => hreversed base), List.reverse_reverse, String.ofList_toList]

theorem isBase_of_mem_primitives {name : String} (h : name ∈ primitives) : IsBase name := by
  have hreverse : name.toList.reverse.head? ≠ some ']' := by
    revert name
    decide
  rintro n rfl
  rw [String.toList_append, List.reverse_append] at hreverse
  exact hreverse rfl

/-! ### Outlines -/

/-- A shorthand schema as it is compiled: written out, and without pseudo types. -/
def outline (t : Tree) : Tree := lower (inflate t)

section

attribute [local simp] inflate lower lowerMembers lowerMember schemaKeywords schemaMapKeywords dropPseudoType
  isPseudoEnum OrderedMap.get?

theorem outline_null : outline .null = .null := by simp [outline]

theorem outline_bool (b : Bool) : outline (.bool b) = .bool b := by simp [outline]

theorem outline_number (n : Number) : outline (.number n) = .number n := by simp [outline]

private theorem lower_choice (literals : List Tree) :
    lower (choice literals) = .object [("enum", .array literals)] := by
  simp [choice, OrderedMap.swapErase, Tree.isArray]

theorem outline_array (literals : List Tree) : outline (.array literals) = .object [("enum", .array literals)] := by
  rw [outline, inflate, lower_choice]

theorem outline_literal {name : String} (hbase : IsBase name) (hname : name ∉ primitives) :
    outline (.string name) = .object [("enum", .array [.string name])] := by
  rw [outline, inflate, ofName_of_isBase hbase, ofBase, if_neg hname, lower_choice]

theorem outline_primitive {name : String} (hname : name ∈ primitives) :
    outline (.string name) = .object [("type", .string name)] := by
  rw [outline, inflate, ofName_of_isBase (isBase_of_mem_primitives hname), ofBase, if_pos hname]
  simp [typed]

/-- A name becomes a mapping. -/
private theorem ofName_eq_object (name : String) : ∃ ms, ofName name = .object ms := by
  induction name using name_induction with
  | hbase name h =>
    rw [ofName_of_isBase h, ofBase]
    split
    · exact ⟨_, rfl⟩
    · exact ⟨_, rfl⟩
  | hsuffix n _ => exact ⟨_, ofName_append n⟩

theorem outline_append (n : String) : outline (.string (n ++ "[]")) =
    .object [("type", .string "array"), ("items", outline (.string n))] := by
  obtain ⟨ms, hms⟩ := ofName_eq_object n
  rw [outline, outline, inflate, inflate, ofName_append, hms]
  simp [sequenceOf, enumType]

theorem inflateMembers_eq_map (ms : List (String × Tree)) :
    inflateMembers ms = ms.map fun m => (m.1, inflate m.2) := by
  induction ms with
  | nil => rw [inflateMembers, List.map_nil]
  | cons m rest ih => rw [inflateMembers, ih, List.map_cons]

theorem outline_object {ms : List (String × Tree)} (hfull : isFullSchema ms = false) :
    outline (.object ms) = .object [("type", .string "object"),
      ("properties", .object (ms.map fun m => (m.1, outline m.2))),
      ("required", .array ((OrderedMap.keys ms).map .string))] := by
  have hmembers : lowerEach (inflateMembers ms) = ms.map fun m => (m.1, outline m.2) := by
    rw [inflateMembers_eq_map, lowerEach_eq_map, List.map_map]
    rfl
  rw [outline, inflate, hfull]
  simp [mappingOf, hmembers, enumType]

end

end YamlSchema.Shorthand
