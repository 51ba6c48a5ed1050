import YamlSchema.Schema.Evaluate

/-!
# When a rule finds nothing

Each rule finds no violation just if the values that it is about meet its condition.
-/

namespace YamlSchema.Schema

attribute [local simp] Node.violations Rule.violations violationsOfAll

variable {f : Follow} {v : Tree}

theorem violationsOfAll_eq_nil_iff {rules : List Rule} :
    violationsOfAll f rules v = [] ↔ ∀ r ∈ rules, r.violations f v = [] := by
  induction rules with
  | nil => simp
  | cons r rest ih => rw [violationsOfAll, List.append_eq_nil_iff, ih, List.forall_mem_cons]

theorem Node.violations_rules_eq_nil_iff {rules : List Rule} :
    (Node.rules rules).violations f v = [] ↔ ∀ r ∈ rules, r.violations f v = [] := by
  rw [Node.violations, violationsOfAll_eq_nil_iff]

theorem Node.violations_singleton_eq_nil_iff {r : Rule} :
    (Node.rules [r]).violations f v = [] ↔ r.violations f v = [] := by
  rw [Node.violations_rules_eq_nil_iff, List.forall_mem_singleton]

/-! ### Assertions -/

namespace Assertion

theorem when_eq_nil_iff {broken : Bool} {value : Tree} {cause : Cause} :
    when broken value cause = [] ↔ broken = false := by
  cases broken <;> simp [when]

theorem causes_type_eq_nil_iff {allowed : List TypeName} :
    (type allowed true).causes v = [] ↔ ∃ t ∈ allowed, t.has v = true := by
  simp [causes, when_eq_nil_iff]

theorem causes_enum_eq_nil_iff {options : List Tree} :
    (enum options).causes v = [] ↔ ∃ o ∈ options, v.same o = true := by
  simp [causes, when_eq_nil_iff]

theorem causes_required_eq_nil_iff {names : List String} {ms : List (String × Tree)} :
    (required names).causes (.object ms) = [] ↔ ∀ n ∈ names, n ∈ OrderedMap.keys ms := by
  simp [causes, missing, OrderedMap.contains_iff]

theorem causes_uniqueItems_eq_nil_iff {ts : List Tree} :
    uniqueItems.causes (.array ts) = [] ↔ hasRepeats ts = false := by
  simp [causes, when_eq_nil_iff]

end Assertion

/-! ### Rules -/

namespace Rule

theorem violations_assertion_eq_nil_iff {keyword : String} {a : Assertion} :
    (assertion keyword a).violations f v = [] ↔ a.causes v = [] := by
  rw [violations, List.map_eq_nil_iff]

theorem violations_type_eq_nil_iff {keyword : String} {allowed : List TypeName} :
    (assertion keyword (.type allowed true)).violations f v = [] ↔ ∃ t ∈ allowed, t.has v = true := by
  rw [violations_assertion_eq_nil_iff, Assertion.causes_type_eq_nil_iff]

theorem violations_reference_eq_nil_iff {keyword : String} {link : Link} :
    (reference keyword link).violations f v = [] ↔ f.violations link v = [] := by
  rw [violations, List.map_eq_nil_iff]

theorem violations_property_eq_nil_iff {name : String} {n : Node} :
    (property name n).violations f v = [] ↔
      ∀ t, OrderedMap.get? (membersOf v) name = some t → n.violations f t = [] := by
  rw [violations]
  cases OrderedMap.get? (membersOf v) name with
  | none => simp
  | some t => simp

/-- Items are looked at one by one, wherever they stand. -/
private theorem flatten_mapIdx_eq_nil_iff {α β : Type} {l : List α} {g : Nat → α → List β} {P : α → Prop}
    (h : ∀ i a, g i a = [] ↔ P a) : (l.mapIdx g).flatten = [] ↔ ∀ a ∈ l, P a := by
  induction l generalizing g with
  | nil => simp
  | cons a l ih =>
    rw [List.mapIdx_cons, List.flatten_cons, List.append_eq_nil_iff, h, ih fun i => h (i + 1)]
    simp

theorem violations_items_eq_nil_iff {n : Node} :
    (items n).violations f v = [] ↔ ∀ t ∈ itemsOf v, n.violations f t = [] := by
  rw [violations, flatten_mapIdx_eq_nil_iff]
  intro i t
  rw [List.map_eq_nil_iff]

theorem violations_itemsFrom_eq_nil_iff {keyword : String} {count : Nat} {n : Node} :
    (itemsFrom keyword count n).violations f v = [] ↔ ∀ t ∈ (itemsOf v).drop count, n.violations f t = [] := by
  rw [violations, flatten_mapIdx_eq_nil_iff]
  intro i t
  rw [List.map_eq_nil_iff]

/-- Some pairs hold nothing, neither a name on the left nor a violation on the right. -/
private theorem flatMap_append_eq_nil_iff {α β : Type} {l : List (Option α × List β)} {tail : List β}
    (h : tail = [] ↔ (l.filterMap fun p => p.1) = []) :
    (l.flatMap fun p => p.2) ++ tail = [] ↔ ∀ p ∈ l, p.1 = none ∧ p.2 = [] := by
  rw [List.append_eq_nil_iff, h, List.flatMap_eq_nil_iff, List.filterMap_eq_nil_iff]
  constructor
  · exact fun hall p hp => ⟨hall.2 p hp, hall.1 p hp⟩
  · exact fun hall => ⟨fun p hp => (hall p hp).2, fun p hp => (hall p hp).1⟩

/-- Every member meets the schemas with its name and those with a pattern in it, or else the one for all others. -/
theorem violations_members_eq_nil_iff {named : List (String × Node)} {patterned : List (Pattern × Node)}
    {others : Option Node} : (members named patterned others).violations f v = [] ↔ ∀ m ∈ membersOf v,
      if (violationsNamed f named m.1 m.2).isNone && (violationsMatching f patterned m.1 m.2).isNone then
        violationsIfAny f others m.2 = some []
      else (violationsNamed f named m.1 m.2).getD [] = [] ∧ (violationsMatching f patterned m.1 m.2).getD [] = [] := by
  simp only [violations]
  rw [flatMap_append_eq_nil_iff, List.forall_mem_map]
  · refine forall₂_congr fun m _ => ?_
    cases violationsNamed f named m.1 m.2 <;> cases violationsMatching f patterned m.1 m.2 <;>
      cases violationsIfAny f others m.2 <;> simp
  · split
    · rename_i hnone
      exact iff_of_true rfl (List.isEmpty_iff.1 hnone)
    · rename_i hsome
      exact iff_of_false (List.cons_ne_nil _ _) fun hnone => hsome (List.isEmpty_iff.2 hnone)

end Rule

end YamlSchema.Schema
