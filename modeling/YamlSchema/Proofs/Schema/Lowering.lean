import YamlSchema.Proofs.Tree.RoundTrip
import YamlSchema.Schema.Lowering

/-!
# Lowered schemas

Lowering goes through the members and items of a schema one by one (`lowerMembers_eq_map`).  No mapping in it gets a key
twice (`hasDistinctKeys_lower`).
-/

namespace YamlSchema

namespace OrderedMap

variable {α : Type}

theorem swapErase_perm (m : OrderedMap α) (key : String) : (swapErase m key).Perm (m.eraseP fun e => e.1 = key) := by
  induction m with
  | nil => exact .nil
  | cons e rest ih =>
    obtain ⟨k, v⟩ := e
    by_cases hk : k = key
    · rw [swapErase, if_pos hk, List.eraseP_cons_of_pos (by simpa using hk)]
      rcases List.eq_nil_or_concat' rest with rfl | ⟨init, last, rfl⟩
      · exact .nil
      · rw [List.getLast?_concat, List.dropLast_concat]
        exact (List.perm_append_singleton last init).symm
    · rw [swapErase, if_neg hk, List.eraseP_cons_of_neg (by simpa using hk)]
      exact ih.cons (k, v)

end OrderedMap

namespace Schema

open Tree (HasDistinctKeys)

private theorem hasDistinctKeys_dropPseudoType {members : OrderedMap Tree} (h : (Tree.object members).HasDistinctKeys) :
    (Tree.object (dropPseudoType members)).HasDistinctKeys := by
  rw [dropPseudoType]
  split
  · cases h with
    | object hkeys hmembers =>
      have hperm := OrderedMap.swapErase_perm members "type"
      have hsublist := List.eraseP_sublist (p := fun e => decide (e.1 = "type")) (l := members)
      refine .object ?_ fun m hm => hmembers m (hsublist.subset (hperm.subset hm))
      exact (hperm.map Prod.fst).nodup_iff.2 ((hsublist.map Prod.fst).nodup hkeys)
  · exact h

theorem lowerMembers_eq_map (members : OrderedMap Tree) :
    lowerMembers members = members.map fun m => (m.1, lowerMember m.1 m.2) := by
  induction members with
  | nil => rw [lowerMembers, List.map_nil]
  | cons m rest ih => rw [lowerMembers, ih, List.map_cons]

theorem lowerEach_eq_map (entries : OrderedMap Tree) : lowerEach entries = entries.map fun m => (m.1, lower m.2) := by
  induction entries with
  | nil => rw [lowerEach, List.map_nil]
  | cons m rest ih => rw [lowerEach, ih, List.map_cons]

theorem lowerItems_eq_map (items : List Tree) : lowerItems items = items.map lower := by
  induction items with
  | nil => rw [lowerItems, List.map_nil]
  | cons t rest ih => rw [lowerItems, ih, List.map_cons]

private theorem hasDistinctKeys_map {members : OrderedMap Tree} (hkeys : (OrderedMap.keys members).Nodup)
    (f : String × Tree → Tree) (h : ∀ m ∈ members, (f m).HasDistinctKeys) :
    (Tree.object (members.map fun m => (m.1, f m))).HasDistinctKeys := by
  refine .object ?_ (List.forall_mem_map.2 h)
  rwa [OrderedMap.keys, List.map_map]

/-- Lowering gives no mapping a key twice, in whatever way a keyword holds it. -/
private theorem hasDistinctKeys_lower_and_lowerMember {t : Tree} (h : t.HasDistinctKeys) :
    (lower t).HasDistinctKeys ∧ ∀ key, (lowerMember key t).HasDistinctKeys := by
  induction h with
  | array hitems ih =>
    refine ⟨.array hitems, fun key => ?_⟩
    rw [lowerMember]
    split
    · rw [lowerItems_eq_map]
      exact .array (List.forall_mem_map.2 fun t ht => (ih t ht).1)
    · exact .array hitems
  | @object members hkeys hmembers ih =>
    have hlowered : (Tree.object (dropPseudoType (lowerMembers members))).HasDistinctKeys := by
      rw [lowerMembers_eq_map]
      exact hasDistinctKeys_dropPseudoType (hasDistinctKeys_map hkeys _ fun m hm => (ih m hm).2 m.1)
    refine ⟨by rwa [lower], fun key => ?_⟩
    rw [lowerMember]
    split
    · exact hlowered
    split
    · rw [lowerEach_eq_map]
      exact hasDistinctKeys_map hkeys _ fun m hm => (ih m hm).1
    · exact .object hkeys hmembers
  | null => exact ⟨.null, fun _ => .null⟩
  | bool b => exact ⟨.bool b, fun _ => .bool b⟩
  | number n => exact ⟨.number n, fun _ => .number n⟩
  | string s => exact ⟨.string s, fun _ => .string s⟩

theorem hasDistinctKeys_lower {t : Tree} (h : t.HasDistinctKeys) : (lower t).HasDistinctKeys :=
  (hasDistinctKeys_lower_and_lowerMember h).1

end Schema

end YamlSchema
