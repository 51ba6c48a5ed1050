import YamlSchema.Proofs.Schema.Position

/-!
# Mappings that shed the pseudo type

To `shed` the pseudo type is to drop it from the mappings at some pointers, whatever stands there.  Lowering sheds it at
the positions of schemas (`lower_eq_shed`), and does the same when some of these have shed it before (`lower_shed`); so
to lower twice is to lower once (`lower_lower`).
-/

namespace YamlSchema.Schema

mutual

/-- The tree after the mappings at some pointers have lost the type of the pseudo type, if they have it. -/
def shed (gone : Pointer → Bool) : Tree → Tree
  | .array items => .array (shedItems gone 0 items)
  | .object members =>
    .object (if gone [] then dropPseudoType (shedMembers gone members) else shedMembers gone members)
  | t => t

def shedItems (gone : Pointer → Bool) (i : Nat) : List Tree → List Tree
  | [] => []
  | t :: rest => shed (fun p => gone (.index i :: p)) t :: shedItems gone (i + 1) rest

def shedMembers (gone : Pointer → Bool) : List (String × Tree) → List (String × Tree)
  | [] => []
  | (key, t) :: rest => (key, shed (fun p => gone (.key key :: p)) t) :: shedMembers gone rest

end

theorem shedMembers_eq_mapWithKey (gone : Pointer → Bool) (members : OrderedMap Tree) :
    shedMembers gone members = members.mapWithKey fun key => shed fun p => gone (.key key :: p) := by
  induction members with
  | nil => rw [shedMembers, OrderedMap.mapWithKey, List.map_nil]
  | cons m rest ih => rw [shedMembers, ih, OrderedMap.mapWithKey, OrderedMap.mapWithKey, List.map_cons]

theorem shedItems_eq_mapIdx (gone : Pointer → Bool) (i : Nat) (items : List Tree) :
    shedItems gone i items = items.mapIdx fun j => shed fun p => gone (.index (i + j) :: p) := by
  induction items generalizing i with
  | nil => rw [shedItems, List.mapIdx_nil]
  | cons t rest ih =>
    rw [shedItems, ih, List.mapIdx_cons]
    simp only [Nat.add_zero, Nat.add_assoc, Nat.add_comm 1]

theorem shed_array (gone : Pointer → Bool) (items : List Tree) :
    shed gone (.array items) = .array (items.mapIdx fun i => shed fun p => gone (.index i :: p)) := by
  rw [shed, shedItems_eq_mapIdx]
  simp only [Nat.zero_add]

/-! ### Lowering after shedding -/

theorem isPseudoEnum_dropPseudoType {members : OrderedMap Tree} (h : (OrderedMap.keys members).Nodup) :
    isPseudoEnum (dropPseudoType members) = false := by
  cases hpseudo : isPseudoEnum members with
  | false => rw [dropPseudoType, hpseudo, if_neg Bool.false_ne_true, hpseudo]
  | true =>
    have htype : OrderedMap.get? (dropPseudoType members) "type" = none := by
      rw [get?_dropPseudoType h, hpseudo]
      rfl
    rw [isPseudoEnum, htype]
    rfl

theorem dropPseudoType_dropPseudoType {members : OrderedMap Tree} (h : (OrderedMap.keys members).Nodup) :
    dropPseudoType (dropPseudoType members) = dropPseudoType members := by
  conv_lhs => rw [dropPseudoType]
  rw [isPseudoEnum_dropPseudoType h, if_neg Bool.false_ne_true]

/-- Where lowering meets a schema the type is dropped anyway, so it does not matter whether it was there. -/
theorem Role.lower_shed {t : Tree} (h : t.HasDistinctKeys) : ∀ (role : Role) {gone : Pointer → Bool},
    (∀ p, gone p = true → (role.along p).isSchema = true) → role.lower (shed gone t) = role.lower t := by
  induction h with
  | null | bool _ | number _ | string _ =>
    intro role gone _
    rw [shed]
    all_goals simp
  | @array items _ ih =>
    intro role gone hgone
    rw [shed_array, Role.lower_array, Role.lower_array, List.mapIdx_mapIdx, Tree.array.injEq,
      List.mapIdx_eq_mapIdx_iff]
    exact fun i hi => ih _ (List.getElem_mem hi) _ fun p hp => hgone (.index i :: p) hp
  | @object members hnodup _ ih =>
    intro role gone hgone
    have hsame : role.lowerWithin (shedMembers gone members) = role.lowerWithin members := by
      rw [shedMembers_eq_mapWithKey, Role.lowerWithin, OrderedMap.mapWithKey_mapWithKey]
      exact OrderedMap.mapWithKey_congr fun m hm => ih m hm _ fun p hp => hgone (.key m.1 :: p) hp
    rw [shed, Role.lower_object, Role.lower_object]
    cases hself : gone [] with
    | false => rw [if_neg Bool.false_ne_true, hsame]
    | true =>
      -- a mapping that has shed the type itself is a schema, and would lose it again
      have hschema : role.isSchema = true := hgone [] hself
      have hkeys : (OrderedMap.keys (role.lowerWithin members)).Nodup := by rwa [keys_lowerWithin]
      have hdrop : role.lowerWithin (dropPseudoType (shedMembers gone members)) =
          dropPseudoType (role.lowerWithin members) := by
        rw [← hsame]
        exact (dropPseudoType_mapWithKey (fun _ => Role.shape_lower _) _).symm
      rw [hschema, if_pos rfl, if_pos rfl, if_pos rfl, hdrop, dropPseudoType_dropPseudoType hkeys]

theorem lower_shed {t : Tree} (h : t.HasDistinctKeys) {gone : Pointer → Bool}
    (hgone : ∀ p, gone p = true → IsSchemaPosition p) : lower (shed gone t) = lower t :=
  Role.lower_shed h .schema fun p hp => (hgone p hp).isSchema

/-! ### Lowering is shedding -/

/-- Lowering sheds the pseudo type where it meets a schema. -/
theorem Role.lower_eq_shed {t : Tree} (h : t.HasDistinctKeys) : ∀ role : Role,
    role.lower t = shed (fun p => (role.along p).isSchema) t := by
  induction h with
  | null | bool _ | number _ | string _ =>
    intro role
    rw [shed]
    all_goals simp [Role.lower_scalar]
  | array _ ih =>
    intro role
    rw [shed_array, Role.lower_array, Tree.array.injEq, List.mapIdx_eq_mapIdx_iff]
    exact fun i hi => ih _ (List.getElem_mem hi) _
  | @object members hnodup _ ih =>
    intro role
    have hmembers : role.lowerWithin members = shedMembers (fun p => (role.along p).isSchema) members := by
      rw [shedMembers_eq_mapWithKey]
      exact OrderedMap.mapWithKey_congr fun m hm => ih m hm _
    rw [shed, Role.lower_object, hmembers, Role.along_nil]

theorem lower_eq_shed {t : Tree} (h : t.HasDistinctKeys) : lower t = shed (fun p => (roleAt p).isSchema) t :=
  Role.lower_eq_shed h .schema

/-- What is lowered stays as it is. -/
theorem lower_lower {t : Tree} (h : t.HasDistinctKeys) : lower (lower t) = lower t := by
  conv_lhs => rw [lower_eq_shed h]
  exact lower_shed h fun p hp => isSchemaPosition_iff.2 hp

end YamlSchema.Schema
