import YamlSchema.Proofs.Schema.Linking
import YamlSchema.Proofs.Schema.Shedding

/-!
# What lowering changes

Lowering takes the type away from the mappings of the pseudo type that stand where schemas do, and leaves all else as it
was (`lower_takes_types`).  A mapping keeps the order of its members, unless it loses its type and two or more members
stand behind that: the last of them takes its place (`keys_lower`).
-/

namespace YamlSchema.Schema

/-- The members of a mapping are those of the pseudo type. -/
structure HasPseudoType (members : OrderedMap Tree) : Prop where
  type : OrderedMap.get? members "type" = some (.string "enum")
  literals : ∃ literals, OrderedMap.get? members "enum" = some (.array literals)

theorem hasPseudoType_iff {members : OrderedMap Tree} : HasPseudoType members ↔ isPseudoEnum members = true := by
  rw [isPseudoEnum, Bool.and_eq_true, decide_eq_true_eq]
  constructor
  · rintro ⟨htype, literals, hliterals⟩
    exact ⟨htype, by rw [hliterals]; rfl⟩
  · rintro ⟨htype, hliterals⟩
    refine ⟨htype, ?_⟩
    cases henum : OrderedMap.get? members "enum" with
    | none => simp [henum] at hliterals
    | some t =>
      cases t with
      | array literals => exact ⟨literals, rfl⟩
      | _ => simp [henum, Tree.isArray] at hliterals

/-- A pointer leads to the type of a mapping of the pseudo type that stands where a schema does. -/
def LosesTypeAt (t : Tree) (p : Pointer) : Prop :=
  ∃ q members, p = q ++ [.key "type"] ∧ IsSchemaPosition q ∧ t.follow? q = some (.object members) ∧
    HasPseudoType members

theorem losesTypeAt_iff {t : Tree} {p : Pointer} : LosesTypeAt t p ↔ LosesType .schema t p := by
  constructor
  · rintro ⟨q, members, rfl, hq, hmembers, hpseudo⟩
    exact ⟨q, .object members, rfl, hq.isSchema, hmembers, hasPseudoType_iff.1 hpseudo⟩
  · rintro ⟨q, u, rfl, hq, hu, hpseudo⟩
    cases u with
    | object members => exact ⟨q, members, rfl, isSchemaPosition_iff.2 hq, hu, hasPseudoType_iff.2 hpseudo⟩
    | _ => simp [isPseudoEnum, membersOf, Tree.object?] at hpseudo

/-! ### Shapes -/

section

variable {t : Tree} (hkeys : t.HasDistinctKeys)

include hkeys

theorem shape?_lower (p : Pointer) : (LosesTypeAt t p → (lower t).shape? p = none) ∧
    (¬ LosesTypeAt t p → (lower t).shape? p = t.shape? p) := by
  obtain ⟨hlost, hkept⟩ := follow?_lower hkeys .schema p
  rw [losesTypeAt_iff, Tree.shape?, Tree.shape?]
  refine ⟨fun h => ?_, fun h => ?_⟩
  · rw [← Role.lower_schema, hlost h, Option.map_none]
  · rw [← Role.lower_schema, hkept h, Option.map_map]
    exact congrFun (congrArg _ (funext fun u => Role.shape_lower _ u)) _

/-- A mapping in a lowered tree was one before, which is lowered in its role. -/
theorem exists_of_follow?_lower {p : Pointer} {lowered : OrderedMap Tree}
    (h : (lower t).follow? p = some (.object lowered)) : ∃ members, t.follow? p = some (.object members) ∧
      (roleAt p).lower (.object members) = .object lowered := by
  obtain ⟨hlost, hkept⟩ := follow?_lower hkeys .schema p
  rw [Role.lower_schema] at hlost hkept
  by_cases hp : LosesType .schema t p
  · rw [hlost hp] at h
    cases h
  · rw [hkept hp, Option.map_eq_some_iff] at h
    obtain ⟨u, hu, hlower⟩ := h
    have hshape := Role.shape_lower (roleAt p) u
    rw [roleAt, hlower] at hshape
    cases u with
    | object members => exact ⟨members, hu, hlower⟩
    | _ => cases hshape

/-- A mapping is not lost but lowered in its role: what is lost is a text. -/
theorem follow?_lower_object {p : Pointer} {members : OrderedMap Tree} (hp : t.follow? p = some (.object members)) :
    (lower t).follow? p = some ((roleAt p).lower (.object members)) := by
  have hkept : ¬ LosesType .schema t p := by
    rintro ⟨q, u, rfl, -, hu, hpseudo⟩
    rw [Tree.follow?_append, hu, Option.bind_some, Tree.follow?_cons, step?_type hpseudo] at hp
    cases hp
  rw [← Role.lower_schema, (follow?_lower hkeys .schema p).2 hkept, hp, Option.map_some]
  rfl

/-- No schema that lowering met has the pseudo type any more. -/
theorem not_hasPseudoType_of_follow?_lower {p : Pointer} (hp : IsSchemaPosition p) {lowered : OrderedMap Tree}
    (h : (lower t).follow? p = some (.object lowered)) : ¬ HasPseudoType lowered := by
  obtain ⟨members, hmembers, hlower⟩ := exists_of_follow?_lower hkeys h
  have hdistinct := hkeys.follow? hmembers
  rw [Role.lower_object, hp.isSchema, if_pos rfl, Tree.object.injEq] at hlower
  have hnodup : (OrderedMap.keys ((roleAt p).lowerWithin members)).Nodup := by
    rw [keys_lowerWithin]
    exact (Tree.hasDistinctKeys_object_iff.1 hdistinct).1
  rw [hasPseudoType_iff, ← hlower, isPseudoEnum_dropPseudoType hnodup]
  exact Bool.false_ne_true

/-- Where no schema stands the pseudo type stays. -/
theorem exists_hasPseudoType_of_follow? {p : Pointer} (hp : ¬ IsSchemaPosition p) {members : OrderedMap Tree}
    (hmembers : t.follow? p = some (.object members)) (h : HasPseudoType members) :
    ∃ lowered, (lower t).follow? p = some (.object lowered) ∧ HasPseudoType lowered := by
  refine ⟨(roleAt p).lowerWithin members, ?_, ?_⟩
  · rw [follow?_lower_object hkeys hmembers, Role.lower_object, if_neg (mt isSchemaPosition_iff.2 hp)]
  · rw [hasPseudoType_iff, isPseudoEnum_lowerWithin]
    exact hasPseudoType_iff.1 h

/-- Lowering takes the types of the pseudo type where schemas stand, and leaves what stands at any other pointer; then
nothing is left to do for it. -/
theorem lower_takes_types : (lower t).HasDistinctKeys ∧
    (∀ p, (LosesTypeAt t p → (lower t).shape? p = none) ∧
      (¬ LosesTypeAt t p → (lower t).shape? p = t.shape? p)) ∧
    lower (lower t) = lower t ∧
    ∀ p lowered, IsSchemaPosition p → (lower t).follow? p = some (.object lowered) → ¬ HasPseudoType lowered :=
  ⟨hasDistinctKeys_lower hkeys, shape?_lower hkeys, lower_lower hkeys,
    fun _ _ hp h => not_hasPseudoType_of_follow?_lower hkeys hp h⟩

end

/-- The pseudo type as a property and as a default value. -/
def modeMembers : OrderedMap Tree :=
  [("type", .string "enum"), ("enum", .array [.string "dev"]), ("title", .string "Mode"), ("description", .string "")]

def modeSchema : Tree :=
  .object [("properties", .object [("mode", .object modeMembers)]), ("default", .object modeMembers)]

private theorem hasDistinctKeys_modeSchema : modeSchema.HasDistinctKeys := by
  simp [modeSchema, modeMembers, Tree.hasDistinctKeys_object_iff, Tree.hasDistinctKeys_array_iff,
    Tree.HasDistinctKeys.string, OrderedMap.keys]

private theorem hasPseudoType_modeMembers : HasPseudoType modeMembers := ⟨rfl, _, rfl⟩

private theorem isSchemaPosition_mode : IsSchemaPosition [.key "properties", .key "mode"] :=
  .entry .root (by decide) "mode"

/-- The property loses its type, and the default value keeps it. -/
theorem lower_takes_types_modeSchema :
    (lower modeSchema).shape? [.key "properties", .key "mode", .key "type"] = none ∧
      (lower modeSchema).shape? [.key "default", .key "type"] = some (.scalar (.string "enum")) ∧
      lower (lower modeSchema) = lower modeSchema := by
  obtain ⟨-, hshape, hidempotent, -⟩ := lower_takes_types hasDistinctKeys_modeSchema
  refine ⟨(hshape _).1 ?_, ((hshape _).2 ?_).trans rfl, hidempotent⟩
  · exact ⟨_, modeMembers, rfl, isSchemaPosition_mode, rfl, hasPseudoType_modeMembers⟩
  · rintro ⟨q, members, heq, hq, -⟩
    have happend : [.key "default"] ++ [.key "type"] = q ++ [.key "type"] := heq
    rw [← List.append_cancel_right happend] at hq
    exact absurd hq.isSchema (by decide)

/-! ### The order of members -/

/-- A mapping keeps its keys in every role, apart from the one that is erased. -/
theorem keys_of_lower {role : Role} {members lowered : OrderedMap Tree}
    (h : role.lower (.object members) = .object lowered) :
    (role.isSchema = true → isPseudoEnum members = true → ∀ before after,
      OrderedMap.keys members = before ++ "type" :: after → "type" ∉ before →
        OrderedMap.keys lowered = before ++ (after.getLast?.toList ++ after.dropLast)) ∧
    (¬ (role.isSchema = true ∧ isPseudoEnum members = true) → OrderedMap.keys lowered = OrderedMap.keys members) := by
  have hkeys := keys_lowerWithin role members
  rw [Role.lower_object, Tree.object.injEq, dropPseudoType, isPseudoEnum_lowerWithin] at h
  refine ⟨fun hrole hpseudo before after hsplit hbefore => ?_, fun hkept => ?_⟩
  · rw [if_pos hrole, if_pos hpseudo] at h
    rw [← hkeys] at hsplit
    rw [← h, OrderedMap.keys_swapErase hsplit hbefore]
  · rw [← h, ← hkeys]
    split
    · rename_i hrole
      rw [if_neg fun hpseudo => hkept ⟨hrole, hpseudo⟩]
    · rfl

/-- The members of a mapping stay in their order when a tree is lowered, and so do those of a schema that is compiled.
Only where the type of the pseudo type is lost, the last member takes its place; that changes the order just if it was
not the only one behind the type. -/
theorem keys_lower {t : Tree} (hkeys : t.HasDistinctKeys) {p : Pointer} {members : OrderedMap Tree}
    (hp : t.follow? p = some (.object members)) :
    ∃ lowered, (lower t).follow? p = some (.object lowered) ∧
      (∀ references c, Validator.compile references t = .ok c → c.schema.follow? p = some (.object lowered)) ∧
      (¬ (IsSchemaPosition p ∧ HasPseudoType members) → OrderedMap.keys lowered = OrderedMap.keys members) ∧
      (IsSchemaPosition p → HasPseudoType members → ∀ before after,
        OrderedMap.keys members = before ++ "type" :: after →
          OrderedMap.keys lowered = before ++ (after.getLast?.toList ++ after.dropLast) ∧
            ((OrderedMap.keys lowered).Sublist (OrderedMap.keys members) ↔ after.length ≤ 1)) := by
  have hlower := follow?_lower_object hkeys hp
  obtain ⟨lowered, hlowered⟩ : ∃ lowered, (roleAt p).lower (.object members) = .object lowered :=
    ⟨_, Role.lower_object ..⟩
  rw [hlowered] at hlower
  obtain ⟨herased, hsame⟩ := keys_of_lower hlowered
  refine ⟨lowered, hlower, fun references c hc => ?_, fun h => hsame fun hlost => ?_, fun hposition hpseudo => ?_⟩
  · rw [(Validator.exists_of_compile hc).1, hlower]
  · exact h ⟨isSchemaPosition_iff.2 hlost.1, hasPseudoType_iff.2 hlost.2⟩
  · intro before after hsplit
    have hnodup : (before ++ "type" :: after).Nodup := by
      rw [← hsplit]
      exact (Tree.hasDistinctKeys_object_iff.1 (hkeys.follow? hp)).1
    have hbefore : "type" ∉ before := fun h =>
      (List.nodup_append.1 hnodup).2.2 "type" h "type" (List.mem_cons_self ..) rfl
    have heq := herased hposition.isSchema (hasPseudoType_iff.1 hpseudo) before after hsplit hbefore
    rw [heq, hsplit]
    exact ⟨rfl, OrderedMap.sublist_swapErase_iff hnodup⟩

/-- The last member comes first, so the members are not in their order any more. -/
theorem keys_lower_modeSchema : ∃ lowered,
    (lower modeSchema).follow? [.key "properties", .key "mode"] = some (.object lowered) ∧
      OrderedMap.keys lowered = ["description", "enum", "title"] ∧
      ¬ (OrderedMap.keys lowered).Sublist (OrderedMap.keys modeMembers) := by
  have hmode : modeSchema.follow? [.key "properties", .key "mode"] = some (.object modeMembers) := rfl
  obtain ⟨lowered, hlowered, -, -, horder⟩ := keys_lower hasDistinctKeys_modeSchema hmode
  obtain ⟨hkeys, hsublist⟩ :=
    horder isSchemaPosition_mode hasPseudoType_modeMembers [] ["enum", "title", "description"] rfl
  exact ⟨lowered, hlowered, hkeys, fun h => absurd (hsublist.1 h) (by decide)⟩

end YamlSchema.Schema
