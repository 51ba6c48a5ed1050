import Mathlib.Data.List.Induction
import YamlSchema.Proofs.Schema.Members
import YamlSchema.Proofs.Tree.Shape
import YamlSchema.Schema.Node

/-!
# The positions of schemas

A schema stands at the root, and a keyword of a schema holds further ones (`IsSchemaPosition`).  Read along a pointer,
that gives every place of a tree its `Role`: whether lowering meets a schema there, a keyword's list of schemas, a
mapping of names to schemas, or a literal (`isSchemaPosition_iff`).  What stands at a pointer of a lowered tree is what
stood there, lowered in its role, apart from the types that are lost on the way (`follow?_lower`).
-/

namespace YamlSchema.Schema

/-! ### Positions -/

/-- Where a schema stands: at the root, and where a keyword of a schema holds one, as its value, in a list or under a
name. -/
inductive IsSchemaPosition : Pointer → Prop
  | root : IsSchemaPosition []
  | value {p : Pointer} {keyword : String} (h : IsSchemaPosition p) (hkeyword : keyword ∈ schemaKeywords) :
      IsSchemaPosition (p ++ [.key keyword])
  | element {p : Pointer} {keyword : String} (h : IsSchemaPosition p) (hkeyword : keyword ∈ schemaKeywords) (i : Nat) :
      IsSchemaPosition (p ++ [.key keyword, .index i])
  | entry {p : Pointer} {keyword : String} (h : IsSchemaPosition p) (hkeyword : keyword ∈ schemaMapKeywords)
      (name : String) : IsSchemaPosition (p ++ [.key keyword, .key name])

/-- What lowering takes a place of a tree for. -/
inductive Role where
  /-- A schema. -/
  | schema
  /-- What a keyword holds: a schema, or a list of schemas. -/
  | schemas
  /-- A mapping of names to schemas. -/
  | named
  /-- Nothing that it looks into. -/
  | literal
  deriving DecidableEq

namespace Role

/-- The role of a child. -/
def within : Role → Step → Role
  | .schema, .key keyword | .schemas, .key keyword =>
    if keyword ∈ schemaKeywords then .schemas else if keyword ∈ schemaMapKeywords then .named else .literal
  | .schemas, .index _ | .named, .key _ => .schema
  | _, _ => .literal

/-- Whether a mapping in the role is a schema. -/
def isSchema : Role → Bool
  | .schema | .schemas => true
  | .named | .literal => false

/-- The role of what stands at a pointer. -/
def along (role : Role) (p : Pointer) : Role := p.foldl within role

@[simp] theorem along_nil (role : Role) : role.along [] = role := rfl

@[simp] theorem along_cons (role : Role) (s : Step) (p : Pointer) : role.along (s :: p) = (role.within s).along p := rfl

@[simp] theorem along_append (role : Role) (p q : Pointer) : role.along (p ++ q) = (role.along p).along q :=
  List.foldl_append

@[simp] theorem within_literal (s : Step) : Role.literal.within s = .literal := by cases s <;> rfl

theorem within_of_isSchema {role : Role} (h : role.isSchema = true) (keyword : String) :
    role.within (.key keyword) = Role.schema.within (.key keyword) := by
  cases role with
  | schema | schemas => rfl
  | named | literal => cases h

theorem within_of_mem {keyword : String} (h : keyword ∈ schemaKeywords) :
    Role.schema.within (.key keyword) = .schemas := if_pos h

theorem within_of_mem_map {keyword : String} (h : keyword ∈ schemaMapKeywords) :
    Role.schema.within (.key keyword) = .named := by
  have hapart : ∀ keyword ∈ schemaMapKeywords, keyword ∉ schemaKeywords := by decide
  rw [within, if_neg (hapart keyword h), if_pos h]

/-- How a place comes by its role: it is the value of a keyword, or an item or a member of one. -/
theorem exists_of_within {role : Role} {s : Step} (h : role.within s ≠ .literal) :
    (∃ keyword, s = .key keyword ∧ role.isSchema = true ∧
      (role.within s = .schemas ∧ keyword ∈ schemaKeywords ∨ role.within s = .named ∧ keyword ∈ schemaMapKeywords)) ∨
    role.within s = .schema ∧ (role = .schemas ∧ (∃ i, s = .index i) ∨ role = .named ∧ ∃ name, s = .key name) := by
  have hkeyword : ∀ keyword, Role.schema.within (.key keyword) ≠ .literal →
      Role.schema.within (.key keyword) = .schemas ∧ keyword ∈ schemaKeywords ∨
        Role.schema.within (.key keyword) = .named ∧ keyword ∈ schemaMapKeywords := by
    intro keyword hne
    by_cases hk : keyword ∈ schemaKeywords
    · exact .inl ⟨within_of_mem hk, hk⟩
    · by_cases hmap : keyword ∈ schemaMapKeywords
      · exact .inr ⟨within_of_mem_map hmap, hmap⟩
      · rw [within, if_neg hk, if_neg hmap] at hne
        exact absurd rfl hne
  cases role with
  | schema =>
    cases s with
    | key keyword => exact .inl ⟨keyword, rfl, rfl, hkeyword keyword h⟩
    | index i => exact absurd rfl h
  | schemas =>
    cases s with
    | key keyword => exact .inl ⟨keyword, rfl, rfl, hkeyword keyword h⟩
    | index i => exact .inr ⟨rfl, .inl ⟨rfl, i, rfl⟩⟩
  | named =>
    cases s with
    | key name => exact .inr ⟨rfl, .inr ⟨rfl, name, rfl⟩⟩
    | index i => exact absurd rfl h
  | literal => exact absurd (within_literal s) h

end Role

/-- The role of what stands at a pointer of a schema. -/
def roleAt (p : Pointer) : Role := Role.schema.along p

theorem roleAt_append (p q : Pointer) : roleAt (p ++ q) = (roleAt p).along q := Role.along_append _ p q

theorem IsSchemaPosition.isSchema {p : Pointer} (h : IsSchemaPosition p) : (roleAt p).isSchema = true := by
  induction h with
  | root => rfl
  | value _ hkeyword ih =>
    rw [roleAt_append, Role.along_cons, Role.within_of_isSchema ih, Role.within_of_mem hkeyword]
    rfl
  | element _ hkeyword i ih =>
    rw [roleAt_append, Role.along_cons, Role.within_of_isSchema ih, Role.within_of_mem hkeyword]
    rfl
  | entry _ hkeyword name ih =>
    rw [roleAt_append, Role.along_cons, Role.within_of_isSchema ih, Role.within_of_mem_map hkeyword]
    rfl

/-- What a role says of the way to it. -/
private def Role.Arises (p : Pointer) : Role → Prop
  | .schema => IsSchemaPosition p
  | .schemas => ∃ q keyword, p = q ++ [.key keyword] ∧ IsSchemaPosition q ∧ keyword ∈ schemaKeywords
  | .named => ∃ q keyword, p = q ++ [.key keyword] ∧ IsSchemaPosition q ∧ keyword ∈ schemaMapKeywords
  | .literal => True

private theorem Role.Arises.isSchemaPosition {p : Pointer} {role : Role} (h : role.Arises p)
    (hrole : role.isSchema = true) : IsSchemaPosition p := by
  cases role with
  | schema => exact h
  | schemas =>
    obtain ⟨q, keyword, rfl, hq, hkeyword⟩ := h
    exact hq.value hkeyword
  | named | literal => cases hrole

private theorem arises_roleAt (p : Pointer) : (roleAt p).Arises p := by
  induction p using List.reverseRecOn with
  | nil => exact .root
  | append_singleton p s ih =>
    have hrole : roleAt (p ++ [s]) = (roleAt p).within s := roleAt_append p [s]
    rw [hrole]
    by_cases hliteral : (roleAt p).within s = .literal
    · rw [hliteral]
      trivial
    rcases Role.exists_of_within hliteral with ⟨keyword, rfl, hschema, hheld⟩ | ⟨hs, hinner⟩
    · have hp := ih.isSchemaPosition hschema
      rcases hheld with ⟨hwithin, hkeyword⟩ | ⟨hwithin, hkeyword⟩
      · rw [hwithin]
        exact ⟨p, keyword, rfl, hp, hkeyword⟩
      · rw [hwithin]
        exact ⟨p, keyword, rfl, hp, hkeyword⟩
    · rw [hs]
      rcases hinner with ⟨hp, i, rfl⟩ | ⟨hp, name, rfl⟩
      · rw [hp] at ih
        obtain ⟨q, keyword, rfl, hq, hkeyword⟩ := ih
        rw [List.append_assoc]
        exact hq.element hkeyword i
      · rw [hp] at ih
        obtain ⟨q, keyword, rfl, hq, hkeyword⟩ := ih
        rw [List.append_assoc]
        exact hq.entry hkeyword name

/-- The positions of schemas are the places where lowering meets one. -/
theorem isSchemaPosition_iff {p : Pointer} : IsSchemaPosition p ↔ (roleAt p).isSchema = true :=
  ⟨IsSchemaPosition.isSchema, (arises_roleAt p).isSchemaPosition⟩

/-! ### Lowering in a role -/

/-- What becomes of a tree that stands in a role. -/
def Role.lower : Role → Tree → Tree
  | .schema, t => Schema.lower t
  | .schemas, .array items => .array (lowerItems items)
  | .schemas, t => Schema.lower t
  | .named, .object entries => .object (lowerEach entries)
  | .named, t => t
  | .literal, t => t

@[simp] theorem Role.lower_schema : Role.schema.lower = Schema.lower := rfl

@[simp] theorem Role.lower_literal : Role.literal.lower = id := rfl

/-- Lowering changes a scalar in no role. -/
theorem Role.lower_scalar (role : Role) {t : Tree} (hobject : ∀ members, t ≠ .object members)
    (harray : ∀ items, t ≠ .array items) : role.lower t = t := by
  cases t with
  | object members => exact absurd rfl (hobject members)
  | array items => exact absurd rfl (harray items)
  | _ => cases role <;> simp [Role.lower, Schema.lower]

theorem Role.shape_lower (role : Role) (t : Tree) : (role.lower t).shape = t.shape := by
  cases t with
  | object members => cases role <;> simp [Role.lower, Schema.lower, Tree.shape]
  | array items => cases role <;> simp [Role.lower, Schema.lower, Tree.shape, lowerItems_eq_map]
  | _ => rw [Role.lower_scalar role (by simp) (by simp)]

/-- The members of a mapping, each lowered in its own role. -/
def Role.lowerWithin (role : Role) (members : OrderedMap Tree) : OrderedMap Tree :=
  members.mapWithKey fun key => (role.within (.key key)).lower

theorem keys_lowerWithin (role : Role) (members : OrderedMap Tree) :
    OrderedMap.keys (role.lowerWithin members) = OrderedMap.keys members := OrderedMap.keys_mapWithKey ..

theorem lowerMember_eq (key : String) (t : Tree) : lowerMember key t = (Role.schema.within (.key key)).lower t := by
  rw [Role.within]
  split
  · rename_i hkey
    cases t <;> simp [lowerMember, Role.lower, lower, hkey]
  · rename_i hkey
    split
    · rename_i hmap
      cases t <;> simp [lowerMember, Role.lower, hkey, hmap]
    · rename_i hmap
      cases t <;> simp [lowerMember, Role.lower, hkey, hmap]

/-- A mapping is lowered in a role by lowering its members in theirs; if it is a schema it loses the pseudo type. -/
theorem Role.lower_object (role : Role) (members : OrderedMap Tree) : role.lower (.object members) =
    .object (if role.isSchema then dropPseudoType (role.lowerWithin members) else role.lowerWithin members) := by
  have hschema : lowerMembers members = Role.schema.lowerWithin members := by
    rw [lowerMembers_eq_map, Role.lowerWithin]
    exact congrArg members.mapWithKey (funext fun key => funext (lowerMember_eq key))
  cases role with
  | schema =>
    rw [Role.lower, Schema.lower, hschema]
    rfl
  | schemas =>
    rw [Role.lower, Schema.lower, hschema]
    · rfl
    · simp
  | named =>
    rw [Role.lower, lowerEach_eq_map]
    rfl
  | literal =>
    have hsame : Role.literal.lowerWithin members = members := List.map_id' members
    rw [Role.lower_literal, hsame]
    rfl

theorem Role.lower_array (role : Role) (items : List Tree) :
    role.lower (.array items) = .array (items.mapIdx fun i => (role.within (.index i)).lower) := by
  cases role with
  | schemas =>
    rw [Role.lower, lowerItems_eq_map, Tree.array.injEq, eq_comm, List.mapIdx_eq_iff]
    exact fun i => List.getElem?_map ..
  | schema | named | literal =>
    have hsame : (items.mapIdx fun _ => Role.literal.lower) = items := by simp [List.mapIdx_eq_iff]
    simpa [Role.lower, Schema.lower, Role.within] using hsame.symm

/-- The type and the literals tell the pseudo type by their shapes alone. -/
theorem isPseudoEnum_mapWithKey {f : String → Tree → Tree} (hf : ∀ key t, (f key t).shape = t.shape)
    (members : OrderedMap Tree) : isPseudoEnum (members.mapWithKey f) = isPseudoEnum members := by
  have htype : ∀ t, f "type" t = .string Shorthand.enumType ↔ t = .string Shorthand.enumType := fun t => by
    rw [← Tree.shape_eq_string_iff, hf, Tree.shape_eq_string_iff]
  have hliterals : (fun t => (f "enum" t).isArray) = Tree.isArray :=
    funext fun t => Tree.isArray_eq_of_shape (hf "enum" t)
  rw [isPseudoEnum, isPseudoEnum, OrderedMap.get?_mapWithKey, OrderedMap.get?_mapWithKey, Option.any_map, hliterals]
  cases OrderedMap.get? members "type" with
  | none => rfl
  | some t => simp [htype]

theorem dropPseudoType_mapWithKey {f : String → Tree → Tree} (hf : ∀ key t, (f key t).shape = t.shape)
    (members : OrderedMap Tree) : dropPseudoType (members.mapWithKey f) = (dropPseudoType members).mapWithKey f := by
  rw [dropPseudoType, dropPseudoType, isPseudoEnum_mapWithKey hf]
  split
  · exact OrderedMap.swapErase_mapWithKey f members "type"
  · rfl

theorem isPseudoEnum_lowerWithin (role : Role) (members : OrderedMap Tree) :
    isPseudoEnum (role.lowerWithin members) = isPseudoEnum members :=
  isPseudoEnum_mapWithKey (fun _ => Role.shape_lower _) members

theorem get?_dropPseudoType {members : OrderedMap Tree} (hnodup : (OrderedMap.keys members).Nodup) (key : String) :
    OrderedMap.get? (dropPseudoType members) key =
      if isPseudoEnum members && key = "type" then none else OrderedMap.get? members key := by
  rw [dropPseudoType]
  split
  · rename_i hpseudo
    simp [OrderedMap.get?_swapErase hnodup, hpseudo]
  · rename_i hpseudo
    simp [hpseudo]

/-- A child is lowered in its own role, unless it is the type of the pseudo type. -/
theorem step?_lower {t : Tree} (h : t.HasDistinctKeys) (role : Role) (s : Step) : (role.lower t).step? s =
    if role.isSchema && isPseudoEnum (membersOf t) && s = .key "type" then none
    else (t.step? s).map (role.within s).lower := by
  cases t with
  | object members =>
    rw [Role.lower_object]
    cases s with
    | index i => simp [Tree.step?]
    | key name =>
      have hkeys : (OrderedMap.keys (role.lowerWithin members)).Nodup := by
        rw [keys_lowerWithin]
        exact (Tree.hasDistinctKeys_object_iff.1 h).1
      have hmember : OrderedMap.get? (role.lowerWithin members) name =
          (OrderedMap.get? members name).map (role.within (.key name)).lower := OrderedMap.get?_mapWithKey ..
      cases role.isSchema with
      | true =>
        rw [if_pos rfl, Tree.step?, get?_dropPseudoType hkeys, isPseudoEnum_lowerWithin, hmember]
        simp [Tree.step?, membersOf, Tree.object?]
      | false => simp [Tree.step?, hmember]
  | array items =>
    rw [Role.lower_array]
    cases s with
    | key name => simp [Tree.step?]
    | index i => simp [Tree.step?, membersOf, Tree.object?]
  | _ =>
    rw [Role.lower_scalar role (by simp) (by simp), Tree.step?_scalar (by simp) (by simp), Option.map_none, ite_self]

/-- A pointer leads to the type of a mapping that has the pseudo type and stands where lowering meets a schema. -/
def LosesType (role : Role) (t : Tree) (p : Pointer) : Prop :=
  ∃ q u, p = q ++ [.key "type"] ∧ (role.along q).isSchema = true ∧ t.follow? q = some u ∧
    isPseudoEnum (membersOf u) = true

/-- The type of the pseudo type is a text. -/
theorem step?_type {t : Tree} (h : isPseudoEnum (membersOf t) = true) :
    t.step? (.key "type") = some (.string Shorthand.enumType) := by
  rw [isPseudoEnum, Bool.and_eq_true, decide_eq_true_eq] at h
  cases t with
  | object members => exact h.1
  | _ => simp [membersOf, Tree.object?] at h

/-- Below a child the same types are lost as in the child, in its own role. -/
theorem losesType_cons_iff {role : Role} {t u : Tree} {s : Step} {p : Pointer} (hu : t.step? s = some u)
    (hkept : (role.isSchema && isPseudoEnum (membersOf t) && s = .key "type") = false) :
    LosesType role t (s :: p) ↔ LosesType (role.within s) u p := by
  constructor
  · rintro ⟨q, w, hq, hrole, hw, hpseudo⟩
    cases q with
    | nil =>
      -- the type of the mapping itself is kept
      cases hw
      rw [List.nil_append, List.cons.injEq] at hq
      rw [Role.along_nil] at hrole
      simp [hrole, hpseudo, hq.1] at hkept
    | cons first q =>
      rw [List.cons_append, List.cons.injEq] at hq
      obtain ⟨rfl, rfl⟩ := hq
      rw [Tree.follow?_cons, hu, Option.bind_some] at hw
      exact ⟨q, w, rfl, hrole, hw, hpseudo⟩
  · rintro ⟨q, w, rfl, hrole, hw, hpseudo⟩
    exact ⟨s :: q, w, rfl, hrole, by rw [Tree.follow?_cons, hu, Option.bind_some, hw], hpseudo⟩

/-- What stands at a pointer of a lowered tree: nothing, where a type is lost, and else what stood there, lowered in its
role. -/
theorem follow?_lower {t : Tree} (h : t.HasDistinctKeys) (role : Role) (p : Pointer) :
    (LosesType role t p → (role.lower t).follow? p = none) ∧
      (¬ LosesType role t p → (role.lower t).follow? p = (t.follow? p).map (role.along p).lower) := by
  induction p generalizing t role with
  | nil =>
    refine ⟨?_, fun _ => rfl⟩
    rintro ⟨q, u, hq, -⟩
    simp at hq
  | cons s p ih =>
    rw [Tree.follow?_cons, Tree.follow?_cons, step?_lower h]
    cases hlost : role.isSchema && isPseudoEnum (membersOf t) && decide (s = .key "type") with
    | true =>
      rw [if_pos rfl, Option.bind_none]
      refine ⟨fun _ => rfl, fun hkept => ?_⟩
      simp only [Bool.and_eq_true, decide_eq_true_eq] at hlost
      obtain ⟨⟨hrole, hpseudo⟩, rfl⟩ := hlost
      rw [step?_type hpseudo, Option.bind_some]
      cases p with
      | nil => exact absurd ⟨[], t, rfl, hrole, rfl, hpseudo⟩ hkept
      | cons next p => rw [Tree.follow?_cons, Tree.step?_scalar (by simp) (by simp), Option.bind_none, Option.map_none]
    | false =>
      rw [if_neg Bool.false_ne_true]
      cases hu : t.step? s with
      | none => simp
      | some u =>
        rw [losesType_cons_iff hu hlost, Option.map_some, Option.bind_some, Option.bind_some, Role.along_cons]
        exact ih (h.step? hu) (role.within s)

end YamlSchema.Schema
