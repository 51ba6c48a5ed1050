import YamlSchema.Proofs.Registry.Batch

/-!
# References mirror the registered schemas

A registry is reached by `Call`s, whatever they answer.  `Mirrors` says that its references are the canonical trees of
its schemas, no more and no less; every call keeps that (`Mirrors.step`), also one that fails half-way, so it holds of
every registry that is reached (`mirrors_after`).
-/

namespace YamlSchema

open Schema (References Validator)

namespace Registry

/-! ### Calls -/

/-- A call that can register schemas; the files may be others at each call. -/
inductive Call where
  | register (fs : FileSystem) (path : String)
  | registerDocument (d : Document)
  | load (fs : FileSystem) (paths : List String)

/-- The registry behind a call, whatever the call answers. -/
def step (r : Registry) : Call → Registry
  | .register fs path => (r.register fs path).1
  | .registerDocument d => (r.registerDocument d).1
  | .load fs paths => (r.load fs paths).1

/-- The registry behind some calls. -/
def after (calls : List Call) : Registry := calls.foldl step empty

theorem after_append_singleton (calls : List Call) (call : Call) :
    after (calls ++ [call]) = (after calls).step call := by
  simp [after, List.foldl_append]

/-- What every call keeps holds of every registry that is reached. -/
theorem after_induction {P : Registry → Prop} (hempty : P empty) (hstep : ∀ r call, P r → P (r.step call))
    (calls : List Call) : P (after calls) :=
  List.foldlRecOn calls step hempty fun r hr call _ => hstep r call hr

/-! ### The invariant -/

/-- The references are the canonical trees of the schemas, each of which stands under its own identifier. -/
structure Mirrors (r : Registry) : Prop where
  references : ∀ id, OrderedMap.get? r.references id = (r.get? id).map Registered.canonical
  ownId : ∀ id s, r.get? id = some s → s.id = id
  schemaIds : (OrderedMap.keys r.schemas).Nodup
  referenceIds : (OrderedMap.keys r.references).Nodup

theorem Mirrors.empty : Mirrors empty := ⟨fun _ => rfl, by simp [get?, Registry.empty], List.nodup_nil, List.nodup_nil⟩

/-- One schema under a free identifier: it is registered and may be referred to, or neither. -/
theorem Mirrors.commit_announce {r : Registry} (h : Mirrors r) {s : Staged} (hfree : r.get? s.id = none) :
    Mirrors ((r.announce s).commit s).1 := by
  have hrefs := OrderedMap.nodup_keys_insert h.referenceIds s.id s.canonical
  unfold commit
  split
  · rename_i validator _
    refine ⟨fun id => ?_, fun id t ht => ?_, OrderedMap.nodup_keys_insert h.schemaIds _ _, hrefs⟩
    · by_cases hid : id = s.id
      · subst hid; simp [get?, announce]
      · have := h.references id
        simp only [get?, announce] at this ⊢
        rw [OrderedMap.get?_insert_of_ne _ _ hid, OrderedMap.get?_insert_of_ne _ _ hid, this]
    · by_cases hid : id = s.id
      · subst hid
        simp only [get?, announce, OrderedMap.get?_insert_self, Option.some.injEq] at ht
        rw [← ht]
      · simp only [get?, announce] at ht
        rw [OrderedMap.get?_insert_of_ne _ _ hid] at ht
        exact h.ownId id t ht
  · refine ⟨fun id => ?_, h.ownId, h.schemaIds, OrderedMap.nodup_keys_filter hrefs _⟩
    have := h.references id
    simp only [get?, announce] at this ⊢
    rw [OrderedMap.get?_erase]
    by_cases hid : id = s.id
    · subst hid; simp only [get?] at hfree; simp [hfree]
    · rw [if_neg hid, OrderedMap.get?_insert_of_ne _ _ hid, this]

theorem Mirrors.registerDocument {r : Registry} (h : Mirrors r) (d : Document) : Mirrors (r.registerDocument d).1 := by
  unfold Registry.registerDocument
  split
  · rename_i s hs
    exact h.commit_announce (stage_ok hs).2.2.2.1
  · exact h

/-! ### Batches -/

section Batch

variable {table left : References} {r after : Registry} {paths : List String}
variable {staged done : List (Except Failure Staged)} {new : List Registered} {ids : List String}
variable {result : Except Failure Nat}

/-- A schema behind a batch was there before, or it is one of the new ones. -/
theorem Extends.get?_eq_some (h : Extends table r after done new) {id : String} {s : Registered}
    (hs : after.get? id = some s) : r.get? id = some s ∨ s ∈ new ∧ s.id = id := by
  rw [get?, h.schemas, OrderedMap.get?_append, Option.or_eq_some_iff] at hs
  refine hs.imp_right fun hs => ?_
  obtain ⟨t, ht, heq⟩ := List.mem_map.1 (OrderedMap.mem_of_get? hs.2)
  cases heq
  exact ⟨ht, rfl⟩

/-- What was registered stays so. -/
theorem Extends.get?_of_get? (h : Extends table r after done new) {id : String} {s : Registered}
    (hs : r.get? id = some s) : after.get? id = some s := by
  rw [get?] at hs
  rw [get?, h.schemas, OrderedMap.get?_append, hs, Option.some_or]

theorem Extends.keys (h : Extends table r after done new) :
    OrderedMap.keys after.schemas = OrderedMap.keys r.schemas ++ (stagedOf done).map Staged.id := by
  rw [h.schemas, ← h.staged, OrderedMap.keys, OrderedMap.keys, List.map_append, List.map_map, List.map_map]
  rfl

/-- A new schema is one of those that were staged. -/
theorem Extends.mem_stagedOf (h : Extends table r after done new)
    (hend : Ends table paths staged done new ids left result) {s : Registered} (hs : s ∈ new) :
    ⟨s.id, s.path, s.canonical⟩ ∈ stagedOf staged := by
  obtain ⟨rest, hrest⟩ := hend.exists_append
  rw [hrest, ← h.staged]
  exact List.mem_append_left _ (List.mem_map.2 ⟨s, hs, rfl⟩)

/-- The identifier of a new schema was free. -/
theorem Extends.free (h : Extends table r after done new) (hend : Ends table paths staged done new ids left result)
    (hdistinct : Distinct r [] (stagedOf staged)) {s : Registered} (hs : s ∈ new) : r.get? s.id = none :=
  hdistinct.free _ (h.mem_stagedOf hend hs)

private theorem mem_keys_of_get? {id : String} {s : Registered} (h : r.get? id = some s) :
    id ∈ OrderedMap.keys r.schemas := by
  rw [← OrderedMap.contains_iff, OrderedMap.contains]
  exact Option.isSome_of_eq_some h

/-- What was committed has distinct identifiers, as all that was staged has. -/
theorem Ends.nodup (hend : Ends table paths staged done new ids left result)
    (hdistinct : Distinct r [] (stagedOf staged)) : ((stagedOf done).map Staged.id).Nodup := by
  obtain ⟨rest, hrest⟩ := hend.exists_append
  have hnodup := hdistinct.nodup
  rw [hrest, List.map_append] at hnodup
  exact (List.nodup_append.1 hnodup).1

/-- The identifiers behind a batch are distinct. -/
theorem Extends.nodup_keys (h : Mirrors r) (hdistinct : Distinct r [] (stagedOf staged))
    (hext : Extends table r after done new) (hend : Ends table paths staged done new ids left result) :
    (OrderedMap.keys after.schemas).Nodup := by
  obtain ⟨rest, hrest⟩ := hend.exists_append
  rw [hext.keys, List.nodup_append]
  refine ⟨h.schemaIds, hend.nodup hdistinct, ?_⟩
  rintro id hid _ hmem rfl
  obtain ⟨s, hs, rfl⟩ := List.mem_map.1 hmem
  have hfree := hdistinct.free s (by rw [hrest]; exact List.mem_append_left _ hs)
  exact OrderedMap.get?_eq_none_iff.1 hfree hid

/-- In the table of a batch every schema that gets registered stands with its own tree. -/
theorem Extends.get?_table (h : Mirrors r) (hdistinct : Distinct r [] (stagedOf staged))
    (hext : Extends (r.batchReferences (stagedOf staged)) r after done new)
    (hend : Ends (r.batchReferences (stagedOf staged)) paths staged done new ids left result) {id : String}
    {s : Registered} (hs : after.get? id = some s) :
    OrderedMap.get? (r.batchReferences (stagedOf staged)) id = some s.canonical := by
  rcases hext.get?_eq_some hs with hs | ⟨hnew, rfl⟩
  · have hne : ∀ t ∈ stagedOf staged, t.id ≠ id := by
      rintro t ht rfl
      rw [hdistinct.free t ht] at hs
      cases hs
    rw [get?_batchReferences_of_forall_ne hne, h.references, hs, Option.map_some]
  · exact get?_batchReferences_of_mem hdistinct.nodup (hext.mem_stagedOf hend hnew)

/-- The table of a batch names nothing but what was registered and what is staged. -/
theorem exists_of_get?_batchReferences (h : Mirrors r) {staged : List Staged} {id : String} {t : Tree}
    (ht : OrderedMap.get? (r.batchReferences staged) id = some t) :
    id ∈ OrderedMap.keys r.schemas ∨ id ∈ staged.map Staged.id := by
  by_cases hmem : id ∈ staged.map Staged.id
  · exact .inr hmem
  · left
    have hne : ∀ s ∈ staged, s.id ≠ id := fun s hs e => hmem (List.mem_map.2 ⟨s, hs, e⟩)
    rw [get?_batchReferences_of_forall_ne hne, h.references, Option.map_eq_some_iff] at ht
    obtain ⟨s, hs, -⟩ := ht
    exact mem_keys_of_get? hs

/-- Whatever ends a batch, its references are the entries of its table for the schemas that are registered. -/
theorem Ends.get?_left (h : Mirrors r) (hdistinct : Distinct r [] (stagedOf staged))
    (hext : Extends (r.batchReferences (stagedOf staged)) r after done new)
    (hend : Ends (r.batchReferences (stagedOf staged)) paths staged done new (OrderedMap.keys after.schemas) left
      result) (id : String) : OrderedMap.get? left id =
      if id ∈ OrderedMap.keys after.schemas then OrderedMap.get? (r.batchReferences (stagedOf staged)) id
      else none := by
  cases hend with
  | loaded hdone =>
    split
    · rfl
    · rename_i hid
      rw [hext.keys, hdone, List.mem_append] at hid
      cases ht : OrderedMap.get? (r.batchReferences (stagedOf staged)) id with
      | none => rfl
      | some t => exact absurd (exists_of_get?_batchReferences h ht) hid
  | unstaged => rw [OrderedMap.get?_retain]
  | refused s rest why hdone =>
    rw [OrderedMap.get?_retain]
    split
    · rename_i hid
      rw [OrderedMap.get?_erase, if_neg]
      -- the schema that is refused has not been registered, neither before nor by this batch
      rintro rfl
      have hnodup := hdistinct.nodup
      have hfree := hdistinct.free s (by rw [hdone]; simp)
      rw [hdone] at hnodup
      rw [hext.keys, List.mem_append] at hid
      rcases hid with hid | hid
      · exact OrderedMap.get?_eq_none_iff.1 hfree hid
      · simp only [stagedOf_append, stagedOf_ok, List.map_append, List.map_cons] at hnodup
        exact (List.nodup_append.1 hnodup).2.2 _ hid _ (List.mem_cons_self ..) rfl
    · rfl

private theorem nodup_keys_batchReferences (h : Mirrors r) (staged : List Staged) :
    (OrderedMap.keys (r.batchReferences staged)).Nodup := by
  have key : ∀ (r : Registry), (OrderedMap.keys r.references).Nodup →
      (OrderedMap.keys (staged.foldl announce r).references).Nodup := by
    induction staged with
    | nil => exact fun r hr => hr
    | cons s rest ih => exact fun r hr => ih (r.announce s) (OrderedMap.nodup_keys_insert hr _ _)
  exact key r h.referenceIds

private theorem Ends.nodup_keys (hend : Ends table paths staged done new ids left result)
    (htable : (OrderedMap.keys table).Nodup) : (OrderedMap.keys left).Nodup := by
  cases hend with
  | loaded => exact htable
  | unstaged => exact OrderedMap.nodup_keys_filter htable _
  | refused => exact OrderedMap.nodup_keys_filter (OrderedMap.nodup_keys_filter htable _) _

end Batch

/-- A batch may end in whatever way. -/
theorem Mirrors.load {r : Registry} (h : Mirrors r) (fs : FileSystem) (paths : List String) :
    Mirrors (r.load fs paths).1 := by
  obtain ⟨-, hdistinct, done, new, hext, hend⟩ := load_spec r fs paths
  refine ⟨fun id => ?_, fun id s hs => ?_, hext.nodup_keys h hdistinct hend, ?_⟩
  · rw [hend.get?_left h hdistinct hext]
    cases hid : (r.load fs paths).1.get? id with
    | none => rw [if_neg (OrderedMap.get?_eq_none_iff.1 hid)]; rfl
    | some s => rw [if_pos (mem_keys_of_get? hid), hext.get?_table h hdistinct hend hid]; rfl
  · exact (hext.get?_eq_some hs).elim (h.ownId id s) fun hs => hs.2
  · exact hend.nodup_keys (nodup_keys_batchReferences h _)

theorem Mirrors.step {r : Registry} (h : Mirrors r) (call : Call) : Mirrors (r.step call) := by
  cases call with
  | register fs path =>
    rw [Registry.step, register]
    split
    · exact h.registerDocument _
    · exact h
  | registerDocument d => exact h.registerDocument d
  | load fs paths => exact h.load fs paths

/-- In every registry that is reached the references are the canonical trees of the registered schemas, and every schema
stands under its own identifier. -/
theorem mirrors_after (calls : List Call) : Mirrors (after calls) :=
  after_induction Mirrors.empty (fun _ call h => h.step call) calls

end Registry

end YamlSchema
