import YamlSchema.Proofs.Registry.Success

/-!
# The schemas that files state

A file states a schema if it has just one identifier, and no schema before it has this one.  `statedBy` reads that off
the files alone: an identifier keeps the first schema that is stated under it (`get?_statedBy`).  It is the table against
which a batch over them is compiled (`tableOf_eq`), so that a batch succeeds exactly if all files are documents and every
stated schema is compiled against all of them (`load_isOk_iff`), and then the stated schemas are what is registered
(`get?_load`).
-/

namespace YamlSchema

open Schema (References Validator)

/-- A table of schemas with the one that a file states, unless the table has its identifier already. -/
def addStated (fs : FileSystem) (table : References) (path : String) : References :=
  match Document.load fs path with
  | .ok d => match d.values Directive.idKey with
    | [id] => if OrderedMap.contains table id then table else OrderedMap.insert table id (inflate d.content)
    | _ => table
  | .error _ => table

/-- A table of schemas with those that some files state, the earlier ones first. -/
def statedBy (fs : FileSystem) (table : References) (paths : List String) : References :=
  paths.foldl (addStated fs) table

/-- The schema that a file states under an identifier. -/
def stated? (fs : FileSystem) (path id : String) : Option Tree :=
  match Document.load fs path with
  | .ok d => if d.values Directive.idKey = [id] then some (inflate d.content) else none
  | .error _ => none

private theorem get?_addStated (fs : FileSystem) (table : References) (path id : String) :
    OrderedMap.get? (addStated fs table path) id = (OrderedMap.get? table id).or (stated? fs path id) := by
  rw [addStated, stated?]
  cases Document.load fs path with
  | error e => simp
  | ok d =>
    match hids : d.values Directive.idKey with
    | [stated] =>
      cases hheld : OrderedMap.contains table stated with
      | true =>
        by_cases hid : stated = id
        · subst hid
          obtain ⟨t, ht⟩ := Option.isSome_iff_exists.1 hheld
          simp [hids, hheld, ht]
        · simp [hids, hheld, hid]
      | false =>
        have hfree : OrderedMap.get? table stated = none := by
          rwa [OrderedMap.contains, Option.isSome_eq_false_iff, Option.isNone_iff_eq_none] at hheld
        by_cases hid : stated = id
        · subst hid
          simp [hids, hheld, hfree]
        · simp [hids, hheld, hid, OrderedMap.get?_insert_of_ne table _ (Ne.symm hid)]
    | [] | _ :: _ :: _ => simp [hids]

/-- An identifier keeps its schema, or gets the first one that is stated under it. -/
theorem get?_statedBy (fs : FileSystem) (paths : List String) (id : String) : ∀ table : References,
    OrderedMap.get? (statedBy fs table paths) id =
      (OrderedMap.get? table id).or (paths.findSome? fun path => stated? fs path id) := by
  induction paths with
  | nil => intro table; simp [statedBy]
  | cons path rest ih =>
    intro table
    change OrderedMap.get? (statedBy fs (addStated fs table path) rest) id = _
    rw [ih, get?_addStated, Option.or_assoc, List.findSome?_cons]
    cases stated? fs path id <;> rfl

namespace Registry

variable {r : Registry} {fs : FileSystem} {paths : List String}

/-- The table of a batch names what could be referred to before and what is staged. -/
theorem contains_batchReferences_iff {staged : List Staged} {id : String} : ∀ {r : Registry},
    OrderedMap.contains (r.batchReferences staged) id = true ↔
      OrderedMap.contains r.references id = true ∨ id ∈ staged.map Staged.id := by
  induction staged with
  | nil => intro r; simp [batchReferences]
  | cons s rest ih =>
    intro r
    have hrest := ih (r := r.announce s)
    rw [batchReferences, List.foldl_cons]
    change OrderedMap.contains ((r.announce s).batchReferences rest) id = true ↔ _
    rw [hrest, announce]
    simp only [OrderedMap.contains_iff, OrderedMap.mem_keys_insert, List.map_cons, List.mem_cons]
    tauto

/-- An identifier is held just if the table of the batch so far has it. -/
private theorem holder?_isSome_iff (hr : Mirrors r) (pending : List Staged) (id : String) :
    (r.holder? pending id).isSome = true ↔ OrderedMap.contains (r.batchReferences pending) id = true := by
  have hheld : OrderedMap.contains r.references id = (r.get? id).isSome := by
    rw [OrderedMap.contains, hr.references, Option.isSome_map]
  rw [contains_batchReferences_iff, hheld, ← not_iff_not, Bool.not_eq_true, Option.isSome_eq_false_iff,
    Option.isNone_iff_eq_none, holder?_eq_none_iff]
  simp

/-- Staging a document announces what it states. -/
private theorem addStated_eq (hr : Mirrors r) {pending : List Staged} {path : String} {d : Document}
    (hd : Document.load fs path = .ok d) :
    addStated fs (r.batchReferences pending) path =
      r.batchReferences (pending ++ stagedOf [r.stage pending d]) := by
  rw [addStated, hd]
  match hids : d.values Directive.idKey with
  | [id] =>
    have hheld := holder?_isSome_iff hr pending id
    cases hholder : r.holder? pending id with
    | some first =>
      have hcontains := hheld.1 (by rw [hholder]; rfl)
      have hstage : r.stage pending d = .error (.duplicateId id d.path first) := by simp [stage, hids, hholder]
      rw [hstage, stagedOf_error, stagedOf_nil, List.append_nil]
      simp [hids, hcontains]
    | none =>
      have hfree : ¬ OrderedMap.contains (r.batchReferences pending) id = true := by
        rw [← hheld, hholder]
        simp
      have hstage : r.stage pending d = .ok ⟨id, d.path, inflate d.content⟩ := by simp [stage, hids, hholder]
      have hannounced : r.batchReferences (pending ++ [⟨id, d.path, inflate d.content⟩]) =
          OrderedMap.insert (r.batchReferences pending) id (inflate d.content) := by
        rw [batchReferences, List.foldl_append]
        rfl
      rw [hstage, stagedOf_ok, stagedOf_nil, hannounced]
      simp [hids, hfree]
  | [] | _ :: _ :: _ => simp [stage, hids]

/-- Staging files adds to the table what the files state. -/
private theorem batchReferences_stageAll (hr : Mirrors r) (paths : List String) : ∀ pending : List Staged,
    (∀ path ∈ paths, ∃ d, Document.load fs path = .ok d) →
    r.batchReferences (pending ++ stagedOf (r.stageAll fs pending paths).1) =
      statedBy fs (r.batchReferences pending) paths := by
  induction paths with
  | nil => intro pending _; simp [stageAll, statedBy]
  | cons path rest ih =>
    intro pending hread
    obtain ⟨d, hd⟩ := hread path (by simp)
    have hrest := fun p hp => hread p (List.mem_cons_of_mem path hp)
    rw [stageAll_cons_of_ok hd, stagedOf_cons, ← List.append_assoc, ih _ hrest, ← addStated_eq hr hd]
    rfl

/-- A batch over documents is compiled against what they state. -/
theorem tableOf_eq (hr : Mirrors r) (hread : ∀ path ∈ paths, ∃ d, Document.load fs path = .ok d) :
    r.tableOf fs paths = statedBy fs r.references paths := by
  have h := batchReferences_stageAll hr paths [] hread
  rw [List.nil_append] at h
  exact h

/-- What is staged is what the table has for identifiers that were free. -/
theorem exists_mem_stagedBy_iff (hr : Mirrors r) {id : String} {t : Tree} :
    (∃ s ∈ stagedOf (r.stagedBy fs paths), s.id = id ∧ s.canonical = t) ↔
      r.get? id = none ∧ OrderedMap.get? (r.tableOf fs paths) id = some t := by
  obtain ⟨-, hdistinct, -⟩ := load_spec r fs paths
  constructor
  · rintro ⟨s, hs, rfl, rfl⟩
    exact ⟨hdistinct.free s hs, get?_batchReferences_of_mem hdistinct.nodup hs⟩
  · rintro ⟨hfree, ht⟩
    rcases exists_of_get?_batchReferences hr ht with hmem | hmem
    · exact absurd hmem (OrderedMap.get?_eq_none_iff.1 hfree)
    · obtain ⟨s, hs, rfl⟩ := List.mem_map.1 hmem
      rw [tableOf, get?_batchReferences_of_mem hdistinct.nodup hs] at ht
      exact ⟨s, hs, rfl, Option.some.inj ht⟩

/-- A batch succeeds just if all files are documents and every new schema is compiled against all that are stated. -/
theorem load_isOk_iff (hr : Mirrors r) : (∃ n, (r.load fs paths).2 = .ok n) ↔
    (∀ path ∈ paths, ∃ d, Document.load fs path = .ok d) ∧
      ∀ id t, r.get? id = none → OrderedMap.get? (statedBy fs r.references paths) id = some t →
        ∃ c, Validator.compile (statedBy fs r.references paths) t = .ok c := by
  constructor
  · rintro ⟨n, h⟩
    obtain ⟨hread, hcompiled, -⟩ := load_eq_ok_iff.1 h
    rw [← tableOf_eq hr hread]
    refine ⟨hread, fun id t hfree ht => ?_⟩
    obtain ⟨s, hs, rfl, rfl⟩ := (exists_mem_stagedBy_iff hr).2 ⟨hfree, ht⟩
    exact hcompiled s hs
  · rintro ⟨hread, hcompiled⟩
    rw [← tableOf_eq hr hread] at hcompiled
    refine ⟨_, load_eq_ok_iff.2 ⟨hread, fun s hs => ?_, rfl⟩⟩
    obtain ⟨hfree, ht⟩ := (exists_mem_stagedBy_iff hr).1 ⟨s, hs, rfl, rfl⟩
    exact hcompiled s.id s.canonical hfree ht

/-- Behind a batch that succeeds the registered schemas are the stated ones, the new ones as they are compiled. -/
theorem get?_load (hr : Mirrors r) {n : Nat} (h : (r.load fs paths).2 = .ok n) (id : String) :
    ((r.load fs paths).1.get? id).map Registered.canonical = OrderedMap.get? (statedBy fs r.references paths) id ∧
      ∀ s, r.get? id = none → (r.load fs paths).1.get? id = some s →
        Validator.compile (statedBy fs r.references paths) s.canonical = .ok s.validator := by
  have htable := tableOf_eq hr (load_eq_ok_iff.1 h).1
  have hstays := load_of_ok h
  rw [← htable]
  constructor
  · rw [← (hr.load fs paths).references, hstays]
  · intro s hfree hs
    rw [hstays, get?, OrderedMap.get?_append] at hs
    change (r.get? id).or _ = _ at hs
    rw [hfree, Option.none_or] at hs
    obtain ⟨t, ht, heq⟩ := List.mem_map.1 (OrderedMap.mem_of_get? hs)
    cases heq
    exact compile_of_mem_registeredBy ht

end Registry

end YamlSchema
