import YamlSchema.Proofs.Registry.Success
import YamlSchema.Proofs.Schema.Gathering

/-!
# The order of the files of a batch

Where the files of a batch can be read and no two of them claim the same free identifier, what becomes of a file does
not depend on those before it (`stageAll_of_distinct`), so a permuted batch stages the same schemas in another order.
The tables of both batches name the same trees (`get?_batchReferences_perm`), hence both compile each schema to the
same, and the order of the files only shows in the order of what is appended (`load_perm`).
-/

namespace YamlSchema

open Schema (References Validator)

namespace Registry

/-! ### Files on their own -/

/-- What becomes of a file that no other one stands before. -/
def entryOf (r : Registry) (fs : FileSystem) (path : String) : Except Failure Staged :=
  Document.load fs path >>= r.stage []

/-- The identifier that a file claims: it states just this one, and no registered schema has it. -/
def claimed? (r : Registry) (fs : FileSystem) (path : String) : Option String :=
  match Document.load fs path with
  | .ok d => match d.values Directive.idKey with
    | [id] => if r.contains id then none else some id
    | _ => none
  | .error _ => none

variable {r : Registry} {fs : FileSystem}

/-- Pending schemas only get into the way of a document that claims the identifier of one of them. -/
private theorem stage_of_apart {pending : List Staged} {d : Document}
    (h : ∀ id, d.values Directive.idKey = [id] → r.get? id = none → ∀ s ∈ pending, s.id ≠ id) :
    r.stage pending d = r.stage [] d := by
  unfold stage
  split
  · rename_i id hid
    have hholder : r.holder? pending id = r.holder? [] id := by
      cases hget : r.get? id with
      | some s => simp [holder?, hget]
      | none =>
        have hpending : r.holder? pending id = none := holder?_eq_none_iff.2 ⟨hget, h id hid hget⟩
        have halone : r.holder? [] id = none := holder?_eq_none_iff.2 ⟨hget, by simp⟩
        rw [hpending, halone]
    rw [hholder]
  · rfl

/-- A readable file is staged exactly if it claims an identifier, and then under this one. -/
private theorem claimed?_of_load {path : String} {d : Document} (hd : Document.load fs path = .ok d) :
    r.claimed? fs path = (r.entryOf fs path).toOption.map Staged.id := by
  rw [entryOf, hd]
  change _ = (r.stage [] d).toOption.map Staged.id
  match hids : d.values Directive.idKey with
  | [id] => cases hget : r.get? id <;> simp [claimed?, hd, stage, hids, contains, holder?, hget, Except.toOption]
  | [] | _ :: _ :: _ => simp [claimed?, hd, stage, hids, Except.toOption]

/-- Files that claim distinct identifiers are staged as if each of them were alone. -/
theorem stageAll_of_distinct {paths : List String} (hread : ∀ path ∈ paths, ∃ d, Document.load fs path = .ok d) :
    ∀ pending : List Staged, (pending.map Staged.id ++ paths.filterMap (r.claimed? fs)).Nodup →
      r.stageAll fs pending paths = (paths.map (r.entryOf fs), none) := by
  induction paths with
  | nil => intro pending _; rfl
  | cons path rest ih =>
    intro pending hnodup
    obtain ⟨d, hd⟩ := hread path (by simp)
    have hrest := ih fun p hp => hread p (by simp [hp])
    have hclaimed := claimed?_of_load (r := r) hd
    have halone : r.stage pending d = r.entryOf fs path := by
      rw [entryOf, hd]
      refine stage_of_apart fun id hid hfree s hs he => ?_
      have hclaim : r.claimed? fs path = some id := by simp [claimed?, hd, hid, contains, hfree]
      rw [List.filterMap_cons_some hclaim] at hnodup
      exact (List.nodup_append.1 hnodup).2.2 s.id (List.mem_map.2 ⟨s, hs, rfl⟩) id (by simp) he
    have hnodup' : ((pending ++ stagedOf [r.entryOf fs path]).map Staged.id ++
        rest.filterMap (r.claimed? fs)).Nodup := by
      cases hentry : r.entryOf fs path with
      | ok s =>
        rw [hentry] at hclaimed
        rw [List.filterMap_cons_some hclaimed] at hnodup
        simpa using hnodup
      | error e =>
        rw [hentry] at hclaimed
        rw [List.filterMap_cons_none hclaimed] at hnodup
        simpa using hnodup
    rw [stageAll_cons_of_ok hd, halone, hrest _ hnodup', List.map_cons]

/-! ### Tables -/

/-- The order in which distinct schemas are announced does not matter. -/
theorem get?_batchReferences_perm {staged other : List Staged} (hperm : staged.Perm other)
    (hnodup : (staged.map Staged.id).Nodup) (id : String) :
    OrderedMap.get? (r.batchReferences staged) id = OrderedMap.get? (r.batchReferences other) id := by
  have hnodup' : (other.map Staged.id).Nodup := (hperm.map _).nodup_iff.1 hnodup
  by_cases hmem : id ∈ staged.map Staged.id
  · obtain ⟨s, hs, rfl⟩ := List.mem_map.1 hmem
    rw [get?_batchReferences_of_mem hnodup hs, get?_batchReferences_of_mem hnodup' (hperm.mem_iff.1 hs)]
  · have hne : ∀ s ∈ staged, s.id ≠ id := fun s hs e => hmem (List.mem_map.2 ⟨s, hs, e⟩)
    rw [get?_batchReferences_of_forall_ne hne,
      get?_batchReferences_of_forall_ne fun s hs => hne s (hperm.mem_iff.2 hs)]

/-! ### Permuted batches -/

/-- All files of a batch can be read, and those that claim an identifier claim distinct ones. -/
structure Independent (r : Registry) (fs : FileSystem) (paths : List String) : Prop where
  readable : ∀ path ∈ paths, ∃ d, Document.load fs path = .ok d
  distinct : (paths.filterMap (r.claimed? fs)).Nodup

section Permuted

variable {paths other : List String}

theorem Independent.perm (h : Independent r fs paths) (hperm : paths.Perm other) : Independent r fs other where
  readable := fun path hpath => h.readable path (hperm.mem_iff.2 hpath)
  distinct := (hperm.filterMap _).nodup_iff.1 h.distinct

theorem Independent.stagedBy_eq (h : Independent r fs paths) : r.stagedBy fs paths = paths.map (r.entryOf fs) := by
  rw [stagedBy, stageAll_of_distinct h.readable [] (by simpa using h.distinct)]

theorem Independent.stagedOf_perm (h : Independent r fs paths) (hperm : paths.Perm other) :
    (stagedOf (r.stagedBy fs paths)).Perm (stagedOf (r.stagedBy fs other)) := by
  rw [h.stagedBy_eq, (h.perm hperm).stagedBy_eq]
  exact (hperm.map _).filterMap _

/-- Both batches compile any schema to the same. -/
theorem Independent.compile_perm (h : Independent r fs paths) (hperm : paths.Perm other) (schema : Tree) :
    Validator.compile (r.tableOf fs paths) schema = Validator.compile (r.tableOf fs other) schema := by
  obtain ⟨-, hdistinct, -⟩ := load_spec r fs paths
  exact Validator.compile_congr fun id _ => get?_batchReferences_perm (h.stagedOf_perm hperm) hdistinct.nodup id

theorem Independent.registeredBy_perm (h : Independent r fs paths) (hperm : paths.Perm other) :
    (r.registeredBy fs paths).Perm (r.registeredBy fs other) := by
  have hsame : Staged.registered? (r.tableOf fs paths) = Staged.registered? (r.tableOf fs other) := by
    funext s
    exact Staged.registered?_congr (h.compile_perm hperm s.canonical)
  rw [registeredBy, registeredBy, hsame]
  exact (h.stagedOf_perm hperm).filterMap _

private theorem load_eq_ok_of_perm (h : Independent r fs paths) (hperm : paths.Perm other) {n : Nat}
    (hload : (r.load fs paths).2 = .ok n) : (r.load fs other).2 = .ok n := by
  obtain ⟨-, hcompiled, hcount⟩ := load_eq_ok_iff.1 hload
  have hstaged := h.stagedOf_perm hperm
  refine load_eq_ok_iff.2 ⟨(h.perm hperm).readable, fun s hs => ?_, ?_⟩
  · rw [← h.compile_perm hperm]
    exact hcompiled s (hstaged.mem_iff.2 hs)
  · rw [hcount, hstaged.length_eq]

/-- A batch over independent files succeeds exactly if a permuted one does; then the same schemas are registered, and
each file has the same outcome. -/
theorem load_perm (h : Independent r fs paths) (hperm : paths.Perm other) :
    (∀ n, (r.load fs paths).2 = .ok n ↔ (r.load fs other).2 = .ok n) ∧
    ∀ n, (r.load fs paths).2 = .ok n →
      (∀ id, (r.load fs paths).1.get? id = (r.load fs other).1.get? id) ∧
      (r.load fs paths).1.schemas.Perm (r.load fs other).1.schemas ∧
      ∃ outcome : String → LoadOutcome, (r.load fs paths).1.outcomes = r.outcomes ++ paths.map outcome ∧
        (r.load fs other).1.outcomes = r.outcomes ++ other.map outcome := by
  have hother := h.perm hperm
  refine ⟨fun n => ⟨load_eq_ok_of_perm h hperm, load_eq_ok_of_perm hother hperm.symm⟩, fun n hload => ?_⟩
  have hnew : ((r.registeredBy fs paths).map fun s => (s.id, s)).Perm
      ((r.registeredBy fs other).map fun s => (s.id, s)) := (h.registeredBy_perm hperm).map _
  rw [load_of_ok hload, load_of_ok (load_eq_ok_of_perm h hperm hload)]
  refine ⟨fun id => ?_, hnew.append_left _, fun path => entryOutcome (r.entryOf fs path), ?_, ?_⟩
  · rw [get?, get?, OrderedMap.get?_append, OrderedMap.get?_append, OrderedMap.get?_perm ?_ hnew]
    have hids := nodup_registeredBy r fs paths
    rw [OrderedMap.keys, List.map_map]
    exact hids
  · rw [h.stagedBy_eq, List.map_map]
    rfl
  · rw [hother.stagedBy_eq, List.map_map]
    rfl

/-- Two schemas around a file without identifier, in two orders. -/
theorem load_perm_of_sampleFiles :
    Independent empty sampleFiles ["a.yml", "note.yml", "b.yml"] ∧
      ["a.yml", "note.yml", "b.yml"].Perm ["b.yml", "a.yml", "note.yml"] ∧
      (empty.load sampleFiles ["b.yml", "a.yml", "note.yml"]).2 = .ok 2 ∧
      ∀ id, (empty.load sampleFiles ["a.yml", "note.yml", "b.yml"]).1.get? id =
        (empty.load sampleFiles ["b.yml", "a.yml", "note.yml"]).1.get? id := by
  obtain ⟨ha, hb, -, hnote⟩ := load_sampleFiles
  have hindependent : Independent empty sampleFiles ["a.yml", "note.yml", "b.yml"] := by
    refine ⟨by simp [ha, hb, hnote], ?_⟩
    simp [claimed?, ha, hb, hnote, Document.values, directiveValues, Directive.idKey, contains, get?, empty]
  have hperm : ["a.yml", "note.yml", "b.yml"].Perm ["b.yml", "a.yml", "note.yml"] := by decide
  have hload : (empty.load sampleFiles ["a.yml", "note.yml", "b.yml"]).2 = .ok 2 := by
    rw [load_of_shorthand fun path hpath => shorthand_sampleFiles path (by simp at hpath ⊢; tauto),
      hindependent.stagedBy_eq]
    simp [entryOf, stage, stagedOf, holder?, ha, hb, hnote, Document.values, directiveValues, Directive.idKey, get?,
      empty, bind, Except.bind]
  obtain ⟨hsucceeds, hsame⟩ := load_perm hindependent hperm
  exact ⟨hindependent, hperm, (hsucceeds 2).1 hload, (hsame 2 hload).1⟩

end Permuted

end Registry

end YamlSchema
