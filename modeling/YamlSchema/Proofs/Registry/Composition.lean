import YamlSchema.Proofs.Registry.Success
import YamlSchema.Proofs.Schema.Gathering

/-!
# Batches behind each other

Two batches that succeed one behind the other are one batch over all their files (`load_append`): whether an identifier
is taken by a registered schema or by a pending one makes no difference to staging (`stageAll_congr`), and a schema that
is compiled comes out the same where more may be referred to.  A batch over one file does what registering it does
(`load_singleton`).
-/

namespace YamlSchema

open Schema (References Validator)

namespace Registry

variable {r : Registry} {fs : FileSystem}

/-! ### Staging behind a batch -/

/-- Only what holds an identifier matters to staging, not whether it is registered or pending. -/
theorem stageAll_congr {other : Registry} (paths : List String) : ∀ {pending waiting : List Staged},
    (∀ id, r.holder? pending id = other.holder? waiting id) →
    r.stageAll fs pending paths = other.stageAll fs waiting paths := by
  induction paths with
  | nil => intro pending waiting _; rfl
  | cons path rest ih =>
    intro pending waiting h
    cases hd : Document.load fs path with
    | error e => rw [stageAll_cons_of_error hd, stageAll_cons_of_error hd]
    | ok d =>
      have hstage : r.stage pending d = other.stage waiting d := by
        unfold stage
        split
        · rw [h]
        · rfl
      rw [stageAll_cons_of_ok hd, stageAll_cons_of_ok hd, hstage]
      rw [ih fun id => by rw [holder?_append, holder?_append, h]]

/-- Files are staged behind others as if those were pending. -/
theorem stageAll_append {paths : List String} (rest : List String) :
    ∀ {pending : List Staged}, (∀ path ∈ paths, ∃ d, Document.load fs path = .ok d) →
    r.stageAll fs pending (paths ++ rest) =
      ((r.stageAll fs pending paths).1 ++
        (r.stageAll fs (pending ++ stagedOf (r.stageAll fs pending paths).1) rest).1,
      (r.stageAll fs (pending ++ stagedOf (r.stageAll fs pending paths).1) rest).2) := by
  induction paths with
  | nil => intro pending _; simp [stageAll]
  | cons path more ih =>
    intro pending hread
    obtain ⟨d, hd⟩ := hread path (by simp)
    have hmore := fun p hp => hread p (List.mem_cons_of_mem path hp)
    rw [List.cons_append, stageAll_cons_of_ok hd, stageAll_cons_of_ok hd, ih hmore, List.append_assoc, ← stagedOf_cons]
    rfl

private theorem get?_map_id (schemas : List Registered) (id : String) :
    OrderedMap.get? (schemas.map fun s => (s.id, s)) id = schemas.find? fun s => s.id = id := by
  induction schemas with
  | nil => rfl
  | cons s rest ih =>
    rw [List.map_cons, OrderedMap.get?, List.find?_cons, ih]
    by_cases h : s.id = id <;> simp [h]

/-- An identifier is taken behind a batch just if it was before or a schema of the batch has it. -/
theorem holder?_load {paths : List String} {n : Nat} (h : (r.load fs paths).2 = .ok n) (id : String) :
    (r.load fs paths).1.holder? [] id = r.holder? (stagedOf (r.stagedBy fs paths)) id := by
  rw [load_of_ok h, ← map_registeredBy h]
  simp only [holder?, get?, OrderedMap.get?_append, get?_map_id, List.find?_map, List.find?_nil, Option.map_none,
    Option.or_none, Option.map_or, Option.map_map]
  rfl

/-! ### Tables -/

/-- Only the references of a registry matter to the table of a batch. -/
theorem batchReferences_congr {other : Registry} (h : r.references = other.references) (staged : List Staged) :
    r.batchReferences staged = other.batchReferences staged := by
  induction staged generalizing r other with
  | nil => exact h
  | cons s rest ih =>
    have hs : (r.announce s).references = (other.announce s).references := by rw [announce, announce, h]
    exact ih hs

theorem batchReferences_append (staged rest : List Staged) :
    r.batchReferences (staged ++ rest) = { r with references := r.batchReferences staged }.batchReferences rest := by
  rw [batchReferences, List.foldl_append, foldl_announce staged r]
  rfl

/-! ### One batch for two -/

section Append

variable {paths rest : List String} {m n : Nat}

/-- The files of the second batch are staged as they are behind the first one. -/
theorem stagedBy_append (h : (r.load fs paths).2 = .ok m) (rest : List String) :
    r.stagedBy fs (paths ++ rest) = r.stagedBy fs paths ++ (r.load fs paths).1.stagedBy fs rest := by
  have hsame : r.stageAll fs (stagedOf (r.stagedBy fs paths)) rest = (r.load fs paths).1.stageAll fs [] rest :=
    stageAll_congr rest fun id => (holder?_load h id).symm
  rw [stagedBy, stageAll_append rest (load_eq_ok_iff.1 h).1, List.nil_append]
  exact congrArg (fun batch => r.stagedBy fs paths ++ batch.1) hsame

/-- The second batch is compiled against the table of both. -/
theorem tableOf_append (h : (r.load fs paths).2 = .ok m) (rest : List String) :
    r.tableOf fs (paths ++ rest) = (r.load fs paths).1.tableOf fs rest := by
  rw [tableOf, stagedBy_append h, stagedOf_append, batchReferences_append]
  exact batchReferences_congr (by rw [load_of_ok h]; rfl) _

/-- What the first batch compiles comes out the same with the second one. -/
theorem compile_append (hr : Mirrors r) (h : (r.load fs paths).2 = .ok m) (rest : List String) {schema : Tree}
    {c : Validator} (hc : Validator.compile (r.tableOf fs paths) schema = .ok c) :
    Validator.compile (r.tableOf fs (paths ++ rest)) schema = .ok c := by
  refine Validator.compile_mono hc fun id t ht => ?_
  have hmirrors := hr.load fs paths
  obtain ⟨-, hdistinct, -⟩ := load_spec (r.load fs paths).1 fs rest
  have hleft : (r.load fs paths).1.references = r.tableOf fs paths := by rw [load_of_ok h]
  -- the schemas of the second batch have identifiers that were free behind the first one
  have hne : ∀ s ∈ stagedOf ((r.load fs paths).1.stagedBy fs rest), s.id ≠ id := by
    rintro s hs rfl
    have hfree := hmirrors.references s.id
    rw [hdistinct.free s hs, hleft, ht] at hfree
    cases hfree
  rw [tableOf_append h, tableOf, get?_batchReferences_of_forall_ne hne, hleft, ht]

theorem registeredBy_append (hr : Mirrors r) (h : (r.load fs paths).2 = .ok m) (rest : List String) :
    r.registeredBy fs (paths ++ rest) = r.registeredBy fs paths ++ (r.load fs paths).1.registeredBy fs rest := by
  have hcompiled := (load_eq_ok_iff.1 h).2.1
  rw [registeredBy, registeredBy, registeredBy, stagedBy_append h, stagedOf_append, List.filterMap_append,
    ← tableOf_append h]
  congr 1
  refine List.filterMap_congr fun s hs => Staged.registered?_congr ?_
  obtain ⟨c, hc⟩ := hcompiled s hs
  rw [hc, compile_append hr h rest hc]

/-- Batches that succeed one behind the other are one batch over their files. -/
theorem load_append (hr : Mirrors r) (hm : (r.load fs paths).2 = .ok m)
    (hn : ((r.load fs paths).1.load fs rest).2 = .ok n) :
    r.load fs (paths ++ rest) = (((r.load fs paths).1.load fs rest).1, .ok (m + n)) := by
  obtain ⟨hread, hcompiled, hcount⟩ := load_eq_ok_iff.1 hm
  obtain ⟨hread', hcompiled', hcount'⟩ := load_eq_ok_iff.1 hn
  have hboth : (r.load fs (paths ++ rest)).2 = .ok (m + n) := by
    refine load_eq_ok_iff.2 ⟨fun path hpath => ?_, fun s hs => ?_, ?_⟩
    · exact (List.mem_append.1 hpath).elim (hread path) (hread' path)
    · rw [stagedBy_append hm, stagedOf_append, List.mem_append] at hs
      rcases hs with hs | hs
      · obtain ⟨c, hc⟩ := hcompiled s hs
        exact ⟨c, compile_append hr hm rest hc⟩
      · rw [tableOf_append hm]
        exact hcompiled' s hs
    · rw [stagedBy_append hm, stagedOf_append, List.length_append, hcount, hcount']
  refine Prod.ext ?_ hboth
  rw [load_of_ok hboth, load_of_ok hn, registeredBy_append hr hm, stagedBy_append hm, tableOf_append hm]
  simp only [load_of_ok hm, List.map_append, List.append_assoc]

end Append

/-! ### One file -/

/-- In a registry whose references mirror its schemas there is nothing to take out behind a failure. -/
theorem Mirrors.retain_eq (h : Mirrors r) :
    OrderedMap.retain r.references (OrderedMap.keys r.schemas) = r.references := by
  refine List.filter_eq_self.2 fun entry hentry => decide_eq_true ?_
  have hmem : entry.1 ∈ OrderedMap.keys r.references := List.mem_map.2 ⟨entry, hentry, rfl⟩
  by_contra habsent
  have hnone : OrderedMap.get? r.references entry.1 = none := by
    rw [h.references, get?, OrderedMap.get?_eq_none_iff.2 habsent, Option.map_none]
  exact OrderedMap.get?_eq_none_iff.1 hnone hmem

/-- A batch over one file registers it and notes what became of it; recoverable failures are no more than noted. -/
theorem load_singleton (hr : Mirrors r) (fs : FileSystem) (path : String) :
    r.load fs [path] = match (r.register fs path).2 with
      | .ok id => ((r.register fs path).1.note (.loaded path id), .ok 1)
      | .error e =>
        if e.isRecoverable then ((r.register fs path).1.note (.skipped e), .ok 0)
        else ((r.register fs path).1, .error e) := by
  have hafter := hr.step (.register fs path)
  rw [Registry.step] at hafter
  revert hafter
  rw [load, register]
  cases hd : Document.load fs path with
  | error e =>
    intro _
    simp [stageAll_cons_of_error hd, (Document.failure_of_load hd).2, commitAll, hr.retain_eq]
  | ok d =>
    rw [stageAll_cons_of_ok hd]
    simp only [stageAll, registerDocument]
    cases hstage : r.stage [] d with
    | error e =>
      intro _
      simp [(stage_error hstage).2, commitAll]
    | ok s =>
      have hpath : s.path = path := (stage_ok hstage).2.1.trans (Document.path_of_load hd)
      simp only [stagedOf_ok, stagedOf_nil, List.foldl_cons, List.foldl_nil, commitAll, commit]
      cases hc : Validator.compile (r.announce s).references s.canonical with
      | ok validator => simp [note, hpath]
      | error why =>
        -- what is taken out of the references behind the failure is just what registering takes out
        intro hafter
        have hretain := hafter.retain_eq
        simp only at hretain
        simp [hretain, Failure.isRecoverable]

/-- A batch over one file leaves the schemas and references that registering it leaves, and answers with the same:
one schema, none and a note of the failure, or the failure. -/
structure AgreesWithRegister (r : Registry) (fs : FileSystem) (path : String) : Prop where
  schemas : (r.load fs [path]).1.schemas = (r.register fs path).1.schemas
  references : (r.load fs [path]).1.references = (r.register fs path).1.references
  registered : (∃ id, (r.register fs path).2 = .ok id) ↔ (r.load fs [path]).2 = .ok 1
  noted : ∀ id, (r.register fs path).2 = .ok id → (r.load fs [path]).1.outcomes = r.outcomes ++ [.loaded path id]
  skipped : ∀ e, (r.register fs path).2 = .error e ∧ e.isRecoverable = true ↔
    (r.load fs [path]).2 = .ok 0 ∧ (r.load fs [path]).1.outcomes = r.outcomes ++ [.skipped e]
  fatal : ∀ e, (r.register fs path).2 = .error e ∧ e.isRecoverable = false ↔ (r.load fs [path]).2 = .error e

/-- Registering notes nothing. -/
theorem outcomes_register (r : Registry) (fs : FileSystem) (path : String) :
    (r.register fs path).1.outcomes = r.outcomes := by
  unfold register
  split
  · unfold registerDocument
    split
    · unfold commit
      split <;> rfl
    · rfl
  · rfl

theorem agreesWithRegister (hr : Mirrors r) (fs : FileSystem) (path : String) : AgreesWithRegister r fs path := by
  have hload := load_singleton hr fs path
  have houtcomes := outcomes_register r fs path
  cases hregister : (r.register fs path).2 with
  | ok id =>
    rw [hregister] at hload
    constructor <;> simp [hload, hregister, note, houtcomes]
  | error e =>
    cases hrec : e.isRecoverable with
    | true =>
      simp only [hregister, hrec, if_true] at hload
      constructor <;> simp [hload, hregister, note, houtcomes, hrec]
    | false =>
      simp only [hregister, hrec, Bool.false_eq_true, if_false] at hload
      constructor <;> simp [hload, hregister, houtcomes, hrec]

/-- In every registry that is reached, batches that succeed one behind the other are one batch over their files, and a
batch over one file agrees with registering it. -/
theorem load_append_and_agrees (calls : List Call) (fs : FileSystem) :
    (∀ paths rest m n, ((after calls).load fs paths).2 = .ok m →
      (((after calls).load fs paths).1.load fs rest).2 = .ok n →
      (after calls).load fs (paths ++ rest) = ((((after calls).load fs paths).1.load fs rest).1, .ok (m + n))) ∧
    ∀ path, AgreesWithRegister (after calls) fs path :=
  ⟨fun _ _ _ _ => load_append (mirrors_after calls), agreesWithRegister (mirrors_after calls) fs⟩

/-- The second batch repeats an identifier of the first one. -/
theorem load_append_of_sampleFiles :
    (empty.load sampleFiles ["a.yml", "note.yml"]).2 = .ok 1 ∧
      ((empty.load sampleFiles ["a.yml", "note.yml"]).1.load sampleFiles ["again.yml", "b.yml"]).2 = .ok 1 ∧
      (empty.load sampleFiles ["a.yml", "note.yml", "again.yml", "b.yml"]).2 = .ok 2 ∧
      (empty.load sampleFiles ["a.yml", "note.yml", "again.yml", "b.yml"]).1.outcomes =
        [.loaded "a.yml" "a", .skipped (.idCardinality "note.yml" 0),
          .skipped (.duplicateId "a" "again.yml" "a.yml"), .loaded "b.yml" "b"] := by
  obtain ⟨ha, hb, hagain, hnote⟩ := load_sampleFiles
  have hfirst : empty.stagedBy sampleFiles ["a.yml", "note.yml"] =
      [.ok ⟨"a", "a.yml", inflate (.object [("name", .string "string")])⟩, .error (.idCardinality "note.yml" 0)] := by
    simp [stagedBy, stageAll, stage, holder?, ha, hnote, Document.values, directiveValues, Directive.idKey, get?,
      empty, bind, Except.bind, Failure.isRecoverable]
  have hboth : empty.stagedBy sampleFiles (["a.yml", "note.yml"] ++ ["again.yml", "b.yml"]) =
      [.ok ⟨"a", "a.yml", inflate (.object [("name", .string "string")])⟩, .error (.idCardinality "note.yml" 0)] ++
        [.error (.duplicateId "a" "again.yml" "a.yml"),
          .ok ⟨"b", "b.yml", inflate (.object [("mode", .array [.string "dev", .string "prod"])])⟩] := by
    simp [stagedBy, stageAll, stage, holder?, ha, hb, hagain, hnote, Document.values, directiveValues,
      Directive.idKey, get?, empty, bind, Except.bind, Failure.isRecoverable]
  have hload : (empty.load sampleFiles ["a.yml", "note.yml"]).2 = .ok 1 := by
    rw [load_of_shorthand fun path hpath => shorthand_sampleFiles path (by simp at hpath ⊢; tauto), hfirst]
    rfl
  have hsecond := hboth
  rw [stagedBy_append hload, hfirst, List.append_cancel_left_eq] at hsecond
  have hload' : ((empty.load sampleFiles ["a.yml", "note.yml"]).1.load sampleFiles ["again.yml", "b.yml"]).2 =
      .ok 1 := by
    rw [load_of_shorthand fun path hpath => shorthand_sampleFiles path (by simp at hpath ⊢; tauto), hsecond]
    rfl
  have hwhole : (empty.load sampleFiles ["a.yml", "note.yml", "again.yml", "b.yml"]).2 = .ok 2 :=
    congrArg Prod.snd ((load_append_and_agrees [] sampleFiles).1 _ ["again.yml", "b.yml"] 1 1 hload hload')
  refine ⟨hload, hload', hwhole, ?_⟩
  rw [load_of_ok hwhole]
  exact congrArg (List.map entryOutcome) hboth

end Registry

end YamlSchema
