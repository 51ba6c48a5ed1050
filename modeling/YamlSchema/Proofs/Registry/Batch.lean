import YamlSchema.Registry

/-!
# What a batch does

A batch is staged and then committed.  Staging (`stageAll_spec`) only depends on the schemas that are registered: what
is staged has distinct identifiers, none of which is taken.  Committing (`commitAll_spec`) registers what is staged one
after the other, each compiled against the same table of references, and stops before the first schema that is refused.
Together (`load_spec`) a batch appends entries to the schemas and to the outcomes, one outcome for each file before the
one that ends it.
-/

namespace YamlSchema

open Schema (References Refusal Validator)

/-! ### Documents -/

theorem Document.path_of_load {fs : FileSystem} {path : String} {d : Document}
    (h : Document.load fs path = .ok d) : d.path = path := by
  unfold Document.load at h
  split at h
  · cases h
  · unfold Document.parse at h
    split at h
    · cases h
    · cases h; rfl

theorem Document.failure_of_load {fs : FileSystem} {path : String} {e : Failure}
    (h : Document.load fs path = .error e) : e.path = path ∧ e.isRecoverable = false := by
  unfold Document.load at h
  split at h
  · cases h; exact ⟨rfl, rfl⟩
  · unfold Document.parse at h
    split at h
    · cases h; exact ⟨rfl, rfl⟩
    · cases h

namespace Registry

/-! ### Entries of a batch -/

/-- The file that a staged or refused document came from. -/
def entryPath : Except Failure Staged → String
  | .ok s => s.path
  | .error e => e.path

/-- What is noted of a staged or refused document. -/
def entryOutcome : Except Failure Staged → LoadOutcome
  | .ok s => .loaded s.path s.id
  | .error e => .skipped e

@[simp] theorem path_entryOutcome (entry : Except Failure Staged) : (entryOutcome entry).path = entryPath entry := by
  cases entry <;> rfl

@[simp] theorem stagedOf_nil : stagedOf [] = [] := rfl

@[simp] theorem stagedOf_ok (s : Staged) (rest : List (Except Failure Staged)) :
    stagedOf (.ok s :: rest) = s :: stagedOf rest := rfl

@[simp] theorem stagedOf_error (e : Failure) (rest : List (Except Failure Staged)) :
    stagedOf (.error e :: rest) = stagedOf rest := rfl

theorem stagedOf_cons (entry : Except Failure Staged) (rest : List (Except Failure Staged)) :
    stagedOf (entry :: rest) = stagedOf [entry] ++ stagedOf rest := by
  cases entry <;> rfl

@[simp] theorem stagedOf_append (a b : List (Except Failure Staged)) :
    stagedOf (a ++ b) = stagedOf a ++ stagedOf b := List.filterMap_append

/-! ### Staging -/

theorem holder?_eq_none_iff {r : Registry} {pending : List Staged} {id : String} :
    r.holder? pending id = none ↔ r.get? id = none ∧ ∀ s ∈ pending, s.id ≠ id := by
  simp [holder?, Option.or_eq_none_iff]

theorem holder?_append (r : Registry) (pending more : List Staged) (id : String) :
    r.holder? (pending ++ more) id = (r.holder? pending id).or ((more.find? fun s => s.id = id).map fun s => s.path) := by
  simp only [holder?, List.find?_append, Option.map_or, Option.or_assoc]

/-- A staged schema has the one identifier that its document states, and nobody holds it yet. -/
theorem stage_ok {r : Registry} {pending : List Staged} {d : Document} {s : Staged} (h : r.stage pending d = .ok s) :
    d.values Directive.idKey = [s.id] ∧ s.path = d.path ∧ s.canonical = inflate d.content ∧
      r.get? s.id = none ∧ ∀ p ∈ pending, p.id ≠ s.id := by
  unfold stage at h
  split at h
  · rename_i id hid
    split at h
    · cases h
    · rename_i hfree
      cases h
      exact ⟨hid, rfl, rfl, holder?_eq_none_iff.1 hfree⟩
  · cases h

theorem stage_error {r : Registry} {pending : List Staged} {d : Document} {e : Failure}
    (h : r.stage pending d = .error e) : e.path = d.path ∧ e.isRecoverable = true := by
  unfold stage at h
  split at h
  · split at h
    · cases h; exact ⟨rfl, rfl⟩
    · cases h
  · cases h; exact ⟨rfl, rfl⟩

theorem entryPath_stage (r : Registry) (pending : List Staged) (d : Document) :
    entryPath (r.stage pending d) = d.path := by
  cases h : r.stage pending d with
  | ok s => exact (stage_ok h).2.1
  | error e => exact (stage_error h).1

/-- A registration puts a compiled schema with a free identifier behind the others, or leaves the schemas as they are. -/
theorem registerDocument_cases (r : Registry) (d : Document) :
    (r.registerDocument d).1.schemas = r.schemas ∨ ∃ s validator, r.stage [] d = .ok s ∧
      Validator.compile (r.announce s).references s.canonical = .ok validator ∧
      (r.registerDocument d).1 =
        { r.announce s with schemas := r.schemas ++ [(s.id, ⟨s.id, s.path, s.canonical, validator⟩)] } := by
  unfold registerDocument
  split
  · rename_i s hs
    have hfree : r.get? s.id = none := (stage_ok hs).2.2.2.1
    unfold commit
    split
    · rename_i validator hc
      refine .inr ⟨s, validator, hs, hc, ?_⟩
      simp only [announce]
      rw [OrderedMap.insert_of_get?_eq_none _ hfree]
    · exact .inl rfl
  · exact .inl rfl

theorem get?_registerDocument {r : Registry} {id : String} {s : Registered} (h : r.get? id = some s) (d : Document) :
    (r.registerDocument d).1.get? id = some s := by
  rw [get?] at h
  rcases registerDocument_cases r d with heq | ⟨t, validator, -, -, heq⟩
  · rw [get?, heq, h]
  · rw [get?, heq, OrderedMap.get?_append, h, Option.some_or]

/-- A schema behind a registration was there before, or it is the one of the document. -/
theorem get?_registerDocument_cases {r : Registry} {d : Document} {id : String} {s : Registered}
    (h : (r.registerDocument d).1.get? id = some s) : r.get? id = some s ∨
      d.values Directive.idKey = [id] ∧
        Validator.compile (r.registerDocument d).1.references s.canonical = .ok s.validator := by
  rcases registerDocument_cases r d with heq | ⟨t, validator, ht, hc, heq⟩
  · left
    rwa [get?, heq] at h
  · rw [get?, heq, OrderedMap.get?_append, Option.or_eq_some_iff] at h
    refine h.imp_right fun ⟨_, hnew⟩ => ?_
    cases List.mem_singleton.1 (OrderedMap.mem_of_get? hnew)
    rw [heq]
    exact ⟨(stage_ok ht).1, hc⟩

/-- A file that is no document ends the staging. -/
theorem stageAll_cons_of_error {r : Registry} {fs : FileSystem} {path : String} {e : Failure}
    (he : Document.load fs path = .error e) (pending : List Staged) (rest : List String) :
    r.stageAll fs pending (path :: rest) = ([], some e) := by
  rw [stageAll, he]
  exact if_neg (by rw [(Document.failure_of_load he).2]; exact Bool.false_ne_true)

/-- A document is staged behind what is pending, and the files after it behind both. -/
theorem stageAll_cons_of_ok {r : Registry} {fs : FileSystem} {path : String} {d : Document}
    (hd : Document.load fs path = .ok d) (pending : List Staged) (rest : List String) :
    r.stageAll fs pending (path :: rest) =
      (r.stage pending d :: (r.stageAll fs (pending ++ stagedOf [r.stage pending d]) rest).1,
        (r.stageAll fs (pending ++ stagedOf [r.stage pending d]) rest).2) := by
  simp only [stageAll, hd, bind, Except.bind]
  cases h : r.stage pending d with
  | ok s => rfl
  | error e =>
    rw [stagedOf_error, stagedOf_nil, List.append_nil]
    exact if_pos (stage_error h).2

/-- Staged schemas have distinct identifiers that neither the registry nor an earlier schema holds. -/
structure Distinct (r : Registry) (pending staged : List Staged) : Prop where
  nodup : (staged.map Staged.id).Nodup
  free : ∀ s ∈ staged, r.get? s.id = none
  apart : ∀ s ∈ staged, ∀ p ∈ pending, p.id ≠ s.id

/-- What is staged behind a document is distinct from it too. -/
private theorem Distinct.cons {r : Registry} {pending : List Staged} {d : Document}
    {rest : List (Except Failure Staged)}
    (h : Distinct r (pending ++ stagedOf [r.stage pending d]) (stagedOf rest)) :
    Distinct r pending (stagedOf (r.stage pending d :: rest)) := by
  cases hs : r.stage pending d with
  | error e => simpa [hs] using h
  | ok s =>
    obtain ⟨-, -, -, hfree, hnew⟩ := stage_ok hs
    rw [hs, stagedOf_ok, stagedOf_nil] at h
    rw [stagedOf_ok]
    refine ⟨?_, List.forall_mem_cons.2 ⟨hfree, h.free⟩, List.forall_mem_cons.2 ⟨hnew, fun t ht p hp => ?_⟩⟩
    · refine List.nodup_cons.2 ⟨fun hmem => ?_, h.nodup⟩
      obtain ⟨t, ht, heq⟩ := List.mem_map.1 hmem
      exact h.apart t ht s (by simp) heq.symm
    · exact h.apart t ht p (List.mem_append_left _ hp)

/-- Every file gets one entry, up to the one whose failure ends the batch. -/
theorem stageAll_spec (r : Registry) (fs : FileSystem) (paths : List String) : ∀ (pending : List Staged),
    (r.stageAll fs pending paths).1.map entryPath = paths.take (r.stageAll fs pending paths).1.length ∧
    Distinct r pending (stagedOf (r.stageAll fs pending paths).1) ∧
    match (r.stageAll fs pending paths).2 with
    | none => (r.stageAll fs pending paths).1.length = paths.length
    | some e => paths[(r.stageAll fs pending paths).1.length]? = some e.path ∧ e.isRecoverable = false := by
  -- what is pending grows with every schema that is staged, so the statement is about any such list
  induction paths with
  | nil => intro pending; exact ⟨rfl, ⟨List.nodup_nil, by simp [stageAll], by simp [stageAll]⟩, rfl⟩
  | cons path rest ih =>
    intro pending
    cases hd : Document.load fs path with
    | error e =>
      obtain ⟨hpath, hfatal⟩ := Document.failure_of_load hd
      rw [stageAll_cons_of_error hd]
      exact ⟨rfl, ⟨List.nodup_nil, by simp, by simp⟩, congrArg some hpath.symm, hfatal⟩
    | ok d =>
      have hpath := (entryPath_stage r pending d).trans (Document.path_of_load hd)
      obtain ⟨hpaths, hdistinct, hend⟩ := ih (pending ++ stagedOf [r.stage pending d])
      rw [stageAll_cons_of_ok hd]
      refine ⟨by simp [hpaths, hpath], hdistinct.cons, ?_⟩
      revert hend
      dsimp only
      split <;> simp

/-! ### Committing -/

/-- The registry `after` has all that `r` has, and behind it what committing `done` adds: an outcome for each entry,
and for those that were staged the schemas `new`, compiled against a table of references. -/
structure Extends (table : References) (r after : Registry) (done : List (Except Failure Staged))
    (new : List Registered) : Prop where
  schemas : after.schemas = r.schemas ++ new.map fun s => (s.id, s)
  outcomes : after.outcomes = r.outcomes ++ done.map entryOutcome
  staged : (new.map fun s => Staged.mk s.id s.path s.canonical) = stagedOf done
  compiled : ∀ s ∈ new, Validator.compile table s.canonical = .ok s.validator

/-- What is staged and committed is compiled. -/
theorem Extends.exists_compile {table : References} {r after : Registry} {done : List (Except Failure Staged)}
    {new : List Registered} (h : Extends table r after done new) :
    ∀ s ∈ stagedOf done, ∃ c, Validator.compile table s.canonical = .ok c := by
  rw [← h.staged, List.forall_mem_map]
  exact fun t ht => ⟨t.validator, h.compiled t ht⟩

/-- Why committing `entries` ends behind `done`, and what becomes of the references: nothing is left, or the next schema
is refused. -/
inductive Stops (table : References) (entries done : List (Except Failure Staged)) :
    References → Option Failure → Prop
  | finished (h : done = entries) : Stops table entries done table none
  | refused (s : Staged) (rest : List (Except Failure Staged)) (why : Refusal) (h : entries = done ++ .ok s :: rest)
      (hwhy : Validator.compile table s.canonical = .error why) :
      Stops table entries done (OrderedMap.erase table s.id) (some (.notCompiled s.id s.path why.message))

private theorem Stops.cons {table after : References} {entries done : List (Except Failure Staged)}
    {fatal : Option Failure} (entry : Except Failure Staged) (h : Stops table entries done after fatal) :
    Stops table (entry :: entries) (entry :: done) after fatal := by
  cases h with
  | finished h => exact .finished (congrArg _ h)
  | refused s rest why h hwhy => exact .refused s rest why (by rw [h]; rfl) hwhy

private theorem Extends.refl (table : References) (r : Registry) : Extends table r r [] [] :=
  ⟨by simp, by simp, rfl, by simp⟩

private theorem Extends.skip {table : References} {r after : Registry} {done : List (Except Failure Staged)}
    {new : List Registered} {e : Failure} (h : Extends table (r.note (.skipped e)) after done new) :
    Extends table r after (.error e :: done) new where
  schemas := h.schemas
  outcomes := by rw [h.outcomes]; simp [note, entryOutcome]
  staged := h.staged
  compiled := h.compiled

private theorem Extends.register {table : References} {r after : Registry} {done : List (Except Failure Staged)}
    {new : List Registered} {s : Staged} {validator : Validator} (hfree : r.get? s.id = none)
    (hc : Validator.compile table s.canonical = .ok validator)
    (h : Extends table (Registry.note { r with
        schemas := OrderedMap.insert r.schemas s.id ⟨s.id, s.path, s.canonical, validator⟩ } (.loaded s.path s.id))
      after done new) :
    Extends table r after (.ok s :: done) (⟨s.id, s.path, s.canonical, validator⟩ :: new) where
  schemas := by
    rw [h.schemas, note, OrderedMap.insert_of_get?_eq_none _ hfree]
    simp
  outcomes := by rw [h.outcomes]; simp [note, entryOutcome]
  staged := by simp [h.staged]
  compiled := by
    intro t ht
    rcases List.mem_cons.1 ht with rfl | ht
    · exact hc
    · exact h.compiled t ht

/-- Entries are committed in their order, up to the first schema that is refused. -/
theorem commitAll_spec (entries : List (Except Failure Staged)) : ∀ (r : Registry),
    ((stagedOf entries).map Staged.id).Nodup → (∀ s ∈ stagedOf entries, r.get? s.id = none) →
    ∃ done new, Extends r.references r (r.commitAll entries).1 done new ∧ (r.commitAll entries).2.1 = new.length ∧
      Stops r.references entries done (r.commitAll entries).1.references (r.commitAll entries).2.2 := by
  induction entries with
  | nil => intro r _ _; exact ⟨[], [], Extends.refl _ r, rfl, .finished rfl⟩
  | cons entry rest ih =>
    intro r hnodup hfree
    cases entry with
    | error e =>
      obtain ⟨done, new, hext, hcount, hstop⟩ := ih (r.note (.skipped e)) hnodup hfree
      exact ⟨.error e :: done, new, hext.skip, hcount, hstop.cons _⟩
    | ok s =>
      rw [commitAll, commit]
      cases hc : Validator.compile r.references s.canonical with
      | error why =>
        have hnothing := Extends.refl r.references r
        exact ⟨[], [], ⟨hnothing.schemas, hnothing.outcomes, rfl, by simp⟩, rfl, .refused s rest why rfl hc⟩
      | ok validator =>
        -- the new schema takes no identifier of those that follow, for staged identifiers are distinct
        simp only [stagedOf_ok, List.map_cons, List.nodup_cons] at hnodup
        have hs : r.get? s.id = none := hfree s (by simp)
        have hrest : ∀ t ∈ stagedOf rest, OrderedMap.get?
            (OrderedMap.insert r.schemas s.id ⟨s.id, s.path, s.canonical, validator⟩) t.id = none := by
          intro t ht
          have hne : t.id ≠ s.id := fun e => hnodup.1 (List.mem_map.2 ⟨t, ht, e⟩)
          rw [OrderedMap.get?_insert_of_ne _ _ hne]
          exact hfree t (by simp [ht])
        obtain ⟨done, new, hext, hcount, hstop⟩ := ih (Registry.note { r with
          schemas := OrderedMap.insert r.schemas s.id ⟨s.id, s.path, s.canonical, validator⟩ } (.loaded s.path s.id))
          hnodup.2 hrest
        exact ⟨.ok s :: done, _, hext.register hs hc, congrArg (· + 1) hcount, hstop.cons _⟩

/-! ### Batches -/

/-- The references against which the schemas of a batch are compiled. -/
def batchReferences (r : Registry) (staged : List Staged) : References := (staged.foldl announce r).references

theorem foldl_announce (staged : List Staged) : ∀ (r : Registry),
    staged.foldl announce r = { r with references := r.batchReferences staged } := by
  induction staged with
  | nil => intro r; rfl
  | cons s rest ih => intro r; exact ih (r.announce s)

theorem get?_batchReferences_of_forall_ne {staged : List Staged} {id : String} : ∀ {r : Registry},
    (∀ s ∈ staged, s.id ≠ id) → OrderedMap.get? (r.batchReferences staged) id = OrderedMap.get? r.references id := by
  induction staged with
  | nil => intro r _; rfl
  | cons s rest ih =>
    intro r h
    have hs : id ≠ s.id := fun e => h s (by simp) e.symm
    have hrest := ih (r := r.announce s) fun t ht => h t (by simp [ht])
    exact hrest.trans (OrderedMap.get?_insert_of_ne _ _ hs)

theorem get?_batchReferences_of_mem {staged : List Staged} (hnodup : (staged.map Staged.id).Nodup) {s : Staged}
    (hs : s ∈ staged) : ∀ {r : Registry}, OrderedMap.get? (r.batchReferences staged) s.id = some s.canonical := by
  induction staged with
  | nil => cases hs
  | cons t rest ih =>
    intro r
    simp only [List.map_cons, List.nodup_cons] at hnodup
    rcases List.mem_cons.1 hs with rfl | hs
    · have hne : ∀ t ∈ rest, t.id ≠ s.id := fun t ht e => hnodup.1 (List.mem_map.2 ⟨t, ht, e⟩)
      exact (get?_batchReferences_of_forall_ne (r := r.announce s) hne).trans (OrderedMap.get?_insert_self _ _ _)
    · exact ih hnodup.2 hs (r := r.announce t)

/-- Why a batch ends, what references it leaves and what it answers: the schemas of all its files are registered, or a
file that cannot be staged ends it, or a schema that is refused. -/
inductive Ends (table : References) (paths : List String) (staged done : List (Except Failure Staged))
    (new : List Registered) (ids : List String) : References → Except Failure Nat → Prop
  | loaded (hdone : done = staged) (hall : staged.length = paths.length) :
      Ends table paths staged done new ids table (.ok new.length)
  | unstaged (e : Failure) (hdone : done = staged) (hpath : paths[staged.length]? = some e.path) :
      Ends table paths staged done new ids (OrderedMap.retain table ids) (.error e)
  | refused (s : Staged) (rest : List (Except Failure Staged)) (why : Refusal) (hdone : staged = done ++ .ok s :: rest)
      (hwhy : Validator.compile table s.canonical = .error why) :
      Ends table paths staged done new ids (OrderedMap.retain (OrderedMap.erase table s.id) ids)
        (.error (.notCompiled s.id s.path why.message))

/-- What a batch stages. -/
def stagedBy (r : Registry) (fs : FileSystem) (paths : List String) : List (Except Failure Staged) :=
  (r.stageAll fs [] paths).1

/-- The table of references against which a batch is compiled. -/
def tableOf (r : Registry) (fs : FileSystem) (paths : List String) : References :=
  r.batchReferences (stagedOf (r.stagedBy fs paths))

/-- All that a batch can do. -/
theorem load_spec (r : Registry) (fs : FileSystem) (paths : List String) :
    (r.stagedBy fs paths).map entryPath = paths.take (r.stagedBy fs paths).length ∧
      Distinct r [] (stagedOf (r.stagedBy fs paths)) ∧
      ∃ done new, Extends (r.tableOf fs paths) r (r.load fs paths).1 done new ∧
        Ends (r.tableOf fs paths) paths (r.stagedBy fs paths) done new (OrderedMap.keys (r.load fs paths).1.schemas)
          (r.load fs paths).1.references (r.load fs paths).2 := by
  obtain ⟨hpaths, hdistinct, hend⟩ := stageAll_spec r fs paths []
  refine ⟨hpaths, hdistinct, ?_⟩
  rw [load, tableOf, stagedBy]
  generalize r.stageAll fs [] paths = batch at hpaths hdistinct hend ⊢
  obtain ⟨staged, unstaged⟩ := batch
  dsimp only at hpaths hdistinct hend ⊢
  rw [foldl_announce]
  generalize r.batchReferences (stagedOf staged) = table
  obtain ⟨done, new, hext, hcount, hstop⟩ := commitAll_spec staged { r with references := table } hdistinct.nodup
    hdistinct.free
  generalize commitAll { r with references := table } staged = committed at hext hcount hstop ⊢
  obtain ⟨⟨schemas, references, outcomes⟩, loaded, uncompiled⟩ := committed
  dsimp only at hext hcount hstop ⊢
  subst hcount
  refine ⟨done, new, ?_⟩
  cases hstop with
  | finished hdone =>
    cases unstaged with
    | none => exact ⟨⟨hext.schemas, hext.outcomes, hext.staged, hext.compiled⟩, .loaded hdone hend⟩
    | some e => exact ⟨⟨hext.schemas, hext.outcomes, hext.staged, hext.compiled⟩, .unstaged e hdone hend.1⟩
  | refused s rest why hdone hwhy =>
    exact ⟨⟨hext.schemas, hext.outcomes, hext.staged, hext.compiled⟩, .refused s rest why hdone hwhy⟩

/-- What was committed is the beginning of what had been staged. -/
theorem Ends.exists_append {table left : References} {paths : List String} {staged done : List (Except Failure Staged)}
    {new : List Registered} {ids : List String} {result : Except Failure Nat}
    (h : Ends table paths staged done new ids left result) : ∃ rest, stagedOf staged = stagedOf done ++ rest := by
  cases h with
  | loaded hdone | unstaged _ hdone => exact ⟨[], by rw [hdone, List.append_nil]⟩
  | refused s rest _ hdone => exact ⟨s :: stagedOf rest, by rw [hdone]; simp⟩

end Registry

end YamlSchema
