import YamlSchema.Proofs.Registry.Mirror

/-!
# Accounting of batches

What a batch registers, notes and answers fits together.  `Account` says so of one batch: outcomes and schemas are
only appended, one outcome for each file up to the one that ends the batch, and the new schemas are those of the
outcomes that say so.  Every batch keeps its account (`load_accounts`), and so a registry that was filled by batches
alone has as many schemas as outcomes that are loaded.
-/

namespace YamlSchema

namespace Registry

/-- A schema that is noted as loaded. -/
def Registered.outcome (s : Registered) : LoadOutcome := .loaded s.path s.id

/-- Which of some files have got an entry, as an answer tells it: every file, and the answer counts those that are
loaded, or just the files before a position, and the answer is a failure of the file there. -/
def Covers (paths entries : List String) (loaded : Nat) : Except Failure Nat → Prop
  | .ok n => entries = paths ∧ n = loaded
  | .error e => ∃ j, paths[j]? = some e.path ∧ entries.length = j ∧ entries = paths.take j

/-- What a batch over some files does to a registry: `noted` are the outcomes and `new` the schemas that it adds. -/
structure Account (r after : Registry) (paths : List String) (result : Except Failure Nat) (noted : List LoadOutcome)
    (new : List Registered) : Prop where
  /-- Outcomes are appended; those that were there stay. -/
  outcomes : after.outcomes = r.outcomes ++ noted
  /-- So are schemas. -/
  schemas : after.schemas = r.schemas ++ new.map fun s => (s.id, s)
  /-- The new schemas are those of the outcomes that are loaded, under the same identifiers and paths. -/
  loaded : new.map Registered.outcome = noted.filter LoadOutcome.isLoaded
  /-- Their identifiers were free, and there are as many of them as schemas. -/
  free : ∀ s ∈ new, r.get? s.id = none
  distinct : (new.map Registered.id).Nodup
  /-- Every file before the one that ends the batch has its outcome, in the order of the files. -/
  covered : Covers paths (noted.map LoadOutcome.path) new.length result

private theorem filter_isLoaded (done : List (Except Failure Staged)) :
    (done.map entryOutcome).filter LoadOutcome.isLoaded =
      (stagedOf done).map fun s => LoadOutcome.loaded s.path s.id := by
  induction done with
  | nil => rfl
  | cons entry rest ih =>
    cases entry with
    | ok s => rw [List.map_cons, List.filter_cons_of_pos rfl, ih]; rfl
    | error e => rw [List.map_cons, List.filter_cons_of_neg (by simp [entryOutcome, LoadOutcome.isLoaded]), ih]; rfl

private theorem map_path_entryOutcome (done : List (Except Failure Staged)) :
    (done.map entryOutcome).map LoadOutcome.path = done.map entryPath := by
  rw [List.map_map]
  exact List.map_congr_left fun entry _ => path_entryOutcome entry

/-- The entries that were committed are those of the files before the end of the batch. -/
private theorem Ends.covered {table left : Schema.References} {paths : List String}
    {staged done : List (Except Failure Staged)} {new : List Registered} {ids : List String}
    {result : Except Failure Nat} (h : Ends table paths staged done new ids left result)
    (hpaths : staged.map entryPath = paths.take staged.length) :
    Covers paths (done.map entryPath) new.length result := by
  cases h with
  | loaded hdone hall =>
    refine ⟨?_, rfl⟩
    rw [hdone, hpaths, hall, List.take_length]
  | unstaged e hdone hpath => exact ⟨_, hpath, by rw [hdone, List.length_map], by rw [hdone, hpaths]⟩
  | refused s rest why hdone =>
    have hlen : done.length < staged.length := by rw [hdone]; simp
    refine ⟨done.length, ?_, List.length_map _, ?_⟩
    · have hget : (staged.map entryPath)[done.length]? = some s.path := by rw [hdone]; simp [entryPath]
      rw [hpaths, List.getElem?_take_of_lt hlen] at hget
      exact hget
    · have htake := congrArg (List.take done.length) hpaths
      rw [List.take_take, Nat.min_eq_left (Nat.le_of_lt hlen), ← List.map_take] at htake
      rw [← htake, hdone, List.take_left']
      rfl

/-- Every batch keeps its account. -/
theorem load_accounts (r : Registry) (fs : FileSystem) (paths : List String) :
    ∃ noted new, Account r (r.load fs paths).1 paths (r.load fs paths).2 noted new := by
  obtain ⟨hpaths, hdistinct, done, new, hext, hend⟩ := load_spec r fs paths
  have hmap : new.map Registered.id = (stagedOf done).map Staged.id := by
    rw [← hext.staged, List.map_map]
    rfl
  refine ⟨done.map entryOutcome, new, hext.outcomes, hext.schemas, ?_, ?_, ?_, ?_⟩
  · rw [filter_isLoaded, ← hext.staged, List.map_map]
    rfl
  · exact fun s hs => hext.free hend hdistinct hs
  · rw [hmap]
    exact hend.nodup hdistinct
  · rw [map_path_entryOutcome]
    exact hend.covered hpaths

/-! ### Registries filled by batches -/

/-- The registry behind some batches, each over the files as they are then. -/
def afterLoads (loads : List (FileSystem × List String)) : Registry :=
  loads.foldl (fun r batch => (r.load batch.1 batch.2).1) empty

/-- As many schemas as outcomes that are loaded. -/
def Balanced (r : Registry) : Prop := r.outcomes.countP LoadOutcome.isLoaded = r.size

theorem Account.balanced {r after : Registry} {paths : List String} {result : Except Failure Nat}
    {noted : List LoadOutcome} {new : List Registered} (h : Account r after paths result noted new)
    (hr : Balanced r) : Balanced after := by
  have hnew : noted.countP LoadOutcome.isLoaded = new.length := by
    rw [List.countP_eq_length_filter, ← h.loaded, List.length_map]
  rw [Balanced, size, h.outcomes, h.schemas, List.countP_append, hnew, hr]
  simp [size]

theorem balanced_afterLoads (loads : List (FileSystem × List String)) : Balanced (afterLoads loads) := by
  refine List.foldlRecOn loads _ rfl fun r hr batch _ => ?_
  obtain ⟨noted, new, h⟩ := load_accounts r batch.1 batch.2
  exact h.balanced hr

/-- In a balanced registry the outcomes without the schemas are those that are skipped. -/
theorem Balanced.outcomes_length_sub {r : Registry} (h : Balanced r) :
    r.size ≤ r.outcomes.length ∧
      r.outcomes.length - r.size = r.outcomes.countP fun o => !o.isLoaded := by
  have hcount := List.length_eq_countP_add_countP LoadOutcome.isLoaded (l := r.outcomes)
  rw [h] at hcount
  have heq : (r.outcomes.countP fun o => !o.isLoaded) = r.outcomes.countP fun o => decide ¬ o.isLoaded = true := by
    congr 1
    funext o
    cases o.isLoaded <;> rfl
  omega

/-- Whatever a registry holds, a batch appends outcomes and schemas as its account says; and behind batches alone every
outcome belongs to a registered schema or to a file that was skipped. -/
theorem load_accounts_and_balances :
    (∀ r fs paths, ∃ noted new, Account r (r.load fs paths).1 paths (r.load fs paths).2 noted new) ∧
    ∀ loads, (afterLoads loads).outcomes.countP LoadOutcome.isLoaded = (afterLoads loads).size ∧
      (afterLoads loads).size ≤ (afterLoads loads).outcomes.length ∧
      (afterLoads loads).outcomes.length - (afterLoads loads).size =
        (afterLoads loads).outcomes.countP fun o => !o.isLoaded :=
  ⟨load_accounts, fun loads => ⟨balanced_afterLoads loads, (balanced_afterLoads loads).outcomes_length_sub⟩⟩

end Registry

end YamlSchema
