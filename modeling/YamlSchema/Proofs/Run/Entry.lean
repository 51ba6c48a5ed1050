import YamlSchema.Proofs.Run.Selection

/-!
# Entries of a report

An `Entry` is what one line of a report tells, if it tells anything of a file; `Entry.line` writes it.  What is made of
a target are its entries (`lines_partOf`), and what a run counts of targets is the number of the entries of one kind
(`counts_partsOf`).
-/

namespace YamlSchema

open Report (Line)
open Schema (ErrorReport)

namespace Tally

theorem exitCode_eq_zero_iff {t : Tally} : t.exitCode = 0 ↔ t.failed = 0 ∧ t.loadErrors = 0 := by
  rw [exitCode]
  split <;> omega

theorem exitCode_eq_one_iff {t : Tally} : t.exitCode = 1 ↔ 0 < t.failed ∨ 0 < t.loadErrors := by
  rw [exitCode]
  split <;> omega

end Tally

namespace Run

/-- What a line of a report tells. -/
inductive Entry where
  /-- A schema file was loaded. -/
  | loaded (id file : String)
  /-- A schema file was skipped. -/
  | skipped (file message : String)
  /-- A target meets a schema. -/
  | passed (id file : String)
  /-- A target breaks a schema. -/
  | failed (id file : String)
  /-- A target declares a schema that is not registered. -/
  | unknown (id file : String)
  /-- A target declares no schema. -/
  | undeclared (file : String)
  /-- A target cannot be read. -/
  | unreadable (file message : String)
  /-- The errors of a target by a schema follow. -/
  | heading (id file : String)
  | error (e : ErrorReport)
  | summary (passed failed errors unreadable : Nat)

namespace Entry

inductive Kind where
  | loaded
  | skipped
  | passed
  | failed
  | unknown
  | undeclared
  | unreadable
  | heading
  | error
  | summary
  deriving DecidableEq

def kind : Entry → Kind
  | .loaded .. => .loaded
  | .skipped .. => .skipped
  | .passed .. => .passed
  | .failed .. => .failed
  | .unknown .. => .unknown
  | .undeclared .. => .undeclared
  | .unreadable .. => .unreadable
  | .heading .. => .heading
  | .error .. => .error
  | .summary .. => .summary

def line : Entry → Line
  | .loaded id file => Report.schemaLoaded id file
  | .skipped file message => Report.schemaSkipped file message
  | .passed id file => Report.targetPassed id file
  | .failed id file => Report.targetFailed id file
  | .unknown id file => Report.unknownSchema id file
  | .undeclared file => Report.noSchemas file
  | .unreadable file message => Report.targetUnreadable file message
  | .heading id file => Report.failureHeading id file
  | .error e => Report.failureError e
  | .summary p f e u => Report.summary p f e u

/-- How many entries are of a kind. -/
def count (k : Kind) (entries : List Entry) : Nat := entries.countP fun e => e.kind = k

end Entry

/-! ### Targets -/

/-- The schemas that a target breaks. -/
def breachesOf : Except Failure Verdict → List Breach
  | .ok v => v.failures
  | .error _ => []

/-- What is told about a target: its passes and then its failures, or why there are none. -/
def targetEntries (file : String) : Except Failure Verdict → List Entry
  | .ok v => v.passes.map (fun p => .passed p.schemaId file) ++ v.failures.map (fun b => .failed b.schemaId file)
  | .error (.unknownSchema _ id) => [.unknown id file]
  | .error (.noSchemaDeclared _) => [.undeclared file]
  | .error f => [.unreadable file f.message]

/-- What is told about the errors of a target by a schema that it breaks. -/
def breachEntries (file : String) (b : Breach) : List Entry :=
  .heading b.schemaId file :: b.errors.map .error

/-- A verdict tells of a failure just if it has one. -/
theorem exists_failed_iff {file : String} {v : Verdict} :
    (∃ e ∈ targetEntries file (.ok v), e.kind = .failed ∨ e.kind = .unreadable) ↔ ∃ b, b ∈ v.failures := by
  constructor
  · rintro ⟨e, he, hkind⟩
    rcases List.mem_append.1 he with he | he
    · obtain ⟨p, -, rfl⟩ := List.mem_map.1 he
      simp [Entry.kind] at hkind
    · obtain ⟨b, hb, -⟩ := List.mem_map.1 he
      exact ⟨b, hb⟩
  · rintro ⟨b, hb⟩
    exact ⟨.failed b.schemaId file, List.mem_append_right _ (List.mem_map.2 ⟨b, hb, rfl⟩), .inl rfl⟩

theorem lines_partOf (file : String) (result : Except Failure Verdict) :
    (partOf file result).lines = (targetEntries file result).map Entry.line := by
  match result with
  | .ok v => simp [partOf, targetEntries, Function.comp_def, Entry.line]
  | .error f => cases f <;> rfl

theorem details_partOf (file : String) (result : Except Failure Verdict) :
    (partOf file result).details = (breachesOf result).map (Detail.mk file) := by
  match result with
  | .ok v => rfl
  | .error f => cases f <;> rfl

/-- What is told about some targets, given the result of each. -/
def targetsEntries (targets : List String) (result : String → Except Failure Verdict) : List Entry :=
  targets.flatMap fun file => targetEntries file (result file)

theorem count_targetsEntries_cons (k : Entry.Kind) (file : String) (rest : List String)
    (result : String → Except Failure Verdict) :
    Entry.count k (targetsEntries (file :: rest) result) =
      Entry.count k (targetEntries file (result file)) + Entry.count k (targetsEntries rest result) := by
  rw [targetsEntries, List.flatMap_cons]
  exact List.countP_append

/-- What is told about the errors of some targets. -/
def breachesEntries (targets : List String) (result : String → Except Failure Verdict) : List Entry :=
  targets.flatMap fun file => (breachesOf (result file)).flatMap (breachEntries file)

/-! ### Counts -/

/-- A count that is added up over the targets is the number of what it counts. -/
private theorem foldl_add_eq_length {α : Type} {f : Tally → Nat} (hempty : f {} = 0)
    (hadd : ∀ a b, f (a.add b) = f a + f b) (result : String → Except Failure Verdict) (counted : String → List α)
    (h : ∀ file, f (partOf file (result file)).tally = (counted file).length) (targets : List String) :
    f ((targets.map fun file => (partOf file (result file)).tally).foldl Tally.add {}) =
      (targets.flatMap counted).length := by
  suffices hsum : ∀ t : Tally,
      f ((targets.map fun file => (partOf file (result file)).tally).foldl Tally.add t) =
        f t + (targets.flatMap counted).length by
    rw [hsum, hempty, Nat.zero_add]
  induction targets with
  | nil => intro t; rfl
  | cons file rest ih =>
    intro t
    rw [List.map_cons, List.foldl_cons, ih, hadd, h, List.flatMap_cons, List.length_append, Nat.add_assoc]

/-- A count that each target adds to as many times as it has entries of a kind. -/
private theorem foldl_add_eq_count {f : Tally → Nat} (k : Entry.Kind) (hempty : f {} = 0)
    (hadd : ∀ a b, f (a.add b) = f a + f b) {result : String → Except Failure Verdict}
    (h : ∀ file, f (partOf file (result file)).tally = Entry.count k (targetEntries file (result file)))
    (targets : List String) :
    f ((targets.map fun file => (partOf file (result file)).tally).foldl Tally.add {}) =
      Entry.count k (targetsEntries targets result) := by
  have hcounted := foldl_add_eq_length hempty hadd result
    (fun file => (targetEntries file (result file)).filter fun e => e.kind = k)
    (fun file => by rw [h, Entry.count, List.countP_eq_length_filter]) targets
  rw [hcounted, Entry.count, targetsEntries, List.countP_eq_length_filter, List.filter_flatMap]

/-- What a run counts of its targets, given the result of each. -/
structure Counts (files : List String) (result : String → Except Failure Verdict) (t : Tally) : Prop where
  targets : t.targets = files.length
  passed : t.passed = Entry.count .passed (targetsEntries files result)
  failed : t.failed = Entry.count .failed (targetsEntries files result)
  unknown : t.unknownReferences = Entry.count .unknown (targetsEntries files result)
  undeclared : t.undeclared = Entry.count .undeclared (targetsEntries files result)
  unreadable : t.loadErrors = Entry.count .unreadable (targetsEntries files result)
  errors : t.errors = Entry.count .error (breachesEntries files result)

/-- Of each kind, a target adds as much to the counts as there are entries. -/
private theorem counts_partOf (file : String) (result : Except Failure Verdict) :
    (partOf file result).tally.passed = Entry.count .passed (targetEntries file result) ∧
    (partOf file result).tally.failed = Entry.count .failed (targetEntries file result) ∧
    (partOf file result).tally.unknownReferences = Entry.count .unknown (targetEntries file result) ∧
    (partOf file result).tally.undeclared = Entry.count .undeclared (targetEntries file result) ∧
    (partOf file result).tally.loadErrors = Entry.count .unreadable (targetEntries file result) := by
  match result with
  | .ok v => simp [partOf, targetEntries, Entry.count, Entry.kind, List.countP_map, Function.comp_def]
  | .error f => cases f <;> simp [partOf, targetEntries, Entry.count, Entry.kind]

private theorem errors_partOf (file : String) (result : Except Failure Verdict) :
    (partOf file result).tally.errors =
      Entry.count .error ((breachesOf result).flatMap (breachEntries file)) := by
  match result with
  | .ok v =>
    change (v.failures.flatMap fun b => b.errors).length = Entry.count .error (v.failures.flatMap (breachEntries file))
    have hbreach : ∀ b : Breach, (breachEntries file b).filter (fun e => e.kind = .error) = b.errors.map .error := by
      intro b
      rw [breachEntries, List.filter_cons_of_neg (by simp [Entry.kind]), List.filter_eq_self.2 (by simp [Entry.kind])]
    rw [Entry.count, List.countP_eq_length_filter, List.filter_flatMap]
    simp only [hbreach, List.length_flatMap, List.length_map]
  | .error f => cases f <;> rfl

private theorem counts_targets (files : List String) (result : String → Except Failure Verdict) :
    Counts files result ((files.map fun file => (partOf file (result file)).tally).foldl Tally.add {}) where
  targets := by
    have hone : ∀ file, (partOf file (result file)).tally.targets = [file].length := by
      intro file
      match result file with
      | .ok v => rfl
      | .error f => cases f <;> rfl
    rw [foldl_add_eq_length rfl (fun _ _ => rfl) result _ hone, List.flatMap_singleton']
  passed := foldl_add_eq_count .passed rfl (fun _ _ => rfl) (fun file => (counts_partOf file _).1) files
  failed := foldl_add_eq_count .failed rfl (fun _ _ => rfl) (fun file => (counts_partOf file _).2.1) files
  unknown := foldl_add_eq_count .unknown rfl (fun _ _ => rfl) (fun file => (counts_partOf file _).2.2.1) files
  undeclared := foldl_add_eq_count .undeclared rfl (fun _ _ => rfl) (fun file => (counts_partOf file _).2.2.2.1) files
  unreadable := foldl_add_eq_count .unreadable rfl (fun _ _ => rfl) (fun file => (counts_partOf file _).2.2.2.2) files
  errors := by
    have herrors : ∀ file, (partOf file (result file)).tally.errors =
        (((breachesOf (result file)).flatMap (breachEntries file)).filter fun e => e.kind = .error).length := by
      intro file
      rw [← List.countP_eq_length_filter]
      exact errors_partOf file (result file)
    rw [foldl_add_eq_length rfl (fun _ _ => rfl) result _ herrors, Entry.count, breachesEntries,
      List.countP_eq_length_filter, List.filter_flatMap]

/-- Targets are no schemas. -/
private theorem counts_targets_schemas (files : List String) (result : String → Except Failure Verdict) :
    ((files.map fun file => (partOf file (result file)).tally).foldl Tally.add {}).schemasLoaded = 0 ∧
      ((files.map fun file => (partOf file (result file)).tally).foldl Tally.add {}).schemasSkipped = 0 := by
  have hnone : ∀ file, (partOf file (result file)).tally.schemasLoaded = ([] : List String).length ∧
      (partOf file (result file)).tally.schemasSkipped = ([] : List String).length := by
    intro file
    match result file with
    | .ok v => exact ⟨rfl, rfl⟩
    | .error f => cases f <;> exact ⟨rfl, rfl⟩
  have hflat : files.flatMap (fun _ => ([] : List String)) = [] := by simp
  constructor
  · rw [foldl_add_eq_length rfl (fun _ _ => rfl) result _ fun file => (hnone file).1, hflat, List.length_nil]
  · rw [foldl_add_eq_length rfl (fun _ _ => rfl) result _ fun file => (hnone file).2, hflat, List.length_nil]

private theorem targetsTally_partsOf (r : Registry) (fs : FileSystem) (targets : List String) :
    targetsTally (partsOf r fs targets) =
      (targets.map fun file => (partOf file (r.validate fs file)).tally).foldl Tally.add {} := by
  rw [targetsTally, partsOf, List.map_map]
  rfl

/-- What a run counts of its targets. -/
theorem counts_partsOf (r : Registry) (fs : FileSystem) (targets : List String) :
    Counts targets (r.validate fs) ((schemasTally r).add (targetsTally (partsOf r fs targets))) := by
  have h := counts_targets targets (r.validate fs)
  rw [targetsTally_partsOf]
  -- schemas are counted apart, so that each of these counts is added to nothing
  exact ⟨(Nat.zero_add _).trans h.targets, (Nat.zero_add _).trans h.passed, (Nat.zero_add _).trans h.failed,
    (Nat.zero_add _).trans h.unknown, (Nat.zero_add _).trans h.undeclared, (Nat.zero_add _).trans h.unreadable,
    (Nat.zero_add _).trans h.errors⟩

/-- What it counts of its schemas. -/
theorem schemas_partsOf (r : Registry) (fs : FileSystem) (targets : List String) :
    ((schemasTally r).add (targetsTally (partsOf r fs targets))).schemasLoaded = r.size ∧
      ((schemasTally r).add (targetsTally (partsOf r fs targets))).schemasSkipped = r.outcomes.length - r.size := by
  obtain ⟨hloaded, hskipped⟩ := counts_targets_schemas targets (r.validate fs)
  rw [targetsTally_partsOf]
  exact ⟨congrArg (r.size + ·) hloaded, congrArg (r.outcomes.length - r.size + ·) hskipped⟩

end Run

end YamlSchema
