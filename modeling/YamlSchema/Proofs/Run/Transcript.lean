import Mathlib.Data.List.Forall2
import YamlSchema.Proofs.Registry.Accounting
import YamlSchema.Proofs.Registry.Composition
import YamlSchema.Proofs.Run.ExitCode
import YamlSchema.Proofs.Tree.Pointer

/-!
# What a report tells

A run over targets writes its entries between lines that tell nothing of a file.  `Transcript` says which entries these
are: one for each schema file, those of each target, and behind them the errors of each schema that a target breaks; it
also says that the counts of the run are the numbers of these entries.  Every run that ends with counts keeps its
transcript (`transcript_ofSettings`).
-/

namespace YamlSchema

open Report (Line)

namespace Run

variable {r : Registry} {fs : FileSystem} {schemas targets : List String}

/-! ### Lines around the entries -/

/-- The lines of a report that tell nothing of a file: the banner, how much was found, the end, and blank ones. -/
def frame (schemas targets : Nat) : List Line :=
  [Report.banner Report.version, Report.blank, Report.plain "Globbing schemas... " ++ Report.found schemas "schemas",
    Report.plain "Globbing targets... " ++ Report.found targets "targets", Report.done]

/-- No entry is written as one of them. -/
theorem line_notMem_frame (e : Entry) (schemas targets : Nat) : e.line ∉ frame schemas targets := by
  cases e with
  | summary p f r u =>
    simp only [Entry.line, Report.summary]
    split <;> simp [frame, Report.banner, Report.blank, Report.plain, Report.found, Report.done, Report.painted]
  | _ =>
    simp [Entry.line, frame, Report.banner, Report.blank, Report.plain, Report.found, Report.done, Report.painted,
      Report.status, Report.schemaLoaded, Report.schemaSkipped, Report.targetPassed, Report.targetFailed,
      Report.unknownSchema, Report.noSchemas, Report.targetUnreadable, Report.failureHeading, Report.failureError]

/-- The lines that are written for entries. -/
def withoutFrame (schemas targets : Nat) (lines : List Line) : List Line :=
  lines.filter fun l => l ∉ frame schemas targets

theorem withoutFrame_append (n m : Nat) (a b : List Line) :
    withoutFrame n m (a ++ b) = withoutFrame n m a ++ withoutFrame n m b := List.filter_append ..

theorem withoutFrame_entries (n m : Nat) (entries : List Entry) :
    withoutFrame n m (entries.map Entry.line) = entries.map Entry.line := by
  refine List.filter_eq_self.2 fun l hl => ?_
  obtain ⟨e, -, rfl⟩ := List.mem_map.1 hl
  simpa using line_notMem_frame e n m

theorem withoutFrame_of_subset {n m : Nat} {lines : List Line} (h : ∀ l ∈ lines, l ∈ frame n m) :
    withoutFrame n m lines = [] := List.filter_eq_nil_iff.2 fun l hl => by simpa using h l hl

/-- Blank lines stand between the errors of a target by a schema. -/
theorem withoutFrame_detail (n m : Nat) (file : String) (b : Breach) :
    withoutFrame n m (Detail.lines ⟨file, b⟩) = (breachEntries file b).map Entry.line := by
  have hblank : Report.blank ∈ frame n m := by simp [frame]
  have herrors : withoutFrame n m (b.errors.flatMap fun e => [Report.blank, Report.failureError e]) =
      (b.errors.map Entry.error).map Entry.line := by
    have herror : ∀ e : Schema.ErrorReport, Report.failureError e ∉ frame n m :=
      fun e => line_notMem_frame (.error e) n m
    rw [withoutFrame, List.filter_flatMap, List.map_map, List.map_eq_flatMap]
    simp [hblank, herror, Entry.line]
  have hend : withoutFrame n m [Report.blank] = [] := withoutFrame_of_subset (by simpa using hblank)
  change withoutFrame n m ([Entry.heading b.schemaId file].map Entry.line ++
    (b.errors.flatMap fun e => [Report.blank, Report.failureError e]) ++ [Report.blank]) = _
  rw [withoutFrame_append, hend, withoutFrame_append, withoutFrame_entries, herrors, List.append_nil, ← List.map_append]
  rfl

/-! ### Schema files -/

def outcomeEntry : LoadOutcome → Entry
  | .loaded path id => .loaded id path
  | .skipped why => .skipped why.path why.message

/-- What is told about the schema files. -/
def schemaEntries (r : Registry) : List Entry := r.outcomes.map outcomeEntry

/-- What is told about a schema file: the schema that it states is registered from it, or it does not state just one
identifier, or the schema with this identifier is registered from another file. -/
inductive OnSchema (r : Registry) (fs : FileSystem) : String → Entry → Prop
  | loaded (d : Document) (s : Registered) (hd : Document.load fs s.path = .ok d)
      (hid : d.values Directive.idKey = [s.id]) (h : r.get? s.id = some s) :
      OnSchema r fs s.path (.loaded s.id s.path)
  | miscounted (file : String) (d : Document) (hd : Document.load fs file = .ok d)
      (h : (d.values Directive.idKey).length ≠ 1) :
      OnSchema r fs file (.skipped file (Failure.idCardinality file (d.values Directive.idKey).length).message)
  | taken (file : String) (d : Document) (s : Registered) (hd : Document.load fs file = .ok d)
      (hid : d.values Directive.idKey = [s.id]) (h : r.get? s.id = some s) :
      OnSchema r fs file (.skipped file (Failure.duplicateId s.id file s.path).message)

theorem map_line_schemaEntries (r : Registry) : (schemaEntries r).map Entry.line = r.outcomes.map outcomeLine := by
  rw [schemaEntries, List.map_map]
  refine List.map_congr_left fun o _ => ?_
  cases o <;> rfl

/-- Every schema file has its entry. -/
theorem onSchema_load {n : Nat} (h : (Registry.empty.load fs schemas).2 = .ok n) :
    List.Forall₂ (OnSchema (Registry.empty.load fs schemas).1 fs) schemas
      (schemaEntries (Registry.empty.load fs schemas).1) := by
  have hentries : schemaEntries (Registry.empty.load fs schemas).1 =
      (Registry.empty.stagedBy fs schemas).map fun entry => outcomeEntry (Registry.entryOutcome entry) := by
    rw [schemaEntries, Registry.load_of_ok h]
    exact List.map_map
  suffices hstaged : List.Forall₂ (OnSchema (Registry.empty.load fs schemas).1 fs)
      ((Registry.empty.stagedBy fs schemas).map Registry.entryPath)
      ((Registry.empty.stagedBy fs schemas).map fun entry => outcomeEntry (Registry.entryOutcome entry)) by
    rwa [Registry.map_entryPath_stagedBy h, ← hentries] at hstaged
  rw [List.forall₂_map_left_iff, List.forall₂_map_right_iff, List.forall₂_same]
  intro entry hentry
  cases entry with
  | ok s =>
    have hs : s ∈ Registry.stagedOf (Registry.empty.stagedBy fs schemas) :=
      List.mem_filterMap.2 ⟨.ok s, hentry, rfl⟩
    obtain ⟨d, hd, -, hid, -⟩ := Registry.exists_of_mem_stageAll schemas hs
    obtain ⟨t, ht, rfl⟩ := Registry.get?_load_of_mem_staged h hs
    exact .loaded d t hd hid ht
  | error e =>
    have hunstaged := Registry.unstaged_of_mem_stageAll schemas hentry
    rw [List.nil_append] at hunstaged
    cases hunstaged with
    | miscounted path d hd hlength => exact .miscounted path d hd hlength
    | taken path d id first hd hid hfirst =>
      -- who holds an identifier when the batch is staged has it registered when the batch is done
      have hholder := (Registry.holder?_load h id).trans hfirst
      rw [Registry.holder?, List.find?_nil, Option.map_none, Option.or_none] at hholder
      obtain ⟨s, hs, rfl⟩ := Option.map_eq_some_iff.1 hholder
      obtain rfl := (Registry.Mirrors.empty.load fs schemas).ownId id s hs
      exact .taken path d s hd hid hs

/-! ### Targets -/

/-- The targets that get a verdict. -/
def judgedTargets (r : Registry) (fs : FileSystem) (targets : List String) : List String :=
  targets.filter fun file => (r.validate fs file).isOk

/-- The schemas that a file declares. -/
def declaredBy (fs : FileSystem) (file : String) : List String :=
  match Document.load fs file with
  | .ok d => d.values Directive.schemaKey
  | .error _ => []

/-- A target without a verdict has one entry, which says why. -/
private theorem count_of_failure (file : String) (f : Failure) :
    Entry.count .undeclared (targetEntries file (.error f)) + Entry.count .unknown (targetEntries file (.error f)) +
      Entry.count .unreadable (targetEntries file (.error f)) = 1 := by
  cases f <;> rfl

/-- One with a verdict has no such entry. -/
private theorem count_of_verdict (file : String) (v : Verdict) :
    Entry.count .undeclared (targetEntries file (.ok v)) + Entry.count .unknown (targetEntries file (.ok v)) +
      Entry.count .unreadable (targetEntries file (.ok v)) = 0 := by
  simp [Entry.count, targetEntries, Entry.kind, List.countP_map, Function.comp_def]

theorem length_eq_counts (r : Registry) (fs : FileSystem) (targets : List String) :
    targets.length = Entry.count .undeclared (targetsEntries targets (r.validate fs)) +
      Entry.count .unknown (targetsEntries targets (r.validate fs)) +
      Entry.count .unreadable (targetsEntries targets (r.validate fs)) + (judgedTargets r fs targets).length := by
  induction targets with
  | nil => rfl
  | cons file rest ih =>
    rw [judgedTargets] at ih ⊢
    simp only [count_targetsEntries_cons, List.length_cons]
    cases hresult : r.validate fs file with
    | ok v =>
      have hfile := count_of_verdict file v
      rw [List.filter_cons_of_pos (by rw [hresult]; rfl), List.length_cons]
      omega
    | error f =>
      have hfile := count_of_failure file f
      rw [List.filter_cons_of_neg (by rw [hresult]; exact Bool.false_ne_true)]
      omega

/-- A target with a verdict passes or fails by each schema that it declares. -/
private theorem count_of_isOk {file : String} (h : (r.validate fs file).isOk = true) :
    Entry.count .passed (targetEntries file (r.validate fs file)) +
      Entry.count .failed (targetEntries file (r.validate fs file)) = (declaredBy fs file).length := by
  rw [Registry.validate] at h ⊢
  rw [declaredBy]
  cases hd : Document.load fs file with
  | error f =>
    rw [hd] at h
    cases h
  | ok d =>
    rw [hd] at h
    dsimp only at h ⊢
    have hjudged := Registry.judged_validateDocument r d
    generalize r.validateDocument d = result at hjudged h ⊢
    cases hjudged with
    | undeclared | unknown => cases h
    | judged hne hknown =>
      have hlength := Registry.length_judgement r d.content (d.values Directive.schemaKey)
      rw [← hlength]
      simp [Entry.count, targetEntries, Entry.kind, List.countP_map, Function.comp_def]

/-- One without a verdict does neither. -/
private theorem count_of_error (file : String) (f : Failure) :
    Entry.count .passed (targetEntries file (.error f)) + Entry.count .failed (targetEntries file (.error f)) = 0 := by
  cases f <;> rfl

theorem count_verdicts (r : Registry) (fs : FileSystem) (targets : List String) :
    Entry.count .passed (targetsEntries targets (r.validate fs)) +
        Entry.count .failed (targetsEntries targets (r.validate fs)) =
      ((judgedTargets r fs targets).flatMap (declaredBy fs)).length := by
  induction targets with
  | nil => rfl
  | cons file rest ih =>
    rw [judgedTargets] at ih ⊢
    simp only [count_targetsEntries_cons]
    cases hresult : r.validate fs file with
    | ok v =>
      have hok : (r.validate fs file).isOk = true := by rw [hresult]; rfl
      have hfile := count_of_isOk hok
      rw [hresult] at hfile
      rw [List.filter_cons_of_pos (by exact hok), List.flatMap_cons, List.length_append]
      omega
    | error f =>
      have hfile := count_of_error file f
      rw [List.filter_cons_of_neg (by rw [hresult]; exact Bool.false_ne_true)]
      omega

/-! ### Failures -/

/-- The schema and the target of an entry that says that the one is broken by the other. -/
def Entry.failure? : Entry → Option (String × String)
  | .failed id file => some (id, file)
  | _ => none

/-- The schema and the target of a heading. -/
def Entry.heading? : Entry → Option (String × String)
  | .heading id file => some (id, file)
  | _ => none

/-- The headings come in the order of the failures. -/
theorem headings_eq_failures (result : String → Except Failure Verdict) (targets : List String) :
    (breachesEntries targets result).filterMap Entry.heading? =
      (targetsEntries targets result).filterMap Entry.failure? := by
  have hbreach : ∀ file b, (breachEntries file b).filterMap Entry.heading? = [(b.schemaId, file)] := by
    intro file b
    simp [breachEntries, Entry.heading?, List.filterMap_map, Function.comp_def]
  rw [breachesEntries, targetsEntries, List.filterMap_flatMap, List.filterMap_flatMap]
  congr 1
  funext file
  cases result file with
  | ok v =>
    simp [breachesOf, targetEntries, List.filterMap_flatMap, hbreach, Entry.failure?, List.map_eq_flatMap]
  | error f => cases f <;> rfl

/-! ### The tick -/

/-- A mark stands in a line. -/
def Carries (mark : Char) (l : Line) : Prop := ∃ piece ∈ l, mark ∈ piece.text.toList

theorem carries_summary_iff (p f e u : Nat) : Carries '✔' (Report.summary p f e u) ↔ f = 0 ∧ u = 0 := by
  have hnumber : ∀ n, '✔' ∉ Nat.toDigits 10 n := notMem_toDigits (by decide)
  have htext : ∀ t : String, toString t = t := fun _ => rfl
  unfold Report.summary
  dsimp only
  generalize hcounts :
    s!"{p} passed, {f} failed ({e} errors)" ++ (if 0 < u then s!", {u} unreadable" else "") = counts
  have hfree : '✔' ∉ counts.toList := by
    rw [← hcounts]
    split <;> simp [htext, hnumber]
  split
  · rename_i h
    exact iff_of_true (by simp [Carries, Report.painted, Report.tick, htext]) h
  · rename_i h
    exact iff_of_false (by simp [Carries, Report.painted, Report.cross, htext, hfree]) h

/-! ### The whole report -/

/-- What a report over some targets tells, and what is counted. -/
structure Transcript (r : Registry) (fs : FileSystem) (schemas targets : List String) (lines : List Line) (t : Tally) :
    Prop where
  /-- The entries come in this order: schema files, targets, the errors of targets, and the counts. -/
  written : withoutFrame schemas.length targets.length lines =
    (schemaEntries r ++ targetsEntries targets (r.validate fs) ++ breachesEntries targets (r.validate fs) ++
      [Entry.summary t.passed t.failed t.errors t.loadErrors]).map Entry.line
  /-- Every schema file has one entry, in the order of the files. -/
  onSchemas : List.Forall₂ (OnSchema r fs) schemas (schemaEntries r)
  loaded : t.schemasLoaded = Entry.count .loaded (schemaEntries r)
  skipped : t.schemasSkipped = Entry.count .skipped (schemaEntries r)
  /-- All other counts are those of the entries of targets. -/
  counts : Counts targets (r.validate fs) t
  /-- A target gets a verdict or is counted as one without. -/
  total : t.targets = t.undeclared + t.unknownReferences + t.loadErrors + (judgedTargets r fs targets).length
  /-- A verdict is on all schemas that a target declares. -/
  declared : t.passed + t.failed = ((judgedTargets r fs targets).flatMap (declaredBy fs)).length
  /-- Each heading stands for a failure, in their order. -/
  headings : (breachesEntries targets (r.validate fs)).filterMap Entry.heading? =
    (targetsEntries targets (r.validate fs)).filterMap Entry.failure?
  /-- The tick tells that nothing failed. -/
  tick : Carries '✔' (Report.summary t.passed t.failed t.errors t.loadErrors) ↔ t.exitCode = 0

/-- What is written about the failures of targets. -/
private theorem withoutFrame_details (n m : Nat) (result : String → Except Failure Verdict) (targets : List String) :
    withoutFrame n m
        (((targets.map fun file => partOf file (result file)).flatMap TargetPart.details).flatMap Detail.lines) =
      (breachesEntries targets result).map Entry.line := by
  have hfile : ∀ file, withoutFrame n m ((partOf file (result file)).details.flatMap Detail.lines) =
      ((breachesOf (result file)).flatMap (breachEntries file)).map Entry.line := by
    intro file
    rw [details_partOf, List.flatMap_map, List.map_flatMap, withoutFrame, List.filter_flatMap]
    simp only [← withoutFrame_detail n m]
    rfl
  rw [List.flatMap_map, List.flatMap_assoc, withoutFrame, List.filter_flatMap, breachesEntries, List.map_flatMap]
  simp only [← hfile]
  rfl

/-- What is written about targets. -/
private theorem lines_targets (result : String → Except Failure Verdict) (targets : List String) :
    (targets.map fun file => partOf file (result file)).flatMap TargetPart.lines =
      (targetsEntries targets result).map Entry.line := by
  rw [List.flatMap_map, targetsEntries, List.map_flatMap]
  simp only [lines_partOf]

/-- The lines of a whole run. -/
private theorem withoutFrame_lines (r : Registry) (fs : FileSystem) (schemas targets : List String) {t : Tally}
    (ht : (schemasTally r).add (targetsTally (partsOf r fs targets)) = t) :
    withoutFrame schemas.length targets.length
        (schemasLines r schemas ++ (targetsSection (partsOf r fs targets)).lines ++ [Report.blank, Report.done]) =
      (schemaEntries r ++ targetsEntries targets (r.validate fs) ++ breachesEntries targets (r.validate fs) ++
        [Entry.summary t.passed t.failed t.errors t.loadErrors]).map Entry.line := by
  -- the report, cut where the frame stands
  have hlines : schemasLines r schemas ++ (targetsSection (partsOf r fs targets)).lines ++ [Report.blank, Report.done] =
      [Report.banner Report.version, Report.blank, Report.plain "Globbing schemas... " ++
        Report.found schemas.length "schemas", Report.blank] ++ (schemaEntries r).map Entry.line ++
      [Report.blank, Report.plain "Globbing targets... " ++ Report.found targets.length "targets", Report.blank] ++
      (targetsEntries targets (r.validate fs)).map Entry.line ++ [Report.blank] ++
      ((partsOf r fs targets).flatMap TargetPart.details).flatMap Detail.lines ++
      [Entry.summary t.passed t.failed t.errors t.loadErrors].map Entry.line ++ [Report.blank, Report.done] := by
    rw [schemasLines, targetsSection, map_line_schemaEntries, ← lines_targets, ← ht, partsOf, List.length_map]
    simp [Entry.line, Tally.add, schemasTally, targetsTally]
  have hframe : ∀ lines : List Line, (∀ l ∈ lines, l ∈ frame schemas.length targets.length) →
      withoutFrame schemas.length targets.length lines = [] := fun lines h => withoutFrame_of_subset h
  simp only [hlines, withoutFrame_append, withoutFrame_entries, List.map_append]
  rw [partsOf, withoutFrame_details, hframe _ (by simp [frame]), hframe _ (by simp [frame]), hframe _ (by simp [frame]),
    hframe _ (by simp [frame])]
  simp

/-- The schemas that are loaded and those that are skipped are the entries that say so. -/
private theorem count_schemaEntries (fs : FileSystem) (schemas : List String) :
    Entry.count .loaded (schemaEntries (Registry.empty.load fs schemas).1) =
        (Registry.empty.load fs schemas).1.size ∧
      Entry.count .skipped (schemaEntries (Registry.empty.load fs schemas).1) =
        (Registry.empty.load fs schemas).1.outcomes.length - (Registry.empty.load fs schemas).1.size := by
  have hbalanced : Registry.Balanced (Registry.empty.load fs schemas).1 :=
    Registry.balanced_afterLoads [(fs, schemas)]
  have hloaded : ∀ o, (decide ((outcomeEntry o).kind = .loaded)) = o.isLoaded := by
    intro o
    cases o <;> rfl
  have hskipped : ∀ o, (decide ((outcomeEntry o).kind = .skipped)) = !o.isLoaded := by
    intro o
    cases o <;> rfl
  simp only [Entry.count, schemaEntries, List.countP_map, Function.comp_def, hloaded, hskipped]
  exact ⟨hbalanced, hbalanced.outcomes_length_sub.2.symm⟩

/-- A run over targets that ends with counts writes what happened. -/
theorem transcript_ofSettings {s : Settings} {t : Tally} (h : (ofSettings fs s).result = .ok t)
    (honly : s.schemasOnly = false) :
    ∃ schemas targets, schemaFiles fs s = .ok schemas ∧ selectedTargets fs s = .ok targets ∧
      Transcript (Registry.empty.load fs schemas).1 fs schemas targets (ofSettings fs s).lines t := by
  have hends := ends_ofSettings fs s
  generalize ofSettings fs s = run at hends h ⊢
  cases hends with
  | badPattern | notLoaded | badTargetPattern => cases h
  | schemasOnly lines schemas n hschemas hload hyes =>
    rw [honly] at hyes
    cases hyes
  | finished schemas targets n hschemas hload _ htargets =>
    cases h
    refine ⟨schemas, targets, hschemas, htargets, ?_⟩
    have hcounts := counts_partsOf (Registry.empty.load fs schemas).1 fs targets
    obtain ⟨hsize, hrest⟩ := schemas_partsOf (Registry.empty.load fs schemas).1 fs targets
    obtain ⟨hloaded, hskipped⟩ := count_schemaEntries fs schemas
    exact {
      written := withoutFrame_lines _ fs schemas targets rfl
      onSchemas := onSchema_load hload
      loaded := hsize.trans hloaded.symm
      skipped := hrest.trans hskipped.symm
      counts := hcounts
      total := by
        rw [hcounts.targets, hcounts.undeclared, hcounts.unknown, hcounts.unreadable]
        exact length_eq_counts _ fs targets
      declared := by
        rw [hcounts.passed, hcounts.failed]
        exact count_verdicts _ fs targets
      headings := headings_eq_failures _ targets
      tick := by rw [carries_summary_iff, Tally.exitCode_eq_zero_iff] }

/-- The report on a target that breaks a schema. -/
theorem transcript_brokenFiles :
    ∃ t, (ofSettings brokenFiles namedFiles).result = .ok t ∧ t.exitCode = 1 ∧
      Transcript (Registry.empty.load brokenFiles ["a.yml"]).1 brokenFiles ["a.yml"] ["t.yml"]
        (ofSettings brokenFiles namedFiles).lines t := by
  cases hresult : (ofSettings brokenFiles namedFiles).result with
  | error fault => exact absurd (aborts_iff.1 ⟨fault, hresult⟩) not_aborts_brokenFiles
  | ok t =>
    obtain ⟨schemas, targets, hschemas, htargets, htranscript⟩ := transcript_ofSettings hresult rfl
    cases hschemas.symm.trans selected_brokenFiles.1
    cases htargets.symm.trans selected_brokenFiles.2
    exact ⟨t, rfl, (exitCode_ofSettings hresult).2 failing_brokenFiles, htranscript⟩

end Run

end YamlSchema
