import YamlSchema.Discovery
import YamlSchema.Registry
import YamlSchema.Report
import YamlSchema.Settings

/-!
# A validation run

A run finds the schema files and loads them, then finds the targets and validates each of them against the schemas that
it declares, and tells all that in a report.  An excluded file is neither a schema nor a target, and a schema is no
target.  A pattern that is none, and a schema that cannot be loaded, end the run.
-/

namespace YamlSchema

open Report (Line)

/-- What a run counts. -/
structure Tally where
  schemasLoaded : Nat := 0
  schemasSkipped : Nat := 0
  targets : Nat := 0
  /-- Pairs of a target and a schema that it meets. -/
  passed : Nat := 0
  /-- Pairs of a target and a schema that it breaks. -/
  failed : Nat := 0
  /-- The errors of those pairs. -/
  errors : Nat := 0
  /-- Targets that declare no schema. -/
  undeclared : Nat := 0
  /-- Targets that declare a schema that is not registered. -/
  unknownReferences : Nat := 0
  /-- Targets that cannot be read. -/
  loadErrors : Nat := 0
  deriving DecidableEq, Repr

namespace Tally

/-- Counts of two parts of a run together. -/
def add (a b : Tally) : Tally :=
  ⟨a.schemasLoaded + b.schemasLoaded, a.schemasSkipped + b.schemasSkipped, a.targets + b.targets,
    a.passed + b.passed, a.failed + b.failed, a.errors + b.errors, a.undeclared + b.undeclared,
    a.unknownReferences + b.unknownReferences, a.loadErrors + b.loadErrors⟩

/-- How the program ends. -/
def exitCode (t : Tally) : Nat := if 0 < t.failed ∨ 0 < t.loadErrors then 1 else 0

end Tally

/-- What ends a run early. -/
inductive RunFault where
  | badPattern (b : BadPattern)
  | notLoaded (f : Failure)
  deriving DecidableEq, Repr

def RunFault.message : RunFault → String
  | .badPattern b => b.message
  | .notLoaded f => s!"schema loading aborted: {f.chain}"

/-- What a run writes, line by line, and how it ends. -/
structure Run where
  lines : List Line
  result : Except RunFault Tally

namespace Run

/-- Lines in front of what a run writes. -/
def after (lines : List Line) (r : Run) : Run := { r with lines := lines ++ r.lines }

/-- Goes on with the files that are found, if every pattern is one. -/
def withFiles (found : Except BadPattern (List String)) (next : List String → Run) : Run :=
  match found with
  | .ok files => next files
  | .error b => ⟨[], .error (.badPattern b)⟩

/-! ### Schemas -/

def outcomeLine : LoadOutcome → Line
  | .loaded path id => Report.schemaLoaded id path
  | .skipped why => Report.schemaSkipped why.path why.message

/-! ### Targets -/

/-- A schema that a target breaks, with its errors. -/
structure Detail where
  file : String
  breach : Breach

/-- What becomes of one target. -/
structure TargetPart where
  lines : List Line
  details : List Detail
  tally : Tally

def partOf (file : String) : Except Failure Verdict → TargetPart
  | .ok v =>
    { lines := v.passes.map (fun p => Report.targetPassed p.schemaId file) ++
        v.failures.map (fun b => Report.targetFailed b.schemaId file)
      details := v.failures.map (Detail.mk file)
      tally := { targets := 1, passed := v.passes.length, failed := v.failures.length, errors := v.errorCount } }
  | .error (.unknownSchema _ id) =>
    ⟨[Report.unknownSchema id file], [], { targets := 1, unknownReferences := 1 }⟩
  | .error (.noSchemaDeclared _) => ⟨[Report.noSchemas file], [], { targets := 1, undeclared := 1 }⟩
  | .error f => ⟨[Report.targetUnreadable file f.message], [], { targets := 1, loadErrors := 1 }⟩

def Detail.lines (d : Detail) : List Line :=
  Report.failureHeading d.breach.schemaId d.file ::
    (d.breach.errors.flatMap fun e => [Report.blank, Report.failureError e]) ++ [Report.blank]

/-- The lines about some targets and the schemas that they break, and the counts. -/
def targetsSection (parts : List TargetPart) : Run :=
  let tally := (parts.map TargetPart.tally).foldl Tally.add {}
  { lines := (Report.plain "Globbing targets... " ++ Report.found parts.length "targets") :: Report.blank ::
      parts.flatMap TargetPart.lines ++
      Report.blank :: (parts.flatMap TargetPart.details).flatMap Detail.lines ++
      [Report.summary tally.passed tally.failed tally.errors tally.loadErrors]
    result := .ok tally }

/-! ### The whole -/

/-- The files that a run takes for targets. -/
def targetFiles (fs : FileSystem) (s : Settings) (schemas excluded : List String) : Except BadPattern (List String) :=
  (globFiles fs s.targetPatterns).map fun found => difference found (schemas ++ excluded)

/-- The part of a run behind the schemas, which are loaded. -/
def afterSchemas (fs : FileSystem) (s : Settings) (r : Registry) (schemas excluded : List String) : Run :=
  let loaded : Tally := { schemasLoaded := r.size, schemasSkipped := r.outcomes.length - r.size }
  let closing := [Report.blank, Report.done]
  if s.schemasOnly then ⟨closing, .ok loaded⟩
  else withFiles (targetFiles fs s schemas excluded) fun targets =>
    let run := targetsSection (targets.map fun file => partOf file (r.validate fs file))
    ⟨run.lines ++ closing, run.result.map loaded.add⟩

/-- Loads the schemas and goes on with the targets. -/
def withSchemas (fs : FileSystem) (s : Settings) (schemas excluded : List String) : Run :=
  let (r, result) := Registry.empty.load fs schemas
  let lines := (Report.plain "Globbing schemas... " ++ Report.found schemas.length "schemas") :: Report.blank ::
    r.outcomes.map outcomeLine
  match result with
  | .error f => ⟨lines ++ [Report.schemaFailed f.path], .error (.notLoaded f)⟩
  | .ok _ => after (lines ++ [Report.blank]) (afterSchemas fs s r schemas excluded)

/-- A whole run. -/
def ofSettings (fs : FileSystem) (s : Settings) : Run :=
  after [Report.banner Report.version, Report.blank] <|
    withFiles (globFiles fs s.excludePatterns) fun excluded =>
      withFiles (globFiles fs s.schemaPatterns) fun found =>
        let schemas := difference found excluded
        withSchemas fs s schemas excluded

/-- The text of what a run writes. -/
def output (r : Run) (coloured : Bool) : String := String.join (r.lines.map fun l => l.render coloured ++ "\n")

end Run

end YamlSchema
