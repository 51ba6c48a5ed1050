import YamlSchema.Run

/-!
# How a run ends

Whether a text is a glob pattern does not depend on the files (`expand_isOk_iff`), so patterns select files exactly if
each of them is one (`globFiles_isOk_iff`).  A run then ends in one of five ways (`ends_ofSettings`): at patterns, at
schemas that cannot be loaded, behind the schemas where no more is asked for, at the patterns of the targets, or behind
the targets.
-/

namespace YamlSchema

open Report (Line)

/-! ### Patterns -/

namespace Glob

/-- A text can be read as a pattern, as a whole and component by component. -/
def IsPattern (pattern : String) : Prop :=
  (∃ tokens, Token.ofChars pattern.toList = .ok tokens) ∧
    ∃ found, segments (if pattern.toList.head? = some '/' then pattern.toList.drop 1 else pattern.toList) = .ok found

theorem expand_isOk_iff (fs : FileSystem) {pattern : String} :
    (∃ found, expand fs pattern = .ok found) ↔ IsPattern pattern := by
  simp only [expand, IsPattern]
  cases Token.ofChars pattern.toList with
  | error fault => simp [bind, Except.bind]
  | ok tokens =>
    cases segments (if pattern.toList.head? = some '/' then pattern.toList.drop 1 else pattern.toList) with
    | error fault => simp [bind, Except.bind]
    | ok found => simp [bind, Except.bind, pure, Except.pure]

end Glob

/-- The pattern that is matched for what a user writes is one. -/
def IsFilePattern (pattern : String) : Prop := Glob.IsPattern (filePattern pattern)

theorem matchedFiles_isOk_iff (fs : FileSystem) {pattern : String} :
    (∃ files, matchedFiles fs pattern = .ok files) ↔ IsFilePattern pattern := by
  rw [IsFilePattern, ← Glob.expand_isOk_iff fs, matchedFiles]
  cases Glob.expand fs (filePattern pattern) <;> simp

/-- Patterns select files just if each of them is a pattern. -/
theorem globFiles_isOk_iff (fs : FileSystem) {patterns : List String} :
    (∃ files, globFiles fs patterns = .ok files) ↔ ∀ pattern ∈ patterns, IsFilePattern pattern := by
  rw [globFiles]
  generalize ([] : List String) = listed
  induction patterns generalizing listed with
  | nil => simp [pure, Except.pure]
  | cons pattern rest ih =>
    rw [List.forall_mem_cons, ← matchedFiles_isOk_iff fs, List.foldlM_cons]
    cases matchedFiles fs pattern with
    | error b => simp [bind, Except.bind, Except.map]
    | ok files => simpa [bind, Except.bind, Except.map] using ih (appendNew listed files)

namespace Run

/-! ### Selected files -/

/-- The schema files that settings select. -/
def schemaFiles (fs : FileSystem) (s : Settings) : Except BadPattern (List String) :=
  match globFiles fs s.excludePatterns, globFiles fs s.schemaPatterns with
  | .ok excluded, .ok found => .ok (difference found excluded)
  | .error b, _ | .ok _, .error b => .error b

/-- The targets that settings select, which are neither schemas nor excluded. -/
def selectedTargets (fs : FileSystem) (s : Settings) : Except BadPattern (List String) :=
  match globFiles fs s.excludePatterns, schemaFiles fs s with
  | .ok excluded, .ok schemas => targetFiles fs s schemas excluded
  | .error b, _ | .ok _, .error b => .error b

theorem schemaFiles_isOk_iff {fs : FileSystem} {s : Settings} : (∃ files, schemaFiles fs s = .ok files) ↔
    (∀ pattern ∈ s.excludePatterns, IsFilePattern pattern) ∧ ∀ pattern ∈ s.schemaPatterns, IsFilePattern pattern := by
  rw [← globFiles_isOk_iff fs, ← globFiles_isOk_iff fs, schemaFiles]
  cases globFiles fs s.excludePatterns <;> cases globFiles fs s.schemaPatterns <;> simp

theorem selectedTargets_isOk_iff {fs : FileSystem} {s : Settings} {schemas : List String}
    (h : schemaFiles fs s = .ok schemas) :
    (∃ files, selectedTargets fs s = .ok files) ↔ ∀ pattern ∈ s.targetPatterns, IsFilePattern pattern := by
  obtain ⟨excluded, hexcluded⟩ := (globFiles_isOk_iff fs).2 (schemaFiles_isOk_iff.1 ⟨_, h⟩).1
  rw [← globFiles_isOk_iff fs, selectedTargets, h, hexcluded]
  simp only [targetFiles]
  cases globFiles fs s.targetPatterns <;> simp [Except.map]

/-! ### The end of a run -/

/-- What is counted once the schemas are loaded. -/
def schemasTally (r : Registry) : Tally := { schemasLoaded := r.size, schemasSkipped := r.outcomes.length - r.size }

/-- What is made of some targets. -/
def partsOf (r : Registry) (fs : FileSystem) (targets : List String) : List TargetPart :=
  targets.map fun file => partOf file (r.validate fs file)

/-- What some targets add to the counts. -/
def targetsTally (parts : List TargetPart) : Tally := (parts.map TargetPart.tally).foldl Tally.add {}

/-- What is written up to the targets. -/
def schemasLines (r : Registry) (schemas : List String) : List Line :=
  [Report.banner Report.version, Report.blank, Report.plain "Globbing schemas... " ++
    Report.found schemas.length "schemas", Report.blank] ++ r.outcomes.map outcomeLine ++ [Report.blank]

/-- The ways in which a run ends. -/
inductive Ends (fs : FileSystem) (s : Settings) : Run → Prop
  | badPattern (lines : List Line) (b : BadPattern) (h : schemaFiles fs s = .error b) :
      Ends fs s ⟨lines, .error (.badPattern b)⟩
  | notLoaded (lines : List Line) (schemas : List String) (f : Failure) (h : schemaFiles fs s = .ok schemas)
      (hload : (Registry.empty.load fs schemas).2 = .error f) : Ends fs s ⟨lines, .error (.notLoaded f)⟩
  | schemasOnly (lines : List Line) (schemas : List String) (n : Nat) (h : schemaFiles fs s = .ok schemas)
      (hload : (Registry.empty.load fs schemas).2 = .ok n) (honly : s.schemasOnly = true) :
      Ends fs s ⟨lines, .ok (schemasTally (Registry.empty.load fs schemas).1)⟩
  | badTargetPattern (lines : List Line) (schemas : List String) (n : Nat) (b : BadPattern)
      (h : schemaFiles fs s = .ok schemas) (hload : (Registry.empty.load fs schemas).2 = .ok n)
      (honly : s.schemasOnly = false) (htargets : selectedTargets fs s = .error b) :
      Ends fs s ⟨lines, .error (.badPattern b)⟩
  | finished (schemas targets : List String) (n : Nat) (h : schemaFiles fs s = .ok schemas)
      (hload : (Registry.empty.load fs schemas).2 = .ok n) (honly : s.schemasOnly = false)
      (htargets : selectedTargets fs s = .ok targets) :
      Ends fs s
        ⟨schemasLines (Registry.empty.load fs schemas).1 schemas ++
          (targetsSection (partsOf (Registry.empty.load fs schemas).1 fs targets)).lines ++ [Report.blank, Report.done],
        .ok ((schemasTally (Registry.empty.load fs schemas).1).add
          (targetsTally (partsOf (Registry.empty.load fs schemas).1 fs targets)))⟩

theorem ends_ofSettings (fs : FileSystem) (s : Settings) : Ends fs s (ofSettings fs s) := by
  unfold ofSettings
  cases hexcluded : globFiles fs s.excludePatterns with
  | error b => exact .badPattern _ b (by rw [schemaFiles, hexcluded])
  | ok excluded =>
    cases hfound : globFiles fs s.schemaPatterns with
    | error b => exact .badPattern _ b (by rw [schemaFiles, hexcluded, hfound])
    | ok found =>
      have hschemas : schemaFiles fs s = .ok (difference found excluded) := by rw [schemaFiles, hexcluded, hfound]
      have htargets : selectedTargets fs s = targetFiles fs s (difference found excluded) excluded := by
        rw [selectedTargets, hexcluded, hschemas]
      simp only [withFiles, withSchemas]
      cases hload : (Registry.empty.load fs (difference found excluded)).2 with
      | error f => exact .notLoaded _ _ f hschemas hload
      | ok n =>
        simp only [after, afterSchemas]
        cases honly : s.schemasOnly with
        | true => exact .schemasOnly _ _ n hschemas hload honly
        | false =>
          cases hfiles : targetFiles fs s (difference found excluded) excluded with
          | error b => exact .badTargetPattern _ _ n b hschemas hload honly (htargets.trans hfiles)
          | ok targets =>
            have h := Ends.finished _ _ n hschemas hload honly (htargets.trans hfiles)
            simpa [withFiles, schemasLines, targetsSection, schemasTally, targetsTally, partsOf, Except.map] using h

end Run

end YamlSchema
