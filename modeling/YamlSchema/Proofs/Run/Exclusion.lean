import YamlSchema.Proofs.Glob.Outline
import YamlSchema.Proofs.Run.Selection

/-!
# Excluded files

An excluded file is neither a schema nor a target, and a schema is no target.  Files are told apart by their paths as the
patterns spell them: a selected path and an excluded one never have the same components, so that they lead to one file
only if one of them goes through `..`, or one is absolute and the other is not (`FileSystem.Avoids`).  Nothing but the
selected files is read (`excluded_apart`).
-/

namespace YamlSchema

/-- A path leads to another file than a second one, as far as their spelling tells. -/
structure FileSystem.Avoids (fs : FileSystem) (p q : String) : Prop where
  components_ne : Path.components p ≠ Path.components q
  place_ne : Path.IsStraight p → Path.IsStraight q → Path.isAbsolute p = Path.isAbsolute q → fs.place p ≠ fs.place q

variable {fs fs' : FileSystem}

/-- Paths that patterns give lead to different files unless their components are the same. -/
theorem Matches.avoids (hroot : fs.root.IsProper) {pattern other p q : String} (hp : Matches fs pattern p)
    (hq : Matches fs other q) (hne : Path.components p ≠ Path.components q) : fs.Avoids p q where
  components_ne := hne
  place_ne := fun hpStraight hqStraight habsolute hplace =>
    hne (Path.components_eq_of_place_eq (hp.isSpelled hroot) (hq.isSpelled hroot) hpStraight hqStraight habsolute hplace)

/-! ### Selected files -/

namespace Run

variable {s : Settings} {schemas targets : List String}

theorem exists_of_schemaFiles (h : schemaFiles fs s = .ok schemas) : ∃ excluded found,
    globFiles fs s.excludePatterns = .ok excluded ∧ globFiles fs s.schemaPatterns = .ok found ∧
      schemas = difference found excluded := by
  rw [schemaFiles] at h
  split at h
  · rename_i excluded found hexcluded hfound
    cases h
    exact ⟨excluded, found, hexcluded, hfound, rfl⟩
  · cases h
  · cases h

theorem exists_of_selectedTargets (hschemas : schemaFiles fs s = .ok schemas) (h : selectedTargets fs s = .ok targets) :
    ∃ excluded found, globFiles fs s.excludePatterns = .ok excluded ∧ globFiles fs s.targetPatterns = .ok found ∧
      targets = difference found (schemas ++ excluded) := by
  obtain ⟨excluded, -, hexcluded, -, -⟩ := exists_of_schemaFiles hschemas
  rw [selectedTargets, hexcluded, hschemas] at h
  simp only [targetFiles] at h
  cases hfound : globFiles fs s.targetPatterns with
  | error b =>
    rw [hfound] at h
    cases h
  | ok found =>
    rw [hfound] at h
    cases h
    exact ⟨excluded, found, hexcluded, rfl, rfl⟩

end Run

/-! ### What is read -/

theorem Document.load_congr {path : String} (h : fs'.read path = fs.read path) :
    Document.load fs' path = Document.load fs path := by
  rw [Document.load, Document.load, h]

theorem globFiles_congr (h : fs'.outline = fs.outline) (patterns : List String) :
    globFiles fs' patterns = globFiles fs patterns := by
  rw [← globFiles_outline fs', h, globFiles_outline]

namespace Registry

variable {paths : List String}

theorem stageAll_eq_of_read {r : Registry} (h : ∀ p ∈ paths, fs'.read p = fs.read p) (pending : List Staged) :
    r.stageAll fs' pending paths = r.stageAll fs pending paths := by
  induction paths generalizing pending with
  | nil => rfl
  | cons path rest ih =>
    rw [List.forall_mem_cons] at h
    rw [stageAll, stageAll, Document.load_congr h.1]
    simp only [ih h.2]

theorem load_congr {r : Registry} (h : ∀ p ∈ paths, fs'.read p = fs.read p) : r.load fs' paths = r.load fs paths := by
  rw [load, load, stageAll_eq_of_read h]

end Registry

namespace Run

variable {s : Settings}

/-- A run reads the files that it selects, and no other file. -/
theorem ofSettings_congr (houtline : fs'.outline = fs.outline)
    (hschemas : ∀ schemas, schemaFiles fs s = .ok schemas → ∀ p ∈ schemas, fs'.read p = fs.read p)
    (htargets : ∀ targets, selectedTargets fs s = .ok targets → ∀ p ∈ targets, fs'.read p = fs.read p) :
    ofSettings fs' s = ofSettings fs s := by
  rw [ofSettings, ofSettings, globFiles_congr houtline, globFiles_congr houtline]
  cases hexcluded : globFiles fs s.excludePatterns with
  | error b => simp only [withFiles]
  | ok excluded =>
    cases hfound : globFiles fs s.schemaPatterns with
    | error b => simp only [withFiles]
    | ok found =>
      have hselected : schemaFiles fs s = .ok (difference found excluded) := by rw [schemaFiles, hexcluded, hfound]
      have hrest (r : Registry) : afterSchemas fs' s r (difference found excluded) excluded =
          afterSchemas fs s r (difference found excluded) excluded := by
        have hfiles : selectedTargets fs s = targetFiles fs s (difference found excluded) excluded := by
          rw [selectedTargets, hexcluded, hselected]
        rw [afterSchemas, afterSchemas, targetFiles, globFiles_congr houtline, ← targetFiles, ← hfiles]
        cases htargetFiles : selectedTargets fs s with
        | error b => simp only [withFiles]
        | ok targets =>
          have hvalidate : targets.map (fun file => partOf file (r.validate fs' file)) =
              targets.map fun file => partOf file (r.validate fs file) :=
            List.map_congr_left fun file hfile => by
              rw [Registry.validate, Registry.validate, Document.load_congr (htargets targets htargetFiles file hfile)]
          simp only [withFiles, hvalidate]
      simp only [withFiles, withSchemas, Registry.load_congr (hschemas _ hselected), hrest]

/-! ### Excluded files -/

/-- Two files below a directory and one beside it, of which the last has the given text. -/
def threeFiles (text : String) : FileSystem where
  root := .directory [("a.yml", .file "## id: a\nname: string\n".toUTF8),
    ("d", .directory [("t.yml", .file "## schema: a\nname: b\n".toUTF8), ("x.yml", .file text.toUTF8)])]
  directory := []

theorem isProper_threeFiles (text : String) : (threeFiles text).root.IsProper := by
  refine .directory (by decide : ["a.yml", "d"].Nodup) ?_ ?_ <;>
    simp only [List.forall_mem_cons, List.not_mem_nil, false_implies, implies_true, and_true]
  · exact ⟨(by decide : IsEntryName "a.yml"), (by decide : IsEntryName "d")⟩
  · refine ⟨.file _, .directory (by decide : ["t.yml", "x.yml"].Nodup) ?_ ?_⟩ <;>
      simp only [List.forall_mem_cons, List.not_mem_nil, false_implies, implies_true, and_true]
    · exact ⟨(by decide : IsEntryName "t.yml"), (by decide : IsEntryName "x.yml")⟩
    · exact ⟨.file _, .file _⟩

/-- Settings that exclude one of two targets, in another spelling. -/
def twoTargets : Settings where
  schemaPatterns := ["a.yml", "d//x.yml"]
  targetPatterns := ["d/t.yml", "d/x.yml"]
  excludePatterns := ["./d/./x.yml"]

end Run

end YamlSchema
