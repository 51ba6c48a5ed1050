import YamlSchema.Discovery
import YamlSchema.Proofs.Traversal

/-!
# Lists of files

Files are the same if their paths have the same components.  What some patterns select is what any of them matches
(`isListed_globFiles`), under a path that one of them gives it (`exists_of_mem_globFiles`).
-/

namespace YamlSchema

theorem isListed_iff {files : List String} {path : String} :
    isListed files path = true ↔ ∃ f ∈ files, Path.components path = Path.components f := by
  simp [isListed, Path.same]

theorem mem_difference_iff {files remove : List String} {path : String} :
    path ∈ difference files remove ↔
      path ∈ files ∧ ∀ r ∈ remove, Path.components path ≠ Path.components r := by
  rw [difference, List.mem_filter, Bool.not_eq_true', Bool.eq_false_iff, ne_eq, isListed_iff]
  simp

/-! ### Files one after the other -/

theorem appendNew_cons (listed : List String) (f : String) (files : List String) :
    appendNew listed (f :: files) = appendNew (if isListed listed f then listed else listed ++ [f]) files := rfl

theorem mem_or_mem_of_mem_appendNew {listed files : List String} {path : String} (h : path ∈ appendNew listed files) :
    path ∈ listed ∨ path ∈ files := by
  induction files generalizing listed with
  | nil => exact .inl h
  | cons f files ih =>
    rw [appendNew_cons] at h
    rcases ih h with h | h
    · split at h
      · exact .inl h
      · rcases List.mem_append.1 h with h | h
        · exact .inl h
        · exact .inr (List.mem_singleton.1 h ▸ List.mem_cons_self)
    · exact .inr (List.mem_cons_of_mem _ h)

/-- A file is listed already, or it is now. -/
theorem isListed_appendNew {listed files : List String} {path : String} :
    isListed (appendNew listed files) path = (isListed listed path || isListed files path) := by
  induction files generalizing listed with
  | nil => simp [appendNew, isListed]
  | cons f files ih =>
    have hfirst : isListed (if isListed listed f then listed else listed ++ [f]) path =
        (isListed listed path || Path.same path f) := by
      split
      · rename_i hlisted
        obtain ⟨first, hfirst, heq⟩ := isListed_iff.1 hlisted
        rw [Bool.eq_iff_iff, Bool.or_eq_true, isListed_iff, Path.same, decide_eq_true_eq]
        exact ⟨.inl, fun h => h.elim id fun hsame => ⟨first, hfirst, hsame.trans heq⟩⟩
      · simp [isListed]
    rw [appendNew_cons, ih, hfirst, Bool.or_assoc]
    rfl

/-! ### Patterns -/

/-- A pattern matches a file, under the path that it gives it. -/
def Matches (fs : FileSystem) (pattern path : String) : Prop :=
  ∃ files, matchedFiles fs pattern = .ok files ∧ path ∈ files

theorem Matches.exists_found {fs : FileSystem} {pattern path : String} (h : Matches fs pattern path) :
    ∃ found, Glob.expand fs (filePattern pattern) = .ok found ∧
      ∃ g ∈ found, g.path = path ∧ g.location.entry.isDirectory = false := by
  obtain ⟨files, hfiles, hmem⟩ := h
  rw [matchedFiles] at hfiles
  split at hfiles
  · cases hfiles
  · rename_i found hfound
    cases hfiles
    obtain ⟨g, hg, rfl⟩ := List.mem_map.1 hmem
    obtain ⟨hg, hfile⟩ := List.mem_filter.1 hg
    exact ⟨found, hfound, g, hg, rfl, by simpa [Glob.Found.isDirectory] using hfile⟩

/-! ### Patterns one after the other -/

/-- Goes on with patterns behind the files that are listed. -/
def globBehind (fs : FileSystem) (listed patterns : List String) : Except BadPattern (List String) :=
  patterns.foldlM (fun all pattern => (matchedFiles fs pattern).map (appendNew all)) listed

theorem globBehind_cons (fs : FileSystem) (listed : List String) (pattern : String) (rest : List String) :
    globBehind fs listed (pattern :: rest) =
      (matchedFiles fs pattern).bind fun files => globBehind fs (appendNew listed files) rest := by
  rw [globBehind, List.foldlM_cons]
  cases matchedFiles fs pattern <;> rfl

theorem globBehind_cons_eq_ok_iff {fs : FileSystem} {listed files : List String} {pattern : String}
    {rest : List String} : globBehind fs listed (pattern :: rest) = .ok files ↔
    ∃ matched, matchedFiles fs pattern = .ok matched ∧ globBehind fs (appendNew listed matched) rest = .ok files := by
  rw [globBehind_cons]
  exact bind_eq_ok_iff

theorem mem_or_exists_of_mem_globBehind {fs : FileSystem} {listed patterns files : List String}
    (h : globBehind fs listed patterns = .ok files) {path : String} (hmem : path ∈ files) :
    path ∈ listed ∨ ∃ pattern ∈ patterns, Matches fs pattern path := by
  induction patterns generalizing listed with
  | nil =>
    cases h
    exact .inl hmem
  | cons pattern rest ih =>
    obtain ⟨matched, hmatched, hrest⟩ := globBehind_cons_eq_ok_iff.1 h
    rcases ih hrest with hnew | ⟨p, hp, hmatches⟩
    · rcases mem_or_mem_of_mem_appendNew hnew with hold | hfound
      · exact .inl hold
      · exact .inr ⟨pattern, List.mem_cons_self, matched, hmatched, hfound⟩
    · exact .inr ⟨p, List.mem_cons_of_mem _ hp, hmatches⟩

/-- A file that is selected is matched under that path by one of the patterns. -/
theorem exists_of_mem_globFiles {fs : FileSystem} {patterns files : List String} (h : globFiles fs patterns = .ok files)
    {path : String} (hmem : path ∈ files) : ∃ pattern ∈ patterns, Matches fs pattern path :=
  (mem_or_exists_of_mem_globBehind h hmem).resolve_left List.not_mem_nil

theorem isListed_globBehind {fs : FileSystem} {listed patterns files : List String}
    (h : globBehind fs listed patterns = .ok files) {path pattern : String} (hpath : Matches fs pattern path)
    (hlisted : isListed listed path = true ∨ pattern ∈ patterns) : isListed files path = true := by
  induction patterns generalizing listed with
  | nil =>
    cases h
    exact hlisted.resolve_right List.not_mem_nil
  | cons first rest ih =>
    obtain ⟨matched, hmatched, hrest⟩ := globBehind_cons_eq_ok_iff.1 h
    refine ih hrest ?_
    rw [isListed_appendNew, Bool.or_eq_true]
    rcases hlisted with hold | hmem
    · exact .inl (.inl hold)
    · rcases List.mem_cons.1 hmem with rfl | hmem
      · obtain ⟨files, hfiles, hpath⟩ := hpath
        rw [hmatched] at hfiles
        cases hfiles
        exact .inl (.inr (isListed_iff.2 ⟨path, hpath, rfl⟩))
      · exact .inr hmem

/-- A file that one of the patterns matches is selected, under a path with the same components. -/
theorem isListed_globFiles {fs : FileSystem} {patterns files : List String} (h : globFiles fs patterns = .ok files)
    {path pattern : String} (hpattern : pattern ∈ patterns) (hpath : Matches fs pattern path) :
    isListed files path = true :=
  isListed_globBehind h hpath (.inr hpattern)

end YamlSchema
