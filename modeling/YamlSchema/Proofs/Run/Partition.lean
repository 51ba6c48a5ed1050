import YamlSchema.Proofs.Run.Exclusion

/-!
# How files are shared out

Patterns select each file once (`isDistinct_globFiles`).  What more patterns select is what they select by themselves
without the files that are listed already (`globFiles_append`), and the first text that is no pattern is what is
reported (`globFiles_eq_error_iff`).  The schemas and the targets of a run are cut out of what their patterns select, so
that the excluded files, the schemas and the targets have no path in common (`partition_ofSettings`).
-/

namespace YamlSchema

variable {fs : FileSystem}

/-- No two paths of a list have the same components. -/
def IsDistinct (files : List String) : Prop := files.Pairwise fun p q => Path.components p ≠ Path.components q

/-- No path of the one list has the components of a path of the other. -/
def AreApart (files others : List String) : Prop :=
  ∀ p ∈ files, ∀ q ∈ others, Path.components p ≠ Path.components q

/-! ### Lists of files -/

theorem not_isListed_iff {files : List String} {path : String} :
    isListed files path = false ↔ ∀ f ∈ files, Path.components path ≠ Path.components f := by
  simp [Bool.eq_false_iff, isListed_iff]

theorem isListed_append (files more : List String) (path : String) :
    isListed (files ++ more) path = (isListed files path || isListed more path) := List.any_append

theorem difference_sublist (files remove : List String) : (difference files remove).Sublist files :=
  List.filter_sublist

theorem areApart_difference (files remove : List String) : AreApart (difference files remove) remove :=
  fun _ hp => (mem_difference_iff.1 hp).2

theorem IsDistinct.difference {files : List String} (h : IsDistinct files) (remove : List String) :
    IsDistinct (difference files remove) := h.sublist (difference_sublist files remove)

theorem difference_append (files more remove : List String) :
    difference (files ++ more) remove = difference files remove ++ difference more remove := List.filter_append _ _

theorem difference_singleton (path : String) (remove : List String) :
    difference [path] remove = if isListed remove path then [] else [path] := by
  cases h : isListed remove path <;> simp [difference, h]

/-- What is removed may as well be without what is removed otherwise. -/
theorem difference_difference_append (files remove more : List String) :
    difference files (difference remove more ++ more) = difference files (remove ++ more) := by
  refine List.filter_congr fun path _ => congrArg not (Bool.eq_iff_iff.2 ?_)
  rw [isListed_append, isListed_append, Bool.or_eq_true, Bool.or_eq_true]
  constructor
  · refine Or.imp_left fun h => ?_
    obtain ⟨f, hf, heq⟩ := isListed_iff.1 h
    exact isListed_iff.2 ⟨f, (mem_difference_iff.1 hf).1, heq⟩
  · rintro (h | h)
    · obtain ⟨f, hf, heq⟩ := isListed_iff.1 h
      by_cases hmore : isListed more path = true
      · exact .inr hmore
      · rw [Bool.not_eq_true, not_isListed_iff, heq] at hmore
        exact .inl (isListed_iff.2 ⟨f, mem_difference_iff.2 ⟨hf, hmore⟩, heq⟩)
    · exact .inr h

theorem isListed_append_difference (listed files : List String) (path : String) :
    isListed (listed ++ difference files listed) path = (isListed listed path || isListed files path) := by
  rw [isListed_append, Bool.eq_iff_iff, Bool.or_eq_true, Bool.or_eq_true]
  constructor
  · refine Or.imp_right fun h => ?_
    obtain ⟨f, hf, heq⟩ := isListed_iff.1 h
    exact isListed_iff.2 ⟨f, (mem_difference_iff.1 hf).1, heq⟩
  · rw [or_iff_not_imp_left (a := isListed listed path = true)]
    intro h
    by_cases hlisted : isListed listed path = true
    · exact .inl hlisted
    · obtain ⟨f, hf, heq⟩ := isListed_iff.1 (h hlisted)
      rw [Bool.not_eq_true, not_isListed_iff, heq] at hlisted
      exact .inr (isListed_iff.2 ⟨f, mem_difference_iff.2 ⟨hf, hlisted⟩, heq⟩)

/-- Files that are put behind a list and others go behind the others, but for those of the list. -/
theorem appendNew_append_difference (listed others files : List String) :
    appendNew (listed ++ difference others listed) files = listed ++ difference (appendNew others files) listed := by
  induction files generalizing others with
  | nil => rfl
  | cons f files ih =>
    have hstep : (if isListed (listed ++ difference others listed) f then listed ++ difference others listed
        else listed ++ difference others listed ++ [f]) =
        listed ++ difference (if isListed others f then others else others ++ [f]) listed := by
      rw [isListed_append_difference]
      cases hothers : isListed others f with
      | true => simp
      | false => cases hlisted : isListed listed f <;> simp [hlisted, difference_append, difference_singleton]
    rw [appendNew_cons, appendNew_cons, hstep, ih]

theorem isDistinct_appendNew {listed : List String} (h : IsDistinct listed) (files : List String) :
    IsDistinct (appendNew listed files) := by
  induction files generalizing listed with
  | nil => exact h
  | cons f files ih =>
    rw [appendNew_cons]
    refine ih ?_
    split
    · exact h
    · rename_i hlisted
      rw [Bool.not_eq_true, not_isListed_iff] at hlisted
      exact List.pairwise_append.2 ⟨h, List.pairwise_singleton _ _, fun p hp q hq =>
        List.mem_singleton.1 hq ▸ (hlisted p hp).symm⟩

/-! ### Patterns -/

theorem isDistinct_globBehind {listed patterns files : List String} (hlisted : IsDistinct listed)
    (h : globBehind fs listed patterns = .ok files) : IsDistinct files := by
  induction patterns generalizing listed with
  | nil =>
    cases h
    exact hlisted
  | cons pattern rest ih =>
    obtain ⟨matched, -, hrest⟩ := globBehind_cons_eq_ok_iff.1 h
    exact ih (isDistinct_appendNew hlisted matched) hrest

theorem isDistinct_globFiles {patterns files : List String} (h : globFiles fs patterns = .ok files) :
    IsDistinct files := isDistinct_globBehind .nil h

theorem globBehind_append_difference (fs : FileSystem) (listed others patterns : List String) :
    globBehind fs (listed ++ difference others listed) patterns =
      (globBehind fs others patterns).map fun files => listed ++ difference files listed := by
  induction patterns generalizing others with
  | nil => rfl
  | cons pattern rest ih =>
    rw [globBehind_cons, globBehind_cons]
    cases matchedFiles fs pattern with
    | error b => rfl
    | ok matched =>
      change globBehind fs (appendNew (listed ++ difference others listed) matched) rest = _
      rw [appendNew_append_difference, ih]
      rfl

/-- More patterns select what they select by themselves, but for the files that are listed already. -/
theorem globFiles_append (fs : FileSystem) (ps qs : List String) : globFiles fs (ps ++ qs) =
    (globFiles fs ps).bind fun first => (globFiles fs qs).map fun files => first ++ difference files first := by
  have hnext (first : List String) : globBehind fs first qs =
      (globFiles fs qs).map fun files => first ++ difference files first := by
    -- the second patterns by themselves begin with an empty list, of which nothing is left
    have h := globBehind_append_difference fs first [] qs
    rwa [difference, List.filter_nil, List.append_nil] at h
  have hcut : globFiles fs (ps ++ qs) = (globFiles fs ps).bind fun first => globBehind fs first qs := by
    rw [globFiles, List.foldlM_append]
    rfl
  simp only [hcut, hnext]

/-- Whether a text is a pattern, and what is wrong with it, does not depend on the files. -/
theorem matchedFiles_eq_error_congr (fs fs' : FileSystem) {pattern : String} {b : BadPattern} :
    matchedFiles fs pattern = .error b → matchedFiles fs' pattern = .error b := by
  simp only [matchedFiles, Glob.expand]
  cases Glob.Token.ofChars (filePattern pattern).toList with
  | error fault => exact id
  | ok tokens =>
    cases Glob.segments (if (filePattern pattern).toList.head? = some '/' then (filePattern pattern).toList.drop 1
      else (filePattern pattern).toList) with
    | error fault => exact id
    | ok segments =>
      intro h
      cases h

theorem pattern_of_matchedFiles {pattern : String} {b : BadPattern} (h : matchedFiles fs pattern = .error b) :
    b.pattern = pattern := by
  rw [matchedFiles] at h
  split at h <;> cases h
  rfl

/-- What is listed already does not matter to what is reported. -/
theorem globBehind_eq_error_iff {listed patterns : List String} {b : BadPattern} :
    globBehind fs listed patterns = .error b ↔
    ∃ before rest, patterns = before ++ b.pattern :: rest ∧ (∀ pattern ∈ before, IsFilePattern pattern) ∧
      ∀ fs', matchedFiles fs' b.pattern = .error b := by
  induction patterns generalizing listed with
  | nil => exact iff_of_false (fun h => nomatch h) fun ⟨before, _, h, _⟩ => by simp at h
  | cons pattern patterns ih =>
    rw [globBehind_cons]
    cases hmatched : matchedFiles fs pattern with
    | error fault =>
      constructor
      · intro h
        cases h
        obtain rfl := pattern_of_matchedFiles hmatched
        exact ⟨[], patterns, rfl, List.forall_mem_nil _, fun fs' => matchedFiles_eq_error_congr fs fs' hmatched⟩
      · rintro ⟨_ | ⟨first, before⟩, rest, heq, hbefore, hb⟩ <;> cases heq
        · exact congrArg Except.error (Except.error.inj (hmatched.symm.trans (hb fs)))
        · obtain ⟨files, hfiles⟩ := (matchedFiles_isOk_iff fs).2 (hbefore pattern List.mem_cons_self)
          rw [hmatched] at hfiles
          cases hfiles
    | ok matched =>
      refine Iff.trans ih ⟨?_, ?_⟩
      · rintro ⟨before, rest, rfl, hbefore, hb⟩
        exact ⟨pattern :: before, rest, rfl,
          List.forall_mem_cons.2 ⟨(matchedFiles_isOk_iff fs).1 ⟨_, hmatched⟩, hbefore⟩, hb⟩
      · rintro ⟨_ | ⟨first, before⟩, rest, heq, hbefore, hb⟩ <;> cases heq
        · rw [hb fs] at hmatched
          cases hmatched
        · exact ⟨before, rest, rfl, fun p hp => hbefore p (List.mem_cons_of_mem _ hp), hb⟩

/-- What is reported is the first text that is no pattern, as if it stood alone. -/
theorem globFiles_eq_error_iff {patterns : List String} {b : BadPattern} : globFiles fs patterns = .error b ↔
    ∃ before rest, patterns = before ++ b.pattern :: rest ∧ (∀ pattern ∈ before, IsFilePattern pattern) ∧
      ∀ fs', matchedFiles fs' b.pattern = .error b :=
  globBehind_eq_error_iff

namespace Run

/-! ### Excluded files, schemas and targets -/

/-- Schemas and targets are cut out of the files that their patterns find: in the order in which these are found, each
file once, and none of them excluded or on both lists. -/
structure SharesOut (excluded found foundTargets schemas targets : List String) : Prop where
  schemas_sublist : schemas.Sublist found
  mem_schemas : ∀ p, p ∈ schemas ↔ p ∈ found ∧ ∀ q ∈ excluded, Path.components p ≠ Path.components q
  targets_sublist : targets.Sublist foundTargets
  mem_targets : ∀ p, p ∈ targets ↔ p ∈ foundTargets ∧
    (∀ q ∈ found, Path.components p ≠ Path.components q) ∧ ∀ q ∈ excluded, Path.components p ≠ Path.components q
  schemas_distinct : IsDistinct schemas
  targets_distinct : IsDistinct targets
  schemas_apart : AreApart schemas excluded
  targets_apart : AreApart targets excluded
  targets_apart_schemas : AreApart targets schemas

theorem sharesOut_difference {excluded found foundTargets : List String} (hfound : IsDistinct found)
    (hfoundTargets : IsDistinct foundTargets) :
    SharesOut excluded found foundTargets (difference found excluded) (difference foundTargets (found ++ excluded)) where
  schemas_sublist := difference_sublist _ _
  mem_schemas := fun _ => mem_difference_iff
  targets_sublist := difference_sublist _ _
  mem_targets := fun p => by rw [mem_difference_iff, List.forall_mem_append]
  schemas_distinct := hfound.difference _
  targets_distinct := hfoundTargets.difference _
  schemas_apart := areApart_difference _ _
  targets_apart := fun p hp q hq => areApart_difference _ _ p hp q (List.mem_append_right _ hq)
  targets_apart_schemas := fun p hp q hq =>
    areApart_difference _ _ p hp q (List.mem_append_left _ (mem_difference_iff.1 hq).1)

theorem ofSettings_of_globFiles {s : Settings} {excluded found : List String}
    (hexcluded : globFiles fs s.excludePatterns = .ok excluded) (hfound : globFiles fs s.schemaPatterns = .ok found) :
    ofSettings fs s = after [Report.banner Report.version, Report.blank]
      (withSchemas fs s (difference found excluded) excluded) := by
  rw [ofSettings, hexcluded, hfound]
  rfl

theorem targetFiles_of_globFiles {s : Settings} {excluded found foundTargets : List String}
    (h : globFiles fs s.targetPatterns = .ok foundTargets) :
    targetFiles fs s (difference found excluded) excluded = .ok (difference foundTargets (found ++ excluded)) := by
  rw [targetFiles, h, ← difference_difference_append]
  rfl

/-- Settings whose patterns overlap: an excluded file is found as a schema and as a target, and a schema as a target. -/
def overlapping : Settings where
  schemaPatterns := ["a.yml", "d/x.yml", "./a.yml"]
  targetPatterns := ["a.yml", "d/t.yml", "d/x.yml", "d//t.yml"]
  excludePatterns := ["d/./x.yml"]

end Run

end YamlSchema
