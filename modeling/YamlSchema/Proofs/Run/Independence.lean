import Mathlib.Algebra.Ring.Nat
import YamlSchema.Proofs.Glob.Solitary
import YamlSchema.Proofs.Registry.Judgement
import YamlSchema.Proofs.Run.Entry

/-!
# Targets by themselves

What a run counts of its targets is the sum of what the runs with one target each count (`targets_independent`).  In
what order patterns stand, and how often, makes no difference to the counts, because files that are selected under
another path with the same components are read alike.
-/

namespace YamlSchema

variable {fs : FileSystem}

/-! ### Counts of one target -/

/-- What a target adds to the counts of a run. -/
def Registry.tallyOf (r : Registry) (fs : FileSystem) (file : String) : Tally :=
  (Run.partOf file (r.validate fs file)).tally

namespace Registry

variable {r : Registry}

theorem tally_partOf_judge (r : Registry) (d d' : Document) (h : d'.content = d.content) (verdict : Verdict)
    (ids : List String) :
    (Run.partOf d'.path (r.judge d' verdict ids)).tally = (Run.partOf d.path (r.judge d verdict ids)).tally := by
  induction ids generalizing verdict with
  | nil => rfl
  | cons id rest ih =>
    rw [judge, judge]
    cases r.get? id with
    | none => rfl
    | some s =>
      dsimp only
      rw [h]
      cases s.validator.check d.content with
      | nil => exact ih _
      | cons e es => exact ih _

/-- What a target adds does not depend on the path under which it is read. -/
theorem tallyOf_eq_of_read {p q : String} (h : fs.read p = fs.read q) : r.tallyOf fs p = r.tallyOf fs q := by
  rw [tallyOf, tallyOf, validate, validate, Document.load, Document.load, h]
  cases fs.read q with
  | error fault => rfl
  | ok text =>
    simp only [Document.parse]
    cases Tree.ofYaml text with
    | error e => rfl
    | ok content =>
      simp only [validateDocument, Document.values]
      cases directiveValues (extractDirectives text) Directive.schemaKey with
      | nil => rfl
      | cons id ids =>
        exact tally_partOf_judge r ⟨q, content, extractDirectives text⟩ ⟨p, content, extractDirectives text⟩ rfl _ _

end Registry

/-! ### Sums -/

/-- The counts of targets add up. -/
structure Tally.SumsUp (t : Tally) (parts : List Tally) : Prop where
  targets : t.targets = (parts.map Tally.targets).sum
  passed : t.passed = (parts.map Tally.passed).sum
  failed : t.failed = (parts.map Tally.failed).sum
  errors : t.errors = (parts.map Tally.errors).sum
  undeclared : t.undeclared = (parts.map Tally.undeclared).sum
  unknownReferences : t.unknownReferences = (parts.map Tally.unknownReferences).sum
  loadErrors : t.loadErrors = (parts.map Tally.loadErrors).sum

theorem Tally.foldl_add_eq_sum {f : Tally → Nat} (hadd : ∀ a b, f (a.add b) = f a + f b) (t : Tally)
    (parts : List Tally) : f (parts.foldl Tally.add t) = f t + (parts.map f).sum := by
  induction parts generalizing t with
  | nil => rfl
  | cons part parts ih => rw [List.foldl_cons, ih, hadd, List.map_cons, List.sum_cons, Nat.add_assoc]

theorem Tally.foldl_add_perm {parts parts' : List Tally} (h : parts.Perm parts') (t : Tally) :
    parts.foldl Tally.add t = parts'.foldl Tally.add t :=
  h.foldl_eq' (fun a _ b _ t => by simp [Tally.add, Nat.add_right_comm]) t

namespace Run

variable {s s' : Settings} {t : Tally} {schemas targets : List String}

/-! ### Selected files -/

/-- Settings that select one of the targets, and otherwise what other settings do. -/
structure SelectsAlone (fs : FileSystem) (s : Settings) (file : String) (alone : Settings) : Prop where
  schemas : alone.schemaPatterns = s.schemaPatterns
  excluded : alone.excludePatterns = s.excludePatterns
  schemasOnly : alone.schemasOnly = s.schemasOnly
  target : ∃ path, selectedTargets fs alone = .ok [path] ∧ Path.components path = Path.components file

theorem exists_matches_of_mem_selectedTargets (hschemas : schemaFiles fs s = .ok schemas)
    (h : selectedTargets fs s = .ok targets) {file : String} (hfile : file ∈ targets) :
    ∃ pattern, Matches fs pattern file := by
  obtain ⟨excluded, found, -, hfound, rfl⟩ := exists_of_selectedTargets hschemas h
  obtain ⟨pattern, -, hmatches⟩ := exists_of_mem_globFiles hfound (mem_difference_iff.1 hfile).1
  exact ⟨pattern, hmatches⟩

theorem schemaFiles_congr (hpatterns : s'.schemaPatterns = s.schemaPatterns)
    (hexcluded : s'.excludePatterns = s.excludePatterns) : schemaFiles fs s' = schemaFiles fs s := by
  rw [schemaFiles, schemaFiles, hpatterns, hexcluded]

/-- Each target can be selected alone. -/
theorem exists_selectsAlone (hroot : fs.root.IsProper) (hschemas : schemaFiles fs s = .ok schemas)
    (h : selectedTargets fs s = .ok targets) {file : String} (hfile : file ∈ targets) :
    ∃ alone, SelectsAlone fs s file alone := by
  obtain ⟨pattern, hmatches⟩ := exists_matches_of_mem_selectedTargets hschemas h hfile
  obtain ⟨own, path, hown, hsame⟩ := hmatches.exists_solitary hroot
  obtain ⟨excluded, found, hexcluded, -, rfl⟩ := exists_of_selectedTargets hschemas h
  refine ⟨{ s with targetPatterns := [own] }, rfl, rfl, rfl, path, ?_, hsame⟩
  have hkept : isListed (schemas ++ excluded) path = false := by
    rw [not_isListed_iff, hsame]
    exact (mem_difference_iff.1 hfile).2
  have hselected : schemaFiles fs { s with targetPatterns := [own] } = .ok schemas := hschemas
  rw [selectedTargets, hselected, hexcluded]
  simp only [targetFiles, hown, Except.map, difference_singleton, hkept]
  rfl

/-- What some patterns list is listed where there are more of them. -/
theorem isListed_globFiles_congr {ps qs files files' : List String} (hsame : ∀ pattern ∈ ps, pattern ∈ qs)
    (h : globFiles fs ps = .ok files) (h' : globFiles fs qs = .ok files') {path : String}
    (hlisted : isListed files path = true) : isListed files' path = true := by
  obtain ⟨f, hf, heq⟩ := isListed_iff.1 hlisted
  obtain ⟨pattern, hpattern, hmatches⟩ := exists_of_mem_globFiles h hf
  obtain ⟨g, hg, hfg⟩ := isListed_iff.1 (isListed_globFiles h' (hsame pattern hpattern) hmatches)
  exact isListed_iff.2 ⟨g, hg, heq.trans hfg⟩

/-- Patterns that are the same but for order and repetition list the same files. -/
theorem exists_globFiles_congr {ps qs files : List String} (hsame : ∀ pattern, pattern ∈ qs ↔ pattern ∈ ps)
    (h : globFiles fs ps = .ok files) :
    ∃ files', globFiles fs qs = .ok files' ∧ ∀ path, isListed files' path = isListed files path := by
  obtain ⟨files', h'⟩ : ∃ files', globFiles fs qs = .ok files' := by
    rw [globFiles_isOk_iff]
    exact fun pattern hpattern => (globFiles_isOk_iff fs).1 ⟨_, h⟩ pattern ((hsame pattern).1 hpattern)
  refine ⟨files', h', fun path => ?_⟩
  rw [Bool.eq_iff_iff]
  exact ⟨isListed_globFiles_congr (fun p => (hsame p).1) h' h, isListed_globFiles_congr (fun p => (hsame p).2) h h'⟩

theorem exists_mem_difference_congr {found found' remove remove' : List String}
    (hfound : ∀ path, isListed found' path = isListed found path)
    (hremove : ∀ path, isListed remove' path = isListed remove path) {p : String} (hp : p ∈ difference found remove) :
    ∃ q ∈ difference found' remove', Path.components p = Path.components q := by
  obtain ⟨hmem, hkept⟩ := mem_difference_iff.1 hp
  obtain ⟨q, hq, heq⟩ := isListed_iff.1 ((hfound p).trans (isListed_iff.2 ⟨p, hmem, rfl⟩))
  refine ⟨q, mem_difference_iff.2 ⟨hq, ?_⟩, heq⟩
  rw [← not_isListed_iff, hremove, not_isListed_iff, ← heq]
  exact hkept

/-- Lists without repetitions that have the same classes of elements are mapped alike, up to their order. -/
theorem perm_map_of_same {α β κ : Type} (key : α → κ) (g : α → β) {xs ys : List α}
    (hxs : xs.Pairwise fun x y => key x ≠ key y) (hys : ys.Pairwise fun x y => key x ≠ key y)
    (hxy : ∀ x ∈ xs, ∃ y ∈ ys, key x = key y) (hyx : ∀ y ∈ ys, ∃ x ∈ xs, key y = key x)
    (hg : ∀ x ∈ xs, ∀ y ∈ ys, key x = key y → g x = g y) : (xs.map g).Perm (ys.map g) := by
  induction xs generalizing ys with
  | nil =>
    have hys : ys = [] := List.eq_nil_iff_forall_not_mem.2 fun y hy => by
      obtain ⟨x, hx, -⟩ := hyx y hy
      cases hx
    rw [hys]
  | cons x xs ih =>
    obtain ⟨y, hy, hkey⟩ := hxy x List.mem_cons_self
    obtain ⟨before, behind, rfl⟩ := List.append_of_mem hy
    have hmiddle : (before ++ y :: behind).Perm (y :: (before ++ behind)) := List.perm_middle
    have hys' := (hmiddle.pairwise_iff fun h => Ne.symm h).1 hys
    rw [List.pairwise_cons] at hxs hys'
    refine List.Perm.trans ?_ (hmiddle.map g).symm
    rw [List.map_cons, List.map_cons, hg x List.mem_cons_self y hy hkey]
    refine (ih hxs.2 hys'.2 (fun x' hx' => ?_) (fun y' hy' => ?_) fun x' hx' y' hy' =>
      hg x' (List.mem_cons_of_mem _ hx') y' (hmiddle.mem_iff.2 (List.mem_cons_of_mem _ hy'))).cons _
    · obtain ⟨y', hy', heq⟩ := hxy x' (List.mem_cons_of_mem _ hx')
      rcases List.mem_cons.1 (hmiddle.mem_iff.1 hy') with rfl | hy'
      · exact absurd (hkey.trans heq.symm) (hxs.1 x' hx')
      · exact ⟨y', hy', heq⟩
    · obtain ⟨x', hx', heq⟩ := hyx y' (hmiddle.mem_iff.2 (List.mem_cons_of_mem _ hy'))
      rcases List.mem_cons.1 hx' with rfl | hx'
      · exact absurd (hkey.symm.trans heq.symm) (hys'.1 y' hy')
      · exact ⟨x', hx', heq⟩

/-! ### Results -/

/-- Counts of a run from those of its targets. -/
theorem add_targetsTally (t : Tally) (r : Registry) (targets : List String) :
    t.add (targetsTally (partsOf r fs targets)) = (targets.map (r.tallyOf fs)).foldl Tally.add t := by
  have hbehind (a b : Tally) (parts : List Tally) :
      parts.foldl Tally.add (a.add b) = a.add (parts.foldl Tally.add b) := by
    induction parts generalizing b with
    | nil => rfl
    | cons part parts ih =>
      have hassoc : (a.add b).add part = a.add (b.add part) := by simp [Tally.add, Nat.add_assoc]
      rw [List.foldl_cons, List.foldl_cons, hassoc, ih]
  have htally : targetsTally (partsOf r fs targets) = (targets.map (r.tallyOf fs)).foldl Tally.add {} := by
    rw [targetsTally, partsOf, List.map_map]
    rfl
  rw [htally, ← hbehind]
  rfl

/-- What a run counts that ends well. -/
theorem result_eq_ok_iff : (ofSettings fs s).result = .ok t ↔ ∃ schemas n, schemaFiles fs s = .ok schemas ∧
    (Registry.empty.load fs schemas).2 = .ok n ∧
    (s.schemasOnly = true ∧ t = schemasTally (Registry.empty.load fs schemas).1 ∨
      s.schemasOnly = false ∧ ∃ targets, selectedTargets fs s = .ok targets ∧
        t = (targets.map ((Registry.empty.load fs schemas).1.tallyOf fs)).foldl Tally.add
          (schemasTally (Registry.empty.load fs schemas).1)) := by
  have hends := ends_ofSettings fs s
  generalize ofSettings fs s = run at hends
  cases hends with
  | badPattern lines b h => simp [h]
  | notLoaded lines schemas f h hload =>
    refine iff_of_false (fun heq => nomatch heq) ?_
    rintro ⟨schemas', n, hschemas, hn, -⟩
    obtain rfl := Except.ok.inj (h.symm.trans hschemas)
    rw [hload] at hn
    cases hn
  | schemasOnly lines schemas n h hload honly => simp [h, hload, honly, eq_comm]
  | badTargetPattern lines schemas n b h hload honly htargets => simp [h, honly, htargets]
  | finished schemas targets n h hload honly htargets =>
    simp [h, hload, honly, htargets, add_targetsTally, eq_comm]

/-- A run with one target counts what the target adds. -/
theorem exists_tally_of_selectsAlone (hroot : fs.root.IsProper) {n : Nat} (hschemas : schemaFiles fs s = .ok schemas)
    (hload : (Registry.empty.load fs schemas).2 = .ok n) (honly : s.schemasOnly = false)
    (htargets : selectedTargets fs s = .ok targets) {file : String} (hfile : file ∈ targets) {alone : Settings}
    (h : SelectsAlone fs s file alone) : (ofSettings fs alone).result = .ok
      ((schemasTally (Registry.empty.load fs schemas).1).add ((Registry.empty.load fs schemas).1.tallyOf fs file)) := by
  obtain ⟨hpatterns, hexcluded, halone, path, htarget, hsame⟩ := h
  have hschemas' : schemaFiles fs alone = .ok schemas := (schemaFiles_congr hpatterns hexcluded).trans hschemas
  obtain ⟨pattern, hfile⟩ := exists_matches_of_mem_selectedTargets hschemas htargets hfile
  obtain ⟨other, hpath⟩ := exists_matches_of_mem_selectedTargets hschemas' htarget (List.mem_singleton_self path)
  rw [result_eq_ok_iff]
  refine ⟨schemas, n, hschemas', hload, .inr ⟨halone.trans honly, [path], htarget, ?_⟩⟩
  rw [Registry.tallyOf_eq_of_read (hfile.read_eq hroot hpath hsame.symm)]
  rfl

/-- Patterns that are the same but for order and repetition select the same targets, up to order and spelling. -/
theorem exists_selectedTargets_congr (hroot : fs.root.IsProper) (hpatterns : s'.schemaPatterns = s.schemaPatterns)
    (htargets : ∀ pattern, pattern ∈ s'.targetPatterns ↔ pattern ∈ s.targetPatterns)
    (hexcluded : ∀ pattern, pattern ∈ s'.excludePatterns ↔ pattern ∈ s.excludePatterns)
    (hschemas : schemaFiles fs s = .ok schemas) : schemaFiles fs s' = .ok schemas ∧
      ∀ targets, selectedTargets fs s = .ok targets → ∃ targets', selectedTargets fs s' = .ok targets' ∧
        ∀ r : Registry, (targets'.map (r.tallyOf fs)).Perm (targets.map (r.tallyOf fs)) := by
  obtain ⟨excluded, found, hexcludedFiles, hfound, rfl⟩ := exists_of_schemaFiles hschemas
  obtain ⟨excluded', hexcludedFiles', hlisted⟩ := exists_globFiles_congr hexcluded hexcludedFiles
  have hsame : difference found excluded' = difference found excluded := by
    simp only [difference, hlisted]
  have hschemas' : schemaFiles fs s' = .ok (difference found excluded) := by
    rw [schemaFiles, hexcludedFiles', hpatterns, hfound, ← hsame]
  refine ⟨hschemas', fun targets htarget => ?_⟩
  obtain ⟨_, foundTargets, heq, hfoundTargets, rfl⟩ := exists_of_selectedTargets hschemas htarget
  obtain rfl := Except.ok.inj (hexcludedFiles.symm.trans heq)
  obtain ⟨foundTargets', hfoundTargets', hlistedTargets⟩ := exists_globFiles_congr htargets hfoundTargets
  have hselected : selectedTargets fs s' =
      .ok (difference foundTargets' (difference found excluded ++ excluded')) := by
    rw [selectedTargets, hexcludedFiles', hschemas']
    simp only [targetFiles, hfoundTargets', Except.map]
  have hremoved (path : String) : isListed (difference found excluded ++ excluded') path =
      isListed (difference found excluded ++ excluded) path := by
    rw [isListed_append, isListed_append, hlisted]
  refine ⟨_, hselected, fun r => ?_⟩
  refine perm_map_of_same Path.components (r.tallyOf fs) ((isDistinct_globFiles hfoundTargets').difference _)
    ((isDistinct_globFiles hfoundTargets).difference _) (fun p hp => ?_) (fun p hp => ?_) fun p hp q hq hpq => ?_
  · exact exists_mem_difference_congr (fun path => (hlistedTargets path).symm) (fun path => (hremoved path).symm) hp
  · exact exists_mem_difference_congr hlistedTargets hremoved hp
  · obtain ⟨pattern, hp⟩ := exists_matches_of_mem_selectedTargets hschemas' hselected hp
    obtain ⟨other, hq⟩ := exists_matches_of_mem_selectedTargets hschemas htarget hq
    exact Registry.tallyOf_eq_of_read (hp.read_eq hroot hq hpq)

/-- What a run counts of its targets is what the runs with one target each count, and in what order the patterns of
targets and of excluded files stand, and how often, makes no difference to what a run counts. -/
theorem targets_independent (hroot : fs.root.IsProper) (h : (ofSettings fs s).result = .ok t) :
    (∃ targets, (s.schemasOnly = true ∧ targets = [] ∨ s.schemasOnly = false ∧ selectedTargets fs s = .ok targets) ∧
      (∀ file ∈ targets, ∃ alone, SelectsAlone fs s file alone) ∧
      ∀ alone : String → Settings, (∀ file ∈ targets, SelectsAlone fs s file (alone file)) →
        ∃ part : String → Tally, (∀ file ∈ targets, (ofSettings fs (alone file)).result = .ok (part file)) ∧
          t.SumsUp (targets.map part)) ∧
    ∀ s' : Settings, s'.schemaPatterns = s.schemaPatterns → s'.schemasOnly = s.schemasOnly →
      (∀ pattern, pattern ∈ s'.targetPatterns ↔ pattern ∈ s.targetPatterns) →
      (∀ pattern, pattern ∈ s'.excludePatterns ↔ pattern ∈ s.excludePatterns) →
      (ofSettings fs s').result = .ok t := by
  obtain ⟨schemas, n, hschemas, hload, hend⟩ := result_eq_ok_iff.1 h
  refine ⟨?_, fun s' hpatterns honly' htargets hexcluded => ?_⟩
  · rcases hend with ⟨honly, rfl⟩ | ⟨honly, targets, htargets, rfl⟩
    · refine ⟨[], .inl ⟨honly, rfl⟩, List.forall_mem_nil _, fun alone _ => ⟨fun _ => {}, List.forall_mem_nil _, ?_⟩⟩
      exact ⟨rfl, rfl, rfl, rfl, rfl, rfl, rfl⟩
    · refine ⟨targets, .inr ⟨honly, htargets⟩, fun file hfile => exists_selectsAlone hroot hschemas htargets hfile,
        fun alone halone => ⟨_, fun file hfile => exists_tally_of_selectsAlone hroot hschemas hload honly htargets hfile
          (halone file hfile), ?_⟩⟩
      have hsum {f : Tally → Nat} (hadd : ∀ a b, f (a.add b) = f a + f b)
          (hnone : f (schemasTally (Registry.empty.load fs schemas).1) = 0) :
          f ((targets.map ((Registry.empty.load fs schemas).1.tallyOf fs)).foldl Tally.add
            (schemasTally (Registry.empty.load fs schemas).1)) =
          ((targets.map fun file => (schemasTally (Registry.empty.load fs schemas).1).add
            ((Registry.empty.load fs schemas).1.tallyOf fs file)).map f).sum := by
        rw [Tally.foldl_add_eq_sum hadd, hnone, Nat.zero_add, List.map_map, List.map_map]
        congr 1
        exact List.map_congr_left fun file _ => by simp [hadd, hnone]
      exact ⟨hsum (fun _ _ => rfl) rfl, hsum (fun _ _ => rfl) rfl, hsum (fun _ _ => rfl) rfl, hsum (fun _ _ => rfl) rfl,
        hsum (fun _ _ => rfl) rfl, hsum (fun _ _ => rfl) rfl, hsum (fun _ _ => rfl) rfl⟩
  · obtain ⟨hschemas', hselected⟩ := exists_selectedTargets_congr hroot hpatterns htargets hexcluded hschemas
    refine result_eq_ok_iff.2 ⟨schemas, n, hschemas', hload, ?_⟩
    rcases hend with ⟨honly, rfl⟩ | ⟨honly, targets, htarget, rfl⟩
    · exact .inl ⟨honly'.trans honly, rfl⟩
    · obtain ⟨targets', htarget', hperm⟩ := hselected targets htarget
      exact .inr ⟨honly'.trans honly, targets', htarget', (Tally.foldl_add_perm (hperm _) _).symm⟩

/-- Settings that select three targets, one of them twice. -/
def threeTargets : Settings where
  schemaPatterns := []
  targetPatterns := ["a.yml", "d/t.yml", "d/x.yml", "d//t.yml"]
  excludePatterns := []

/-- One target declares no schema, one a schema that is not registered, and one cannot be read; the other order of the
patterns comes to the same. -/
theorem targets_independent_threeFiles : (threeFiles "x: [").root.IsProper ∧
    selectedTargets (threeFiles "x: [") threeTargets = .ok ["a.yml", "d/t.yml", "d/x.yml"] ∧
    (ofSettings (threeFiles "x: [") threeTargets).result =
      .ok { targets := 3, undeclared := 1, unknownReferences := 1, loadErrors := 1 } ∧
    (∀ file ∈ ["a.yml", "d/t.yml", "d/x.yml"], ∃ alone, SelectsAlone (threeFiles "x: [") threeTargets file alone) ∧
    (ofSettings (threeFiles "x: [")
      { threeTargets with targetPatterns := ["d/x.yml", "d//t.yml", "d/x.yml", "d/t.yml", "a.yml"] }).result =
        .ok { targets := 3, undeclared := 1, unknownReferences := 1, loadErrors := 1 } := by
  have htargets : selectedTargets (threeFiles "x: [") threeTargets = .ok ["a.yml", "d/t.yml", "d/x.yml"] := by
    decide +kernel
  have hresult : (ofSettings (threeFiles "x: [") threeTargets).result =
      .ok { targets := 3, undeclared := 1, unknownReferences := 1, loadErrors := 1 } := by
    decide +kernel
  obtain ⟨⟨targets, hselected, halone, -⟩, hreordered⟩ := targets_independent (isProper_threeFiles "x: [") hresult
  obtain rfl : targets = ["a.yml", "d/t.yml", "d/x.yml"] := by
    rcases hselected with ⟨honly, -⟩ | ⟨-, hselected⟩
    · cases honly
    · exact Except.ok.inj (hselected.symm.trans htargets)
  exact ⟨isProper_threeFiles _, htargets, hresult, halone,
    hreordered _ rfl rfl (fun pattern => by simp [threeTargets]; tauto) fun pattern => Iff.rfl⟩

end Run

end YamlSchema
