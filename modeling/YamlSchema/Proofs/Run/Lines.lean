import YamlSchema.Proofs.Files.Within
import YamlSchema.Proofs.Registry.Transparency
import YamlSchema.Proofs.Run.Wording
import YamlSchema.Proofs.Yaml.Wording

/-!
# Line breaks in a report

A line of a report `Quotes` texts of documents as they are if it tells why a target cannot be read, or of an error of a
target.  Where no file name has a line break, a line is broken just if it quotes one, and the output has as many lines as
entries if no line does (`count_output_iff`).
-/

namespace YamlSchema

open Report (Line)
open Schema (Violation)
open Text

variable {fs : FileSystem} {s : Settings} {schemas targets : List String} {c : Char}

/-! ### Schema files -/

namespace Registry

/-- What is noted of a schema file tells of files of the batch and of an identifier that one of them states. -/
inductive Tells (fs : FileSystem) (paths : List String) : LoadOutcome → Prop
  | loaded {path id : String} {d : Document} (hpath : path ∈ paths) (hd : Document.load fs path = .ok d)
      (hid : id ∈ d.values Directive.idKey) : Tells fs paths (.loaded path id)
  | miscounted {path : String} (n : Nat) (hpath : path ∈ paths) : Tells fs paths (.skipped (.idCardinality path n))
  | taken {path first id : String} {d : Document} (hpath : path ∈ paths) (hfirst : first ∈ paths)
      (hd : Document.load fs path = .ok d) (hid : id ∈ d.values Directive.idKey) :
      Tells fs paths (.skipped (.duplicateId id path first))

theorem tells_of_mem_stagedBy {paths : List String} {entry : Except Failure Staged}
    (h : entry ∈ empty.stagedBy fs paths) : Tells fs paths (entryOutcome entry) := by
  have hpath : entryPath entry ∈ paths := by
    have hmem := List.mem_map_of_mem h (f := entryPath)
    rw [(load_spec empty fs paths).1] at hmem
    exact List.mem_of_mem_take hmem
  cases entry with
  | ok s =>
    have hs : s ∈ stagedOf (empty.stagedBy fs paths) := List.mem_filterMap.2 ⟨.ok s, h, rfl⟩
    obtain ⟨d, hd, -, hid, -⟩ := exists_of_mem_stageAll paths hs
    exact .loaded hpath hd (by rw [hid]; exact List.mem_singleton_self _)
  | error e =>
    have hunstaged := unstaged_of_mem_stageAll paths h
    rw [List.nil_append] at hunstaged
    cases hunstaged with
    | miscounted path d hd hlength => exact .miscounted _ hpath
    | taken path d id first hd hid hholder =>
      change ((stagedOf (empty.stagedBy fs paths)).find? fun s => s.id = id).map Staged.path = some first at hholder
      obtain ⟨holder, hfind, rfl⟩ := Option.map_eq_some_iff.1 hholder
      obtain ⟨-, -, hfirst, -⟩ := exists_of_mem_stageAll paths (List.mem_of_find?_eq_some hfind)
      exact .taken hpath hfirst hd (by rw [hid]; exact List.mem_singleton_self _)

theorem tells_of_mem_outcomes {paths : List String} {o : LoadOutcome} (h : o ∈ (empty.load fs paths).1.outcomes) :
    Tells fs paths o := by
  obtain ⟨-, -, done, new, hextends, hends⟩ := load_spec empty fs paths
  rw [hextends.outcomes] at h
  obtain ⟨entry, hentry, rfl⟩ := List.mem_map.1 h
  refine tells_of_mem_stagedBy ?_
  generalize (empty.load fs paths).1.references = left, (empty.load fs paths).2 = result at hends
  cases hends with
  | loaded hdone | unstaged _ hdone => rwa [← hdone]
  | refused s rest _ hdone =>
    rw [hdone]
    exact List.mem_append_left _ hentry

end Registry

/-- A document that cannot be loaded is not read, or its text holds no tree. -/
theorem Document.load_eq_error {path : String} {why : Failure} (h : Document.load fs path = .error why) :
    (∃ fault, fs.read path = .error fault ∧ why = .unreadable path fault.text) ∨
      ∃ text e, fs.read path = .ok text ∧ Tree.ofYaml text = .error e ∧ why = .malformed path e.message := by
  rw [Document.load] at h
  split at h
  · rename_i fault hread
    cases h
    exact .inl ⟨fault, hread, rfl⟩
  · rename_i text hread
    rw [Document.parse] at h
    split at h
    · rename_i e he
      cases h
      exact .inr ⟨text, e, hread, he, rfl⟩
    · cases h

namespace Run

/-! ### What is written -/

/-- A run gets through its schemas and its targets. -/
structure Finishes (fs : FileSystem) (s : Settings) (schemas targets : List String) : Prop where
  schemaFiles_eq : schemaFiles fs s = .ok schemas
  loads : ∃ n, (Registry.empty.load fs schemas).2 = .ok n
  goesOn : s.schemasOnly = false
  targets_eq : selectedTargets fs s = .ok targets

/-- What the lines of a run may be. -/
inductive Writes (fs : FileSystem) (s : Settings) : Line → Prop
  | frame {n m : Nat} {l : Line} (h : l ∈ frame n m) : Writes fs s l
  | schema {schemas : List String} {o : LoadOutcome} (h : schemaFiles fs s = .ok schemas)
      (ho : o ∈ (Registry.empty.load fs schemas).1.outcomes) : Writes fs s (outcomeEntry o).line
  | notLoaded {schemas : List String} {f : Failure} (h : schemaFiles fs s = .ok schemas)
      (hload : (Registry.empty.load fs schemas).2 = .error f) : Writes fs s (Report.schemaFailed f.path)
  | target {schemas targets : List String} {file : String} {e : Entry} (h : Finishes fs s schemas targets)
      (hfile : file ∈ targets) (he : e ∈ targetEntries file ((Registry.empty.load fs schemas).1.validate fs file)) :
      Writes fs s e.line
  | breach {schemas targets : List String} {file : String} {b : Breach} {e : Entry} (h : Finishes fs s schemas targets)
      (hfile : file ∈ targets) (hb : b ∈ breachesOf ((Registry.empty.load fs schemas).1.validate fs file))
      (he : e ∈ breachEntries file b) : Writes fs s e.line
  | summary (p f e u : Nat) : Writes fs s (Report.summary p f e u)

theorem Finishes.lines_eq (h : Finishes fs s schemas targets) : (ofSettings fs s).lines =
    schemasLines (Registry.empty.load fs schemas).1 schemas ++
      (targetsSection (partsOf (Registry.empty.load fs schemas).1 fs targets)).lines ++ [Report.blank, Report.done] := by
  obtain ⟨n, hn⟩ := h.loads
  have hends := ends_ofSettings fs s
  generalize ofSettings fs s = run at hends ⊢
  cases hends with
  | badPattern _ b hschemas => cases h.schemaFiles_eq.symm.trans hschemas
  | notLoaded _ others f hschemas hload =>
    cases h.schemaFiles_eq.symm.trans hschemas
    cases hn.symm.trans hload
  | schemasOnly _ others m hschemas hload honly => cases h.goesOn.symm.trans honly
  | badTargetPattern _ others m b hschemas hload honly htargets => cases h.targets_eq.symm.trans htargets
  | finished others files m hschemas hload honly htargets =>
    cases h.schemaFiles_eq.symm.trans hschemas
    cases h.targets_eq.symm.trans htargets
    rfl

/-- What is written up to the targets. -/
private theorem writes_schemasLines (h : schemaFiles fs s = .ok schemas) :
    ∀ l ∈ schemasLines (Registry.empty.load fs schemas).1 schemas, Writes fs s l := by
  intro l hl
  rw [schemasLines, ← map_line_schemaEntries, schemaEntries, List.mem_append, List.mem_append, List.map_map] at hl
  rcases hl with (hl | hl) | hl
  · have hframe : l ∈ frame schemas.length 0 := by
      simp only [frame, List.mem_cons, List.not_mem_nil, or_false] at hl ⊢
      rcases hl with hl | hl | hl | hl <;> simp [hl]
    exact .frame hframe
  · obtain ⟨o, ho, rfl⟩ := List.mem_map.1 hl
    exact .schema h ho
  · rw [List.mem_singleton.1 hl]
    exact .frame (show Report.blank ∈ frame 0 0 by simp [frame])

private theorem writes_targets (h : Finishes fs s schemas targets) :
    ∀ l ∈ (targetsSection (partsOf (Registry.empty.load fs schemas).1 fs targets)).lines, Writes fs s l := by
  have hblank : Writes fs s Report.blank := .frame (show Report.blank ∈ frame 0 0 by simp [frame])
  have hfound (n : Nat) : Writes fs s (Report.plain "Globbing targets... " ++ Report.found n "targets") :=
    .frame (show _ ∈ frame 0 n by simp [frame])
  simp only [targetsSection, partsOf, List.forall_mem_cons, List.forall_mem_append, List.forall_mem_flatMap,
    List.forall_mem_map, List.cons_append]
  refine ⟨hfound _, hblank, ⟨?_, hblank, ?_⟩, .summary .., List.forall_mem_nil _⟩
  · intro file hfile l hl
    rw [lines_partOf, List.mem_map] at hl
    obtain ⟨e, he, rfl⟩ := hl
    exact .target h hfile he
  · intro file hfile d hd
    rw [details_partOf, List.mem_map] at hd
    obtain ⟨b, hb, rfl⟩ := hd
    have hwrites : ∀ e ∈ breachEntries file b, Writes fs s e.line := fun e he => .breach h hfile hb he
    rw [breachEntries, List.forall_mem_cons, List.forall_mem_map] at hwrites
    simp only [Detail.lines, List.cons_append, List.forall_mem_cons, List.forall_mem_append, List.forall_mem_flatMap,
      List.not_mem_nil, false_imp_iff, implies_true, and_true]
    exact ⟨hwrites.1, fun e he => ⟨hblank, hwrites.2 e he⟩, hblank⟩

/-- Every line is about a schema file or a target, or stands around these. -/
theorem writes_of_mem_lines (fs : FileSystem) (s : Settings) : ∀ l ∈ (ofSettings fs s).lines, Writes fs s l := by
  have hframe : ∀ l ∈ [Report.banner Report.version, Report.blank, Report.done], Writes fs s l := fun l hl =>
    .frame (show l ∈ frame 0 0 by revert hl; simp [frame]; tauto)
  have hstart : ∀ {r : Run}, (∀ l ∈ r.lines, Writes fs s l) →
      ∀ l ∈ (after [Report.banner Report.version, Report.blank] r).lines, Writes fs s l := by
    intro r hr
    simp only [after, List.cons_append, List.nil_append, List.forall_mem_cons]
    exact ⟨hframe _ (by simp), hframe _ (by simp), hr⟩
  unfold ofSettings
  refine hstart ?_
  cases hexcluded : globFiles fs s.excludePatterns with
  | error b => exact List.forall_mem_nil _
  | ok excluded =>
    cases hfound : globFiles fs s.schemaPatterns with
    | error b => exact List.forall_mem_nil _
    | ok found =>
      have hschemas : schemaFiles fs s = .ok (difference found excluded) := by rw [schemaFiles, hexcluded, hfound]
      have hlines := writes_schemasLines hschemas
      simp only [schemasLines, List.cons_append, List.nil_append, List.forall_mem_cons,
        List.forall_mem_append] at hlines
      obtain ⟨-, hblank, hcount, -, houtcomes, -⟩ := hlines
      simp only [withFiles, withSchemas]
      cases hload : (Registry.empty.load fs (difference found excluded)).2 with
      | error f =>
        simp only [List.cons_append, List.forall_mem_cons, List.forall_mem_append]
        exact ⟨hcount, hblank, houtcomes, .notLoaded hschemas hload, List.forall_mem_nil _⟩
      | ok n =>
        simp only [after, afterSchemas, List.cons_append, List.forall_mem_cons, List.forall_mem_append]
        refine ⟨hcount, hblank, ⟨houtcomes, hblank, List.forall_mem_nil _⟩, ?_⟩
        split
        · exact fun l hl => hframe l (List.mem_cons_of_mem _ hl)
        · rename_i honly
          cases htargets : targetFiles fs s (difference found excluded) excluded with
          | error b => exact List.forall_mem_nil _
          | ok targets =>
            have hselected : selectedTargets fs s = .ok targets := by
              rw [selectedTargets, hexcluded, hschemas]
              exact htargets
            have hfinishes : Finishes fs s (difference found excluded) targets :=
              ⟨hschemas, ⟨n, hload⟩, by simpa using honly, hselected⟩
            exact List.forall_mem_append.2
              ⟨writes_targets hfinishes, fun l hl => hframe l (List.mem_cons_of_mem _ hl)⟩

/-! ### Texts of documents -/

/-- A line that a run writes about a target and that holds texts of documents as they are, with these texts: why there is
nothing to validate, or an error by a registered schema that the target declares. -/
inductive Quotes (fs : FileSystem) (s : Settings) : Line → List String → Prop
  | unreadable {schemas targets : List String} {file text : String} {e : ContentError}
      (h : Finishes fs s schemas targets) (hfile : file ∈ targets) (hread : fs.read file = .ok text)
      (he : Tree.ofYaml text = .error e) :
      Quotes fs s (Report.targetUnreadable file (Failure.malformed file e.message).message) e.verbatim
  | error {schemas targets : List String} {file id : String} {d : Document} {r : Registered} {e : Violation}
      (h : Finishes fs s schemas targets) (hfile : file ∈ targets) (hd : Document.load fs file = .ok d)
      (hknown : ∀ i ∈ d.values Directive.schemaKey, (Registry.empty.load fs schemas).1.contains i = true)
      (hid : id ∈ d.values Directive.schemaKey) (hr : (Registry.empty.load fs schemas).1.get? id = some r)
      (he : e ∈ r.validator.program.violations d.content) :
      Quotes fs s (Report.failureError (e.report r.validator.schema)) e.verbatim

/-- No control character is a word character. -/
theorem notMem_of_mem_values (hc : c.toNat < 32) {path : String} {d : Document} (hd : Document.load fs path = .ok d)
    {key value : String} (h : value ∈ d.values key) : c ∉ value.toList := by
  have hnone : ∀ n < 32, Directive.isWordChar (Char.ofNat n) = false := by decide
  have hchar := hnone c.toNat hc
  rw [Char.ofNat_toNat] at hchar
  obtain ⟨text, hparse⟩ := Registry.exists_parse_of_load hd
  exact (Document.isWord_of_mem_values hparse h).notMem hchar

section Names

variable (hc : c.toNat < 32) (hnames : fs.root.NamesLack c)

include hc hnames

theorem notMem_of_mem_found {patterns files : List String} (h : globFiles fs patterns = .ok files) :
    ∀ file ∈ files, c ∉ file.toList := by
  refine notMem_of_mem_globFiles ?_ ?_ hnames h <;>
    · rintro rfl
      exact absurd hc (by decide)

theorem notMem_of_mem_schemaFiles (h : schemaFiles fs s = .ok schemas) : ∀ file ∈ schemas, c ∉ file.toList := by
  rw [schemaFiles] at h
  split at h
  · rename_i excluded found _ hfound
    cases h
    exact fun file hfile => notMem_of_mem_found hc hnames hfound file (List.mem_of_mem_filter hfile)
  · cases h
  · cases h

theorem notMem_of_mem_selectedTargets (h : selectedTargets fs s = .ok targets) :
    ∀ file ∈ targets, c ∉ file.toList := by
  rw [selectedTargets] at h
  split at h
  · rw [targetFiles] at h
    cases hfound : globFiles fs s.targetPatterns with
    | error b =>
      rw [hfound] at h
      cases h
    | ok found =>
      rw [hfound] at h
      cases h
      exact fun file hfile => notMem_of_mem_found hc hnames hfound file (List.mem_of_mem_filter hfile)
  · cases h
  · cases h

/-- What is told about a schema file has no control characters. -/
theorem not_occursIn_outcome (h : schemaFiles fs s = .ok schemas) {o : LoadOutcome}
    (ho : o ∈ (Registry.empty.load fs schemas).1.outcomes) : ¬ OccursIn c (Line.texts (outcomeEntry o).line) := by
  have hfile := notMem_of_mem_schemaFiles hc hnames h
  rw [Entry.occursIn_line_iff hc]
  cases Registry.tells_of_mem_outcomes ho with
  | loaded hpath hd hid => simp [outcomeEntry, Entry.verbatim, hfile _ hpath, notMem_of_mem_values hc hd hid]
  | miscounted n hpath =>
    simp [outcomeEntry, Entry.verbatim, Failure.path, Failure.mem_message_iff hc, Failure.verbatim, hfile _ hpath]
  | taken hpath hfirst hd hid =>
    simp [outcomeEntry, Entry.verbatim, Failure.path, Failure.mem_message_iff hc, Failure.verbatim, hfile _ hpath,
      hfile _ hfirst, notMem_of_mem_values hc hd hid]

/-- A control character in what is told about a target is one of a text that its line quotes. -/
theorem exists_quotes_of_target (h : Finishes fs s schemas targets) {file : String} (hfile : file ∈ targets) {e : Entry}
    (he : e ∈ targetEntries file ((Registry.empty.load fs schemas).1.validate fs file))
    (hmem : OccursIn c (Line.texts e.line)) : ∃ texts, Quotes fs s e.line texts ∧ OccursIn c texts := by
  have hname := notMem_of_mem_selectedTargets hc hnames h.targets_eq file hfile
  rw [Entry.occursIn_line_iff hc] at hmem
  rw [Registry.validate] at he
  cases hd : Document.load fs file with
  | error why =>
    rw [hd] at he
    rcases Document.load_eq_error hd with ⟨fault, -, rfl⟩ | ⟨text, found, hread, hfound, rfl⟩
    · obtain rfl := List.mem_singleton.1 he
      refine absurd hmem ?_
      simp [Entry.verbatim, Failure.mem_message_iff hc, Failure.verbatim, hname,
        notMem_of_isClean hc fault.isClean_text]
    · obtain rfl := List.mem_singleton.1 he
      refine ⟨_, .unreadable h hfile hread hfound, ?_⟩
      simpa [Entry.verbatim, Failure.mem_message_iff hc, Failure.verbatim, hname,
        ContentError.mem_message_iff hc] using hmem
  | ok d =>
    rw [hd] at he
    have hjudged := Registry.judged_validateDocument (Registry.empty.load fs schemas).1 d
    dsimp only at he
    generalize (Registry.empty.load fs schemas).1.validateDocument d = result at hjudged he
    have hword : ∀ id ∈ d.values Directive.schemaKey, c ∉ id.toList := fun id hid => notMem_of_mem_values hc hd hid
    refine absurd hmem ?_
    cases hjudged with
    | undeclared hids =>
      rw [targetEntries, List.mem_singleton] at he
      simp [he, Entry.verbatim, hname]
    | unknown before id rest hids _ _ =>
      rw [targetEntries, List.mem_singleton] at he
      have hid : id ∈ d.values Directive.schemaKey := by simp [hids]
      simp [he, Entry.verbatim, hname, hword id hid]
    | judged hne hknown =>
      rw [targetEntries, List.mem_append, List.mem_map, List.mem_map] at he
      rcases he with ⟨p, hp, rfl⟩ | ⟨b, hb, rfl⟩
      · obtain ⟨id, hid, rfl⟩ := List.mem_map.1 hp
        simp [Entry.verbatim, hname, hword id (List.mem_of_mem_filter hid)]
      · simp [Entry.verbatim, hname, hword _ (Registry.mem_failures_judgement.1 hb).1]

/-- The same holds of what is told about the errors of a target. -/
theorem exists_quotes_of_breach (h : Finishes fs s schemas targets) {file : String} (hfile : file ∈ targets)
    {b : Breach} (hb : b ∈ breachesOf ((Registry.empty.load fs schemas).1.validate fs file)) {e : Entry}
    (he : e ∈ breachEntries file b)
    (hmem : OccursIn c (Line.texts e.line)) : ∃ texts, Quotes fs s e.line texts ∧ OccursIn c texts := by
  have hname := notMem_of_mem_selectedTargets hc hnames h.targets_eq file hfile
  rw [Entry.occursIn_line_iff hc] at hmem
  rw [Registry.validate] at hb
  cases hd : Document.load fs file with
  | error why =>
    rw [hd] at hb
    cases hb
  | ok d =>
    rw [hd] at hb
    have hjudged := Registry.judged_validateDocument (Registry.empty.load fs schemas).1 d
    dsimp only at hb
    generalize (Registry.empty.load fs schemas).1.validateDocument d = result at hjudged hb
    cases hjudged with
    | undeclared | unknown => cases hb
    | judged hne hknown =>
      obtain ⟨hid, herrors, -⟩ := Registry.mem_failures_judgement.1 hb
      rw [breachEntries, List.mem_cons, List.mem_map] at he
      rcases he with rfl | ⟨r, hr, rfl⟩
      · refine absurd hmem ?_
        simp [Entry.verbatim, hname, notMem_of_mem_values hc hd hid]
      · obtain ⟨registered, hregistered⟩ := Option.isSome_iff_exists.1 (hknown _ hid)
        rw [herrors, Registry.errorsBy, hregistered] at hr
        obtain ⟨e, he, rfl⟩ := List.mem_map.1 hr
        refine ⟨_, .error h hfile hd hknown hid hregistered he, ?_⟩
        simpa [Entry.verbatim, Violation.mem_display_iff hc] using hmem

/-- A control character in a line is one of a text that the line quotes. -/
theorem exists_quotes_of_mem_lines {l : Line} (hl : l ∈ (ofSettings fs s).lines) (hmem : OccursIn c (Line.texts l)) :
    ∃ texts, Quotes fs s l texts ∧ OccursIn c texts := by
  cases writes_of_mem_lines fs s l hl with
  | frame h => exact absurd hmem (not_occursIn_of_mem_frame hc h)
  | schema h ho => exact absurd hmem (not_occursIn_outcome hc hnames h ho)
  | @notLoaded schemas f h hload =>
    obtain ⟨noted, new, haccount⟩ := Registry.load_accounts Registry.empty fs schemas
    have hcovered := haccount.covered
    rw [hload] at hcovered
    obtain ⟨j, hj, -⟩ := hcovered
    have hpath := notMem_of_mem_schemaFiles hc hnames h _ (List.mem_of_getElem? hj)
    rw [Report.schemaFailed, occursIn_status_iff hc _ (isClean_literal rfl)] at hmem
    simp (disch := rw [String.toList_ofList]; decide) only [toString, String.toList_append, List.mem_append,
      mem_toList_iff_false hc, or_false, false_or] at hmem
    exact absurd hmem hpath
  | target h hfile he => exact exists_quotes_of_target hc hnames h hfile he hmem
  | breach h hfile hb he => exact exists_quotes_of_breach hc hnames h hfile hb he hmem
  | summary p f e u => exact absurd hmem (not_occursIn_summary hc p f e u)

end Names

theorem Quotes.occursIn (hc : c.toNat < 32) {l : Line} {texts : List String} (h : Quotes fs s l texts)
    (hmem : OccursIn c texts) : OccursIn c (Line.texts l) := by
  cases h with
  | @unreadable _ _ file _ e =>
    change OccursIn c (Line.texts (Entry.unreadable file _).line)
    rw [Entry.occursIn_line_iff hc]
    simp [Entry.verbatim, Failure.mem_message_iff hc, Failure.verbatim, ContentError.mem_message_iff hc, hmem]
  | @error _ _ _ _ _ r e =>
    change OccursIn c (Line.texts (Entry.error _).line)
    rw [Entry.occursIn_line_iff hc]
    simp [Entry.verbatim, Violation.mem_display_iff hc, hmem]

theorem Finishes.mem_lines_of_mem_parts (h : Finishes fs s schemas targets) {part : TargetPart}
    (hpart : part ∈ partsOf (Registry.empty.load fs schemas).1 fs targets) :
    (∀ l ∈ part.lines, l ∈ (ofSettings fs s).lines) ∧
      ∀ d ∈ part.details, ∀ l ∈ d.lines, l ∈ (ofSettings fs s).lines := by
  rw [h.lines_eq, targetsSection]
  constructor
  · intro l hl
    have hmem := List.mem_flatMap.2 ⟨part, hpart, hl⟩
    simp [hmem]
  · intro d hd l hl
    have hmem := List.mem_flatMap.2 ⟨d, List.mem_flatMap.2 ⟨part, hpart, hd⟩, hl⟩
    simp only [List.mem_append, List.mem_cons, hmem, or_true, true_or]

/-- What is quoted is written. -/
theorem Quotes.mem_lines {l : Line} {texts : List String} (h : Quotes fs s l texts) : l ∈ (ofSettings fs s).lines := by
  cases h with
  | @unreadable schemas targets file text e hfinishes hfile hread he =>
    have hvalidate : (Registry.empty.load fs schemas).1.validate fs file = .error (.malformed file e.message) := by
      simp only [Registry.validate, Document.load, hread, Document.parse, he]
    refine (hfinishes.mem_lines_of_mem_parts (List.mem_map_of_mem hfile)).1 _ ?_
    rw [hvalidate]
    exact List.mem_singleton_self _
  | @error schemas targets file id d r e hfinishes hfile hd hknown hid hr he =>
    have hreport := List.mem_map_of_mem he (f := Violation.report r.validator.schema)
    have hbreach : ⟨id, r.validator.check d.content⟩ ∈
        breachesOf ((Registry.empty.load fs schemas).1.validate fs file) := by
      have hjudged := Registry.judged_validateDocument (Registry.empty.load fs schemas).1 d
      simp only [Registry.validate, hd]
      generalize (Registry.empty.load fs schemas).1.validateDocument d = result at hjudged ⊢
      cases hjudged with
      | undeclared hids => simp [hids] at hid
      | unknown before other rest hids _ hother =>
        have hcontains := hknown other (by simp [hids])
        rw [Registry.contains, hother] at hcontains
        cases hcontains
      | judged =>
        refine Registry.mem_failures_judgement.2 ⟨hid, ?_, List.ne_nil_of_mem hreport⟩
        rw [Registry.errorsBy, hr]
    refine (hfinishes.mem_lines_of_mem_parts (List.mem_map_of_mem hfile)).2
      ⟨file, id, r.validator.check d.content⟩ ?_ _ ?_
    · rw [details_partOf]
      exact List.mem_map_of_mem hbreach
    · refine List.mem_append_left _ (List.mem_cons_of_mem _ (List.mem_flatMap.2 ⟨_, hreport, ?_⟩))
      simp

/-! ### Lines of the output -/

theorem toList_output (r : Run) (coloured : Bool) :
    (r.output coloured).toList = r.lines.flatMap fun l => (Line.render coloured l).toList ++ ['\n'] := by
  rw [output]
  induction r.lines with
  | nil => simp
  | cons l rest ih => rw [List.map_cons, String.join_cons, String.toList_append, ih]; simp

/-- The output has at least as many lines as entries, and no more if no line is broken. -/
theorem count_output (r : Run) (coloured : Bool) : r.lines.length ≤ (r.output coloured).toList.count '\n' ∧
    ((r.output coloured).toList.count '\n' = r.lines.length ↔
      ∀ l ∈ r.lines, ¬ OccursIn '\n' (Line.texts l)) := by
  simp only [← Report.Line.mem_render_iff (by decide : '\n'.toNat < 32) (by decide) coloured]
  rw [toList_output]
  induction r.lines with
  | nil => simp
  | cons l rest ih =>
    rw [List.flatMap_cons, List.count_append, List.count_append, List.length_cons, List.forall_mem_cons, ← ih.2,
      ← List.count_eq_zero]
    have hone : List.count '\n' ['\n'] = 1 := rfl
    rw [hone]
    refine ⟨by omega, by omega⟩

/-- Where no file name has a line break, a line of a run is broken just if it quotes a text with a break, and the output
has a line for each entry just if no such text is quoted.  Otherwise it has more. -/
theorem count_output_iff (s : Settings) (coloured : Bool) (hnames : fs.root.NamesLack '\n') :
    (∀ l ∈ (ofSettings fs s).lines,
      '\n' ∈ (Line.render coloured l).toList ↔ ∃ texts, Quotes fs s l texts ∧ OccursIn '\n' texts) ∧
      (ofSettings fs s).lines.length ≤ ((ofSettings fs s).output coloured).toList.count '\n' ∧
      (((ofSettings fs s).output coloured).toList.count '\n' = (ofSettings fs s).lines.length ↔
        ∀ l texts, Quotes fs s l texts → ¬ OccursIn '\n' texts) := by
  have hbreak : '\n'.toNat < 32 := by decide
  have hline : ∀ l ∈ (ofSettings fs s).lines,
      OccursIn '\n' (Line.texts l) ↔ ∃ texts, Quotes fs s l texts ∧ OccursIn '\n' texts := fun l hl =>
    ⟨exists_quotes_of_mem_lines hbreak hnames hl, fun ⟨_, hquotes, hmem⟩ => hquotes.occursIn hbreak hmem⟩
  obtain ⟨hle, hcount⟩ := count_output (ofSettings fs s) coloured
  have hrender := Report.Line.mem_render_iff hbreak (by decide) coloured
  refine ⟨fun l hl => (hrender l).trans (hline l hl), hle, hcount.trans ?_⟩
  constructor
  · exact fun h l texts hquotes hmem => h l hquotes.mem_lines (hquotes.occursIn hbreak hmem)
  · intro h l hl hmem
    obtain ⟨texts, hquotes, hmem⟩ := (hline l hl).1 hmem
    exact h l texts hquotes hmem

/-- A target whose content is not valid below a key with a line break. -/
def brokenKey : FileSystem where
  root := .directory [("t.yml", .file "\"k\\nOK\": !!int x\n".toUTF8)]
  directory := []

/-- Settings that name it. -/
def targetOnly : Settings := { targetPatterns := ["t.yml"] }

private theorem finishes_brokenKey : Finishes brokenKey targetOnly [] ["t.yml"] where
  schemaFiles_eq := by decide +kernel
  loads := ⟨0, rfl⟩
  goesOn := rfl
  targets_eq := by decide +kernel

private theorem quotes_brokenKey : ∃ l texts, Quotes brokenKey targetOnly l texts ∧ OccursIn '\n' texts := by
  have hread : brokenKey.read "t.yml" = .ok "\"k\\nOK\": !!int x\n" := by decide +kernel
  have herror : (Tree.ofYaml "\"k\\nOK\": !!int x\n").mapError ContentError.verbatim =
      .error ["k\nOK", "an integer"] := by
    decide +kernel
  cases he : Tree.ofYaml "\"k\\nOK\": !!int x\n" with
  | ok t =>
    rw [he] at herror
    cases herror
  | error e =>
    rw [he] at herror
    refine ⟨_, _, .unreadable finishes_brokenKey (List.mem_singleton_self _) hread he, "k\nOK", ?_, by decide⟩
    rw [Except.error.inj herror]
    exact List.mem_cons_self

/-- The key breaks its line. -/
theorem count_output_iff_brokenKey : brokenKey.root.NamesLack '\n' ∧
    (ofSettings brokenKey targetOnly).lines.length <
      ((ofSettings brokenKey targetOnly).output false).toList.count '\n' := by
  have hnames : brokenKey.root.NamesLack '\n' := by
    intro name e h
    cases h with
    | here hentry =>
      obtain ⟨rfl, -⟩ : name = "t.yml" ∧ _ := by simpa using hentry
      decide
    | inside houter hinner =>
      obtain rfl := List.mem_singleton.1 houter
      cases hinner
  obtain ⟨-, hle, hcount⟩ := count_output_iff targetOnly false hnames
  obtain ⟨l, texts, hquotes, hmem⟩ := quotes_brokenKey
  refine ⟨hnames, lt_of_le_of_ne hle fun heq => ?_⟩
  exact hcount.1 heq.symm l texts hquotes hmem

end Run

end YamlSchema
