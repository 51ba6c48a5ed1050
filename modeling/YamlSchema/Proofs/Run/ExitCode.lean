import YamlSchema.CommandLine
import YamlSchema.Proofs.Registry.Judgement
import YamlSchema.Proofs.Registry.Stated
import YamlSchema.Proofs.Run.Entry
import YamlSchema.Proofs.Shorthand.Meaning

/-!
# The exit code

What settings say about the files decides how a run ends: a pattern or a schema file aborts it (`aborts_iff`), and
otherwise it fails just if some target does (`exitCode_ofSettings`).  Behind the arguments of a run the exit code tells
these apart (`exitCode_execute`).
-/

namespace YamlSchema

open Schema (References Validator)

namespace Run

variable {fs : FileSystem} {s : Settings} {schemas : List String}

/-! ### Aborted runs -/

/-- A pattern that is read is none, or a schema file that is selected cannot be read or parsed, or the schema that it
states before any other file is refused. -/
inductive Aborts (fs : FileSystem) (s : Settings) : Prop
  | pattern (p : String)
      (hp : p ∈ s.excludePatterns ∨ p ∈ s.schemaPatterns ∨ s.schemasOnly = false ∧ p ∈ s.targetPatterns)
      (h : ¬ IsFilePattern p)
  | unreadable (schemas : List String) (file : String) (why : Failure) (hschemas : schemaFiles fs s = .ok schemas)
      (hfile : file ∈ schemas) (h : Document.load fs file = .error why)
  | refused (before : List String) (file : String) (rest : List String) (id : String) (t : Tree) (why : Schema.Refusal)
      (hschemas : schemaFiles fs s = .ok (before ++ file :: rest)) (ht : stated? fs file id = some t)
      (hfirst : ∀ earlier ∈ before, stated? fs earlier id = none)
      (h : Validator.compile (statedBy fs [] (before ++ file :: rest)) t = .error why)

private theorem aborts_of_schemaFiles {b : BadPattern} (h : schemaFiles fs s = .error b) : Aborts fs s := by
  have hnot : ¬ ∃ files, schemaFiles fs s = .ok files := by simp [h]
  simp only [schemaFiles_isOk_iff, not_and_or, not_forall] at hnot
  rcases hnot with ⟨p, hp, hbad⟩ | ⟨p, hp, hbad⟩
  · exact .pattern p (.inl hp) hbad
  · exact .pattern p (.inr (.inl hp)) hbad

private theorem aborts_of_selectedTargets {b : BadPattern} (hschemas : schemaFiles fs s = .ok schemas)
    (honly : s.schemasOnly = false) (h : selectedTargets fs s = .error b) : Aborts fs s := by
  have hnot : ¬ ∃ files, selectedTargets fs s = .ok files := by simp [h]
  simp only [selectedTargets_isOk_iff hschemas, not_forall] at hnot
  obtain ⟨p, hp, hbad⟩ := hnot
  exact .pattern p (.inr (.inr ⟨honly, hp⟩)) hbad

private theorem aborts_of_load {f : Failure} (hschemas : schemaFiles fs s = .ok schemas)
    (h : (Registry.empty.load fs schemas).2 = .error f) : Aborts fs s := by
  have hnot : ¬ ∃ n, (Registry.empty.load fs schemas).2 = .ok n := by simp [h]
  rw [Registry.load_isOk_iff Registry.Mirrors.empty, not_and_or] at hnot
  simp only [not_forall] at hnot
  rcases hnot with ⟨file, hfile, hread⟩ | ⟨id, t, -, ht, hcompile⟩
  · cases hd : Document.load fs file with
    | ok d => exact absurd ⟨d, hd⟩ hread
    | error why => exact .unreadable schemas file why hschemas hfile hd
  · have hfirst : (schemas.findSome? fun path => stated? fs path id) = some t := by
      rw [← ht, get?_statedBy]
      rfl
    obtain ⟨before, file, rest, rfl, hstated, hbefore⟩ := List.findSome?_eq_some_iff.1 hfirst
    cases hc : Validator.compile (statedBy fs [] (before ++ file :: rest)) t with
    | ok c => exact absurd ⟨c, hc⟩ hcompile
    | error why => exact .refused before file rest id t why hschemas hstated hbefore hc

private theorem not_aborts_of_load {n : Nat} (hschemas : schemaFiles fs s = .ok schemas)
    (h : (Registry.empty.load fs schemas).2 = .ok n)
    (htargets : s.schemasOnly = false → ∃ targets, selectedTargets fs s = .ok targets) : ¬ Aborts fs s := by
  obtain ⟨hread, hcompiled⟩ := (Registry.load_isOk_iff Registry.Mirrors.empty).1 ⟨n, h⟩
  intro habort
  cases habort with
  | pattern p hp hbad =>
    obtain ⟨hexclude, hschema⟩ := schemaFiles_isOk_iff.1 ⟨schemas, hschemas⟩
    rcases hp with hp | hp | ⟨honly, hp⟩
    · exact hbad (hexclude p hp)
    · exact hbad (hschema p hp)
    · exact hbad ((selectedTargets_isOk_iff hschemas).1 (htargets honly) p hp)
  | unreadable other file why hother hfile hfail =>
    cases hschemas.symm.trans hother
    obtain ⟨d, hd⟩ := hread file hfile
    rw [hfail] at hd
    cases hd
  | refused before file rest id t why hother ht hfirst hwhy =>
    cases hschemas.symm.trans hother
    have hstated : OrderedMap.get? (statedBy fs [] (before ++ file :: rest)) id = some t := by
      rw [get?_statedBy, List.findSome?_eq_some_iff.2 ⟨before, file, rest, rfl, ht, hfirst⟩]
      rfl
    obtain ⟨c, hc⟩ := hcompiled id t rfl hstated
    change Validator.compile (statedBy fs [] (before ++ file :: rest)) t = .ok c at hc
    rw [hwhy] at hc
    cases hc

/-- A run ends without counts just if it is aborted. -/
theorem aborts_iff : (∃ fault, (ofSettings fs s).result = .error fault) ↔ Aborts fs s := by
  have hends := ends_ofSettings fs s
  generalize ofSettings fs s = run at hends ⊢
  cases hends with
  | badPattern lines b h => exact ⟨fun _ => aborts_of_schemaFiles h, fun _ => ⟨_, rfl⟩⟩
  | notLoaded lines schemas f h hload => exact ⟨fun _ => aborts_of_load h hload, fun _ => ⟨_, rfl⟩⟩
  | badTargetPattern lines schemas n b h hload honly htargets =>
    exact ⟨fun _ => aborts_of_selectedTargets h honly htargets, fun _ => ⟨_, rfl⟩⟩
  | schemasOnly lines schemas n h hload honly =>
    have hnot := not_aborts_of_load h hload fun hno => by rw [honly] at hno; cases hno
    refine ⟨?_, fun habort => absurd habort hnot⟩
    rintro ⟨_, hresult⟩
    cases hresult
  | finished schemas targets n h hload honly htargets =>
    have hnot := not_aborts_of_load h hload fun _ => ⟨targets, htargets⟩
    refine ⟨?_, fun habort => absurd habort hnot⟩
    rintro ⟨_, hresult⟩
    cases hresult

/-! ### Failing targets -/

/-- A target cannot be read or parsed, or all schemas that it declares are in a table and it breaks one of them. -/
inductive Fails (fs : FileSystem) (table : References) (file : String) : Prop
  | unreadable (why : Failure) (h : Document.load fs file = .error why)
  | violates (d : Document) (id : String) (t : Tree) (c : Validator) (hd : Document.load fs file = .ok d)
      (hknown : ∀ i ∈ d.values Directive.schemaKey, OrderedMap.contains table i = true)
      (hid : id ∈ d.values Directive.schemaKey) (ht : OrderedMap.get? table id = some t)
      (hc : Validator.compile table t = .ok c) (h : c.check d.content ≠ [])

/-- The loaded schemas judge as the stated ones do. -/
private theorem errorsBy_load {n : Nat} (hload : (Registry.empty.load fs schemas).2 = .ok n) {id : String} {t : Tree}
    {c : Validator} (ht : OrderedMap.get? (statedBy fs [] schemas) id = some t)
    (hc : Validator.compile (statedBy fs [] schemas) t = .ok c) (content : Tree) :
    (Registry.empty.load fs schemas).1.errorsBy content id = c.check content := by
  obtain ⟨hcanonical, hvalidator⟩ := Registry.get?_load Registry.Mirrors.empty hload id
  have hregistered := hcanonical.trans ht
  obtain ⟨registered, hget, rfl⟩ := Option.map_eq_some_iff.1 hregistered
  have hcompile := (hvalidator registered rfl hget).symm.trans hc
  cases hcompile
  rw [Registry.errorsBy, hget]

private theorem contains_load {n : Nat} (hload : (Registry.empty.load fs schemas).2 = .ok n) (id : String) :
    (Registry.empty.load fs schemas).1.contains id = OrderedMap.contains (statedBy fs [] schemas) id := by
  obtain ⟨hcanonical, -⟩ := Registry.get?_load Registry.Mirrors.empty hload id
  change _ = OrderedMap.get? (statedBy fs [] schemas) id at hcanonical
  rw [Registry.contains, OrderedMap.contains, ← hcanonical, Option.isSome_map]

/-- A document fails just if it declares nothing but registered schemas and one of them finds errors. -/
private theorem fails_document_iff {n : Nat} (hload : (Registry.empty.load fs schemas).2 = .ok n) {file : String}
    {d : Document} (hd : Document.load fs file = .ok d) : Fails fs (statedBy fs [] schemas) file ↔
      (∀ i ∈ d.values Directive.schemaKey, (Registry.empty.load fs schemas).1.contains i = true) ∧
        ∃ id ∈ d.values Directive.schemaKey, (Registry.empty.load fs schemas).1.errorsBy d.content id ≠ [] := by
  simp only [contains_load hload]
  constructor
  · intro hfails
    cases hfails with
    | unreadable why h =>
      rw [hd] at h
      cases h
    | violates e id t c he hknown hid ht hc h =>
      rw [hd] at he
      cases he
      exact ⟨hknown, id, hid, by rwa [errorsBy_load hload ht hc]⟩
  · rintro ⟨hknown, id, hid, herrors⟩
    obtain ⟨t, ht⟩ := Option.isSome_iff_exists.1 (hknown id hid)
    obtain ⟨c, hc⟩ := ((Registry.load_isOk_iff Registry.Mirrors.empty).1 ⟨n, hload⟩).2 id t rfl ht
    exact .violates d id t c hd hknown hid ht hc (by rwa [errorsBy_load hload ht hc] at herrors)

/-- A target fails just if it has an entry that says so. -/
private theorem fails_iff {n : Nat} (hload : (Registry.empty.load fs schemas).2 = .ok n) (file : String) :
    (∃ e ∈ targetEntries file ((Registry.empty.load fs schemas).1.validate fs file),
      e.kind = .failed ∨ e.kind = .unreadable) ↔ Fails fs (statedBy fs [] schemas) file := by
  rw [Registry.validate]
  cases hd : Document.load fs file with
  | error why =>
    refine ⟨fun _ => .unreadable why hd, fun _ => ⟨.unreadable file why.message, ?_, .inr rfl⟩⟩
    -- what ends the reading of a file is no failure that a validation tells in its own words
    have hfatal := (Document.failure_of_load hd).2
    cases why <;> first | exact List.mem_singleton_self _ | cases hfatal
  | ok d =>
    rw [fails_document_iff hload hd]
    have hjudged := Registry.judged_validateDocument (Registry.empty.load fs schemas).1 d
    dsimp only
    generalize (Registry.empty.load fs schemas).1.validateDocument d = result at hjudged ⊢
    cases hjudged with
    | undeclared hids => simp [hids, targetEntries, Entry.kind]
    | unknown before id rest hids hbefore hid =>
      refine iff_of_false (by simp [targetEntries, Entry.kind]) fun h => ?_
      have hcontains := h.1 id (by simp [hids])
      rw [Registry.contains, hid] at hcontains
      cases hcontains
    | judged hne hknown =>
      rw [and_iff_right hknown, exists_failed_iff]
      constructor
      · rintro ⟨b, hb⟩
        obtain ⟨hid, herrors, hne⟩ := Registry.mem_failures_judgement.1 hb
        exact ⟨b.schemaId, hid, herrors ▸ hne⟩
      · rintro ⟨id, hid, herrors⟩
        exact ⟨⟨id, _⟩, Registry.mem_failures_judgement.2 ⟨hid, rfl, herrors⟩⟩

/-- There are failures to count just if some entry says so. -/
private theorem exitCode_of_counts {files : List String} {result : String → Except Failure Verdict} {t : Tally}
    (h : Counts files result t) : t.exitCode = 1 ↔
      ∃ file ∈ files, ∃ e ∈ targetEntries file (result file), e.kind = .failed ∨ e.kind = .unreadable := by
  have hcount : t.exitCode = 1 ↔ ∃ e ∈ targetsEntries files result, e.kind = .failed ∨ e.kind = .unreadable := by
    rw [Tally.exitCode_eq_one_iff, h.failed, h.unreadable]
    simp only [Entry.count, List.countP_pos_iff, decide_eq_true_eq, and_or_left, exists_or]
  rw [hcount, targetsEntries]
  simp only [List.mem_flatMap]
  constructor
  · rintro ⟨e, ⟨file, hfile, he⟩, hkind⟩
    exact ⟨file, hfile, e, he, hkind⟩
  · rintro ⟨file, hfile, e, he, hkind⟩
    exact ⟨e, ⟨file, hfile, he⟩, hkind⟩

/-- The run goes on to the targets, and one that is selected fails by the schemas that are stated. -/
def Failing (fs : FileSystem) (s : Settings) : Prop :=
  s.schemasOnly = false ∧ ∃ schemas targets, schemaFiles fs s = .ok schemas ∧ selectedTargets fs s = .ok targets ∧
    ∃ file ∈ targets, Fails fs (statedBy fs [] schemas) file

/-- A run with counts fails just if one of its targets does. -/
theorem exitCode_ofSettings {tally : Tally} (h : (ofSettings fs s).result = .ok tally) :
    tally.exitCode = 1 ↔ Failing fs s := by
  have hends := ends_ofSettings fs s
  generalize ofSettings fs s = run at hends h
  cases hends with
  | badPattern | notLoaded | badTargetPattern => cases h
  | schemasOnly lines schemas n hschemas hload honly =>
    cases h
    simp [Tally.exitCode, schemasTally, Failing, honly]
  | finished schemas targets n hschemas hload honly htargets =>
    cases h
    rw [exitCode_of_counts (counts_partsOf _ fs targets)]
    simp only [fails_iff hload]
    constructor
    · rintro ⟨file, hfile, hfails⟩
      exact ⟨honly, schemas, targets, hschemas, htargets, file, hfile, hfails⟩
    · rintro ⟨-, others, files, hothers, hfiles, file, hfile, hfails⟩
      cases hschemas.symm.trans hothers
      cases htargets.symm.trans hfiles
      exact ⟨file, hfile, hfails⟩

end Run

/-! ### Commands -/

namespace Command

open Run (Aborts Failing)

/-- The configuration cannot be read or is invalid, or the run is aborted. -/
inductive Fatal (fs : FileSystem) (r : Request) : Prop
  | unreadable (path : String) (why : ReadFault) (hpath : r.config = some path) (h : fs.read path = .error why)
  | invalid (path text : String) (why : Yaml.DecodeError) (hpath : r.config = some path)
      (hread : fs.read path = .ok text) (h : Settings.ofYaml text = .error why)
  | aborted (s : Settings) (hs : Settings.resolve fs r.config r.overrides = .ok s) (h : Aborts fs s)

/-- A target fails that the settings select. -/
def TargetFails (fs : FileSystem) (r : Request) : Prop :=
  ∃ s, Settings.resolve fs r.config r.overrides = .ok s ∧ Failing fs s

/-- There are no settings just if the configuration cannot be read or is invalid. -/
private theorem fatal_of_resolve {fs : FileSystem} {r : Request} {why : Settings.Fault}
    (h : Settings.resolve fs r.config r.overrides = .error why) : Fatal fs r := by
  unfold Settings.resolve at h
  cases hconfig : r.config with
  | none =>
    rw [hconfig] at h
    cases h
  | some path =>
    rw [hconfig] at h
    unfold Settings.load at h
    cases hread : fs.read path with
    | error why => exact .unreadable path why hconfig hread
    | ok text =>
      cases hyaml : Settings.ofYaml text with
      | error why => exact .invalid path text why hconfig hread hyaml
      | ok s =>
        simp only [hread, hyaml] at h
        cases h

private theorem fatal_iff_of_resolve {fs : FileSystem} {r : Request} {s : Settings}
    (hs : Settings.resolve fs r.config r.overrides = .ok s) : Fatal fs r ↔ Aborts fs s := by
  refine ⟨fun h => ?_, fun h => .aborted s hs h⟩
  cases h with
  | unreadable path why hpath h => simp [Settings.resolve, Settings.load, hpath, h, Except.map] at hs
  | invalid path text why hpath hread h => simp [Settings.resolve, Settings.load, hpath, hread, h, Except.map] at hs
  | aborted other hother h =>
    rw [hs] at hother
    cases hother
    exact h

private theorem targetFails_iff_of_resolve {fs : FileSystem} {r : Request} {s : Settings}
    (hs : Settings.resolve fs r.config r.overrides = .ok s) : TargetFails fs r ↔ Failing fs s := by
  refine ⟨?_, fun h => ⟨s, hs, h⟩⟩
  rintro ⟨other, hother, h⟩
  cases hs.symm.trans hother
  exact h

end Command

/-! ### A target that fails -/

namespace Run

/-- A schema and a target that breaks it. -/
def brokenFiles : FileSystem where
  root := .directory [("a.yml", .file "## id: a\nname: string\n".toUTF8),
    ("t.yml", .file "## schema: a\nname: true\n".toUTF8)]
  directory := []

/-- Settings that name both. -/
def namedFiles : Settings := { schemaPatterns := ["a.yml"], targetPatterns := ["t.yml"] }

theorem selected_brokenFiles : schemaFiles brokenFiles namedFiles = .ok ["a.yml"] ∧
    selectedTargets brokenFiles namedFiles = .ok ["t.yml"] := by
  decide +kernel

theorem load_brokenFiles :
    Document.load brokenFiles "a.yml" = .ok ⟨"a.yml", .object [("name", .string "string")], [⟨"id", "a"⟩]⟩ ∧
      Document.load brokenFiles "t.yml" = .ok ⟨"t.yml", .object [("name", .bool true)], [⟨"schema", "a"⟩]⟩ := by
  decide +kernel

theorem statedBy_brokenFiles :
    statedBy brokenFiles [] ["a.yml"] = [("a", inflate (.object [("name", .string "string")]))] := by
  simp [statedBy, addStated, load_brokenFiles.1, Document.values, directiveValues, Directive.idKey,
    OrderedMap.contains, OrderedMap.insert]

/-- The schema is compiled, and the target breaks it. -/
private theorem compile_brokenFiles :
    ∃ c, Validator.compile (statedBy brokenFiles [] ["a.yml"]) (inflate (.object [("name", .string "string")])) = .ok c ∧
      c.check (.object [("name", .bool true)]) ≠ [] := by
  obtain ⟨hshorthand, hhole⟩ :=
    Registry.shorthand_singleton "name" (by decide) (.string "string") (by rintro ⟨⟩)
  refine ⟨_, Shorthand.compile_inflate _ hshorthand hhole, fun hnil => ?_⟩
  rw [Validator.check, List.map_eq_nil_iff] at hnil
  have hmatches :=
    (Shorthand.violations_outline_eq_nil_iff (Schema.draft_rootSetting _ _) hshorthand hhole _).1 hnil
  obtain ⟨vs, hvs, -, hmembers⟩ := Shorthand.matches_object_iff.1 hmatches
  cases hvs
  have hname := hmembers ("name", .string "string") (by simp) (.bool true) rfl
  have htext := (Shorthand.matches_primitive_iff (t := .string) (by decide) (by decide)).1 hname
  cases htext

theorem loads_brokenFiles : ∃ n, (Registry.empty.load brokenFiles ["a.yml"]).2 = .ok n := by
  refine ⟨_, Registry.load_of_shorthand ?_⟩
  rw [List.forall_mem_singleton]
  exact ⟨_, load_brokenFiles.1, Registry.shorthand_singleton "name" (by decide) (.string "string") (by rintro ⟨⟩)⟩

theorem not_aborts_brokenFiles : ¬ Aborts brokenFiles namedFiles := by
  obtain ⟨hschemas, htargets⟩ := selected_brokenFiles
  obtain ⟨n, hload⟩ := loads_brokenFiles
  exact not_aborts_of_load hschemas hload fun _ => ⟨_, htargets⟩

theorem failing_brokenFiles : Failing brokenFiles namedFiles := by
  obtain ⟨hschemas, htargets⟩ := selected_brokenFiles
  obtain ⟨c, hc, hcheck⟩ := compile_brokenFiles
  refine ⟨rfl, _, _, hschemas, htargets, "t.yml", by simp, ?_⟩
  rw [statedBy_brokenFiles] at hc ⊢
  exact .violates _ "a" _ c load_brokenFiles.2 (by decide) (by decide) rfl hc hcheck

end Run

end YamlSchema
