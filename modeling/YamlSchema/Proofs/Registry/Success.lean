import Mathlib.Data.List.Basic
import YamlSchema.Proofs.Registry.Mirror
import YamlSchema.Proofs.Shorthand.Compilation

/-!
# Batches that succeed

A batch succeeds exactly if no file ends its staging and every staged schema is compiled against the table of the batch
(`load_eq_ok_iff`).  Then all of it is known (`load_of_ok`): the staged schemas are registered in their order, each as
it is compiled, every file has its outcome, and the table stays.  A file that is not staged has its reason
(`unstaged_of_mem_stageAll`).
-/

namespace YamlSchema

open Schema (References Validator)

/-- What a staged schema is registered as, if it is compiled against a table of references. -/
def Staged.registered? (table : References) (s : Staged) : Option Registered :=
  match Validator.compile table s.canonical with
  | .ok validator => some ⟨s.id, s.path, s.canonical, validator⟩
  | .error _ => none

/-- Only the compilation depends on the table. -/
theorem Staged.registered?_congr {table other : References} {s : Staged}
    (h : Validator.compile table s.canonical = Validator.compile other s.canonical) :
    s.registered? table = s.registered? other := by
  rw [registered?, registered?, h]

/-- Registering keeps the identifiers. -/
private theorem map_id_filterMap_registered? (table : References) (staged : List Staged) :
    ((staged.filterMap (Staged.registered? table)).map Registered.id).Sublist (staged.map Staged.id) := by
  induction staged with
  | nil => exact List.Sublist.refl _
  | cons s rest ih =>
    cases hc : Validator.compile table s.canonical with
    | ok validator =>
      rw [List.filterMap_cons_some (b := ⟨s.id, s.path, s.canonical, validator⟩) (by rw [Staged.registered?, hc])]
      exact ih.cons_cons s.id
    | error why =>
      rw [List.filterMap_cons_none (by rw [Staged.registered?, hc])]
      exact ih.cons s.id

namespace Registry

variable {r : Registry} {fs : FileSystem} {paths : List String}

/-! ### Staging to the end -/

/-- Only a file that is no document ends the staging of a batch. -/
theorem length_stageAll_eq_iff (r : Registry) (fs : FileSystem) (paths : List String) : ∀ pending : List Staged,
    (r.stageAll fs pending paths).1.length = paths.length ↔ ∀ path ∈ paths, ∃ d, Document.load fs path = .ok d := by
  induction paths with
  | nil => intro pending; simp [stageAll]
  | cons path rest ih =>
    intro pending
    rw [List.forall_mem_cons]
    cases hd : Document.load fs path with
    | error e => simp [stageAll_cons_of_error hd]
    | ok d => simp [stageAll_cons_of_ok hd, ih]

/-- What is staged comes from a file of the batch. -/
theorem exists_of_mem_stageAll {s : Staged} (paths : List String) : ∀ {pending : List Staged},
    s ∈ stagedOf (r.stageAll fs pending paths).1 → ∃ d, Document.load fs s.path = .ok d ∧
      s.path ∈ paths ∧ d.values Directive.idKey = [s.id] ∧ s.canonical = inflate d.content := by
  induction paths with
  | nil => intro pending h; cases h
  | cons path rest ih =>
    intro pending h
    cases hd : Document.load fs path with
    | error e => simp [stageAll_cons_of_error hd] at h
    | ok d =>
      rw [stageAll_cons_of_ok hd, stagedOf_cons] at h
      rcases List.mem_append.1 h with h | h
      · cases hstage : r.stage pending d with
        | error e => simp [hstage] at h
        | ok t =>
          rw [hstage] at h
          obtain rfl := List.mem_singleton.1 h
          obtain ⟨hid, hpath, hcanonical, -⟩ := stage_ok hstage
          rw [hpath, Document.path_of_load hd]
          exact ⟨d, hd, List.mem_cons_self, hid, hcanonical⟩
      · obtain ⟨e, he, hmem, hrest⟩ := ih h
        exact ⟨e, he, List.mem_cons_of_mem _ hmem, hrest⟩

/-- What a document that is not staged is refused for: it states not just one identifier, or one that is held. -/
inductive Unstaged (r : Registry) (fs : FileSystem) (pending : List Staged) : Failure → Prop
  | miscounted (path : String) (d : Document) (hd : Document.load fs path = .ok d)
      (h : (d.values Directive.idKey).length ≠ 1) :
      Unstaged r fs pending (.idCardinality path (d.values Directive.idKey).length)
  | taken (path : String) (d : Document) (id first : String) (hd : Document.load fs path = .ok d)
      (hid : d.values Directive.idKey = [id]) (h : r.holder? pending id = some first) :
      Unstaged r fs pending (.duplicateId id path first)

/-- Who holds an identifier keeps it. -/
private theorem Unstaged.append {pending : List Staged} {e : Failure} (h : Unstaged r fs pending e)
    (more : List Staged) : Unstaged r fs (pending ++ more) e := by
  cases h with
  | miscounted path d hd h => exact .miscounted path d hd h
  | taken path d id first hd hid h =>
    refine .taken path d id first hd hid ?_
    rw [holder?_append, h, Option.some_or]

private theorem unstaged_of_stage {pending : List Staged} {path : String} {d : Document} {e : Failure}
    (hd : Document.load fs path = .ok d) (h : r.stage pending d = .error e) : Unstaged r fs pending e := by
  have hpath := Document.path_of_load hd
  unfold stage at h
  split at h
  · rename_i id hid
    split at h
    · rename_i first hfirst
      cases h
      rw [hpath]
      exact .taken path d id first hd hid hfirst
    · cases h
  · rename_i hids
    cases h
    rw [hpath]
    refine .miscounted path d hd fun hlength => ?_
    obtain ⟨id, hid⟩ := List.length_eq_one_iff.1 hlength
    exact hids id hid

/-- Whatever is not staged is refused for what is held in the end. -/
theorem unstaged_of_mem_stageAll {e : Failure} (paths : List String) : ∀ {pending : List Staged},
    .error e ∈ (r.stageAll fs pending paths).1 →
      Unstaged r fs (pending ++ stagedOf (r.stageAll fs pending paths).1) e := by
  induction paths with
  | nil => intro pending h; cases h
  | cons path rest ih =>
    intro pending h
    cases hd : Document.load fs path with
    | error why => simp [stageAll_cons_of_error hd] at h
    | ok d =>
      rw [stageAll_cons_of_ok hd] at h ⊢
      rw [stagedOf_cons, ← List.append_assoc]
      rcases List.mem_cons.1 h with h | h
      · rw [List.append_assoc]
        exact (unstaged_of_stage hd h.symm).append _
      · exact ih h

/-! ### Success -/

/-- The schemas that a batch registers if it succeeds. -/
def registeredBy (r : Registry) (fs : FileSystem) (paths : List String) : List Registered :=
  (stagedOf (r.stagedBy fs paths)).filterMap (Staged.registered? (r.tableOf fs paths))

/-- The identifiers of these schemas are distinct. -/
theorem nodup_registeredBy (r : Registry) (fs : FileSystem) (paths : List String) :
    ((r.registeredBy fs paths).map Registered.id).Nodup := by
  obtain ⟨-, hdistinct, -⟩ := load_spec r fs paths
  exact hdistinct.nodup.sublist (map_id_filterMap_registered? _ _)

/-- Committing registers what is staged, as it is compiled. -/
theorem Extends.new_eq {table : References} {after : Registry} {done : List (Except Failure Staged)}
    {new : List Registered} (h : Extends table r after done new) :
    new = (stagedOf done).filterMap (Staged.registered? table) := by
  have hsome : ∀ s ∈ new, Staged.registered? table ⟨s.id, s.path, s.canonical⟩ = some s := by
    intro s hs
    rw [Staged.registered?, h.compiled s hs]
  rw [← h.staged, List.filterMap_map]
  exact List.filterMap_some.symm.trans (List.filterMap_congr fun s hs => (hsome s hs).symm)

private theorem length_new {table : References} {after : Registry} {done : List (Except Failure Staged)}
    {new : List Registered} (h : Extends table r after done new) : new.length = (stagedOf done).length := by
  rw [← h.staged, List.length_map]

/-- A batch succeeds just if all its files are documents, and what is staged is compiled. -/
theorem load_eq_ok_iff {n : Nat} : (r.load fs paths).2 = .ok n ↔
    (∀ path ∈ paths, ∃ d, Document.load fs path = .ok d) ∧
      (∀ s ∈ stagedOf (r.stagedBy fs paths), ∃ c, Validator.compile (r.tableOf fs paths) s.canonical = .ok c) ∧
      n = (stagedOf (r.stagedBy fs paths)).length := by
  obtain ⟨-, -, done, new, hext, hend⟩ := load_spec r fs paths
  rw [← length_stageAll_eq_iff r fs paths []]
  change _ ↔ (r.stagedBy fs paths).length = paths.length ∧ _
  generalize (r.load fs paths).2 = result at hend ⊢
  generalize (r.load fs paths).1.references = left at hend
  cases hend with
  | loaded hdone hall =>
    subst hdone
    have hlength := length_new hext
    constructor
    · intro h
      cases h
      exact ⟨hall, hext.exists_compile, hlength⟩
    · rintro ⟨-, -, rfl⟩
      rw [hlength]
  | unstaged e _ hpath =>
    constructor
    · intro h
      cases h
    · rintro ⟨hall, -, -⟩
      rw [hall, List.getElem?_length] at hpath
      cases hpath
  | refused s rest why hdone hwhy =>
    constructor
    · intro h
      cases h
    · rintro ⟨-, hcompiled, -⟩
      obtain ⟨c, hc⟩ := hcompiled s (by rw [hdone]; simp)
      rw [hwhy] at hc
      cases hc

/-- All that a batch does if it succeeds. -/
theorem load_of_ok {n : Nat} (h : (r.load fs paths).2 = .ok n) :
    (r.load fs paths).1 = ⟨r.schemas ++ (r.registeredBy fs paths).map (fun s => (s.id, s)), r.tableOf fs paths,
      r.outcomes ++ (r.stagedBy fs paths).map entryOutcome⟩ := by
  obtain ⟨-, -, done, new, hext, hend⟩ := load_spec r fs paths
  have hschemas := hext.schemas
  have houtcomes := hext.outcomes
  have hnew := hext.new_eq
  rw [h] at hend
  generalize hleft : (r.load fs paths).1.references = left at hend
  cases hend with
  | loaded hdone _ =>
    subst hdone
    rw [hnew] at hschemas
    rw [registeredBy, ← hschemas, ← houtcomes, ← hleft]

/-- What is staged is registered. -/
theorem map_registeredBy {n : Nat} (h : (r.load fs paths).2 = .ok n) :
    ((r.registeredBy fs paths).map fun s => Staged.mk s.id s.path s.canonical) = stagedOf (r.stagedBy fs paths) := by
  obtain ⟨-, -, done, new, hext, hend⟩ := load_spec r fs paths
  rw [h] at hend
  generalize (r.load fs paths).1.references = left at hend
  cases hend with
  | loaded hdone _ =>
    subst hdone
    rw [registeredBy, ← hext.new_eq, hext.staged]

/-- Every file of a batch that succeeds is staged or refused. -/
theorem map_entryPath_stagedBy {n : Nat} (h : (r.load fs paths).2 = .ok n) :
    (r.stagedBy fs paths).map entryPath = paths := by
  obtain ⟨hpaths, -⟩ := load_spec r fs paths
  have hlength : (r.stagedBy fs paths).length = paths.length :=
    (length_stageAll_eq_iff r fs paths []).2 (load_eq_ok_iff.1 h).1
  rw [hpaths, hlength, List.take_length]

/-- What is staged can be looked up. -/
theorem get?_load_of_mem_staged {n : Nat} (h : (r.load fs paths).2 = .ok n) {s : Staged}
    (hs : s ∈ stagedOf (r.stagedBy fs paths)) :
    ∃ t : Registered, (r.load fs paths).1.get? t.id = some t ∧ Staged.mk t.id t.path t.canonical = s := by
  obtain ⟨-, hdistinct, -⟩ := load_spec r fs paths
  have hfree := hdistinct.free s hs
  rw [← map_registeredBy h] at hs
  obtain ⟨t, ht, rfl⟩ := List.mem_map.1 hs
  have hnew : OrderedMap.get? ((r.registeredBy fs paths).map fun s => (s.id, s)) t.id = some t := by
    refine OrderedMap.get?_of_mem ?_ (List.mem_map.2 ⟨t, ht, rfl⟩)
    rw [OrderedMap.keys, List.map_map]
    exact nodup_registeredBy r fs paths
  refine ⟨t, ?_, rfl⟩
  rw [load_of_ok h, get?, OrderedMap.get?_append, hnew]
  change (r.get? t.id).or (some t) = some t
  rw [hfree, Option.none_or]

/-- What a batch registers is compiled against its table. -/
theorem compile_of_mem_registeredBy {s : Registered} (h : s ∈ r.registeredBy fs paths) :
    Validator.compile (r.tableOf fs paths) s.canonical = .ok s.validator := by
  obtain ⟨t, -, ht⟩ := List.mem_filterMap.1 h
  rw [Staged.registered?] at ht
  cases hc : Validator.compile (r.tableOf fs paths) t.canonical with
  | error why => rw [hc] at ht; cases ht
  | ok validator =>
    rw [hc] at ht
    cases ht
    exact hc

/-! ### Batches of shorthand -/

open Shorthand (IsShorthand HasHole)

/-- Shorthand without nulls and numbers can always be loaded. -/
theorem load_of_shorthand
    (h : ∀ path ∈ paths, ∃ d, Document.load fs path = .ok d ∧ IsShorthand d.content ∧ ¬ HasHole d.content) :
    (r.load fs paths).2 = .ok (stagedOf (r.stagedBy fs paths)).length := by
  refine load_eq_ok_iff.2 ⟨fun path hpath => ?_, fun s hs => ?_, rfl⟩
  · obtain ⟨d, hd, -⟩ := h path hpath
    exact ⟨d, hd⟩
  · obtain ⟨d, hd, hpath, -, hcanonical⟩ := exists_of_mem_stageAll paths hs
    obtain ⟨e, he, hshorthand, hhole⟩ := h s.path hpath
    rw [hd] at he
    cases he
    rw [hcanonical]
    exact ⟨_, Shorthand.compile_inflate _ hshorthand hhole⟩

/-- Two schemas, one more with the identifier of the first, and a file without identifier. -/
def sampleFiles : FileSystem where
  root := .directory [("a.yml", .file "## id: a\nname: string\n".toUTF8),
    ("b.yml", .file "## id: b\nmode: [dev, prod]\n".toUTF8), ("again.yml", .file "## id: a\nname: boolean\n".toUTF8),
    ("note.yml", .file "name: string\n".toUTF8)]
  directory := []

theorem load_sampleFiles :
    Document.load sampleFiles "a.yml" = .ok ⟨"a.yml", .object [("name", .string "string")], [⟨"id", "a"⟩]⟩ ∧
      Document.load sampleFiles "b.yml" =
        .ok ⟨"b.yml", .object [("mode", .array [.string "dev", .string "prod"])], [⟨"id", "b"⟩]⟩ ∧
      Document.load sampleFiles "again.yml" =
        .ok ⟨"again.yml", .object [("name", .string "boolean")], [⟨"id", "a"⟩]⟩ ∧
      Document.load sampleFiles "note.yml" = .ok ⟨"note.yml", .object [("name", .string "string")], []⟩ := by
  decide +kernel

/-- A single member that is shorthand makes shorthand. -/
theorem shorthand_singleton (key : String) {t : Tree} (hkey : key ≠ "type") (ht : IsShorthand t)
    (hhole : ¬ HasHole t) : IsShorthand (.object [(key, t)]) ∧ ¬ HasHole (.object [(key, t)]) := by
  refine ⟨.object ?_ ?_ (by simpa using ht), fun h => ?_⟩
  · simp [Shorthand.isFullSchema, OrderedMap.get?, hkey]
  · simp [OrderedMap.keys]
  · cases h with
    | member hm h =>
      rw [List.mem_singleton] at hm
      subst hm
      exact hhole h

/-- What the sample files hold is shorthand. -/
theorem shorthand_sampleFiles : ∀ path ∈ ["a.yml", "b.yml", "again.yml", "note.yml"],
    ∃ d, Document.load sampleFiles path = .ok d ∧ IsShorthand d.content ∧ ¬ HasHole d.content := by
  obtain ⟨ha, hb, hagain, hnote⟩ := load_sampleFiles
  have hname := fun name => shorthand_singleton "name" (by decide) (.string name) (by rintro ⟨⟩)
  have hmode := fun literals => shorthand_singleton "mode" (by decide) (.array literals) (by rintro ⟨⟩)
  simp only [List.forall_mem_cons]
  exact ⟨⟨_, ha, hname _⟩, ⟨_, hb, hmode _⟩, ⟨_, hagain, hname _⟩, ⟨_, hnote, hname _⟩, by simp⟩

end Registry

end YamlSchema
