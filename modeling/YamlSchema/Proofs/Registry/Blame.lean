import Mathlib.Data.List.TakeWhile
import YamlSchema.Proofs.Registry.Composition
import YamlSchema.Proofs.Registry.Stated

/-!
# Whom a batch blames

A batch stages its files up to the first one that is no document, and compiles what it has staged against that much
(`tableOf_eq_partTable`).  A schema it refuses is refused by the whole batch too, unless the schema `LeadsBehind` that
file, to an identifier that only later files state.  So the file that is no document is blamed, where the whole batch
would compile all schemas before it, just if none of these leads behind it (`load_blames`).
-/

namespace YamlSchema

open Schema (LeadsTo References Refusal Validator)

/-- The files of a batch before the first one that is no document. -/
def documentsOf (fs : FileSystem) (paths : List String) : List String :=
  paths.takeWhile fun path => (Document.load fs path).toOption.isSome

section Documents

variable {fs : FileSystem} {paths : List String}

theorem exists_load_of_mem_documentsOf {path : String} (h : path ∈ documentsOf fs paths) :
    ∃ d, Document.load fs path = .ok d := by
  have hdocument := List.mem_takeWhile_imp h
  cases hd : Document.load fs path with
  | ok d => exact ⟨d, rfl⟩
  | error e =>
    rw [hd] at hdocument
    cases hdocument

/-- Either all files are documents, or there is a first one that is none. -/
theorem documentsOf_eq_or (fs : FileSystem) (paths : List String) :
    documentsOf fs paths = paths ∨
      ∃ path rest e, paths = documentsOf fs paths ++ path :: rest ∧ Document.load fs path = .error e := by
  have hsplit := List.takeWhile_append_dropWhile (p := fun path => (Document.load fs path).toOption.isSome)
    (l := paths)
  cases hrest : paths.dropWhile fun path => (Document.load fs path).toOption.isSome with
  | nil =>
    rw [hrest, List.append_nil] at hsplit
    exact .inl hsplit
  | cons path rest =>
    rw [hrest] at hsplit
    have hhead := List.head?_dropWhile_not (fun path => (Document.load fs path).toOption.isSome) paths
    rw [hrest] at hhead
    dsimp only [List.head?_cons] at hhead
    cases hd : Document.load fs path with
    | ok d =>
      rw [hd] at hhead
      cases hhead
    | error e => exact .inr ⟨path, rest, e, hsplit.symm, hd⟩

/-- A file that cannot be read is not told to be a schema that is refused. -/
theorem Document.ne_notCompiled_of_load {path : String} {e : Failure} (h : Document.load fs path = .error e)
    (id at_ message : String) : e ≠ .notCompiled id at_ message := by
  rintro rfl
  unfold Document.load at h
  split at h
  · cases h
  · unfold Document.parse at h
    split at h <;> cases h

end Documents

namespace Registry

variable {r : Registry} {fs : FileSystem} {paths : List String}

/-- What may be referred to where a batch is compiled: registered schemas, and those that files before the first one
that is no document state. -/
def partTable (r : Registry) (fs : FileSystem) (paths : List String) : References :=
  statedBy fs r.references (documentsOf fs paths)

/-- The same with all schemas that files of the batch state. -/
def wholeTable (r : Registry) (fs : FileSystem) (paths : List String) : References := statedBy fs r.references paths

/-! ### Staging up to a file that is no document -/

/-- Nothing is staged from the first file on that is no document. -/
theorem stageAll_of_unread {rest : List String} {path : String} {e : Failure}
    (heq : paths = documentsOf fs paths ++ path :: rest) (he : Document.load fs path = .error e) :
    r.stageAll fs [] paths = (r.stagedBy fs (documentsOf fs paths), some e) := by
  have hread : ∀ p ∈ documentsOf fs paths, ∃ d, Document.load fs p = .ok d :=
    fun _ hp => exists_load_of_mem_documentsOf hp
  have happend : r.stageAll fs [] (documentsOf fs paths ++ path :: rest) =
      (r.stagedBy fs (documentsOf fs paths) ++
          (r.stageAll fs (stagedOf (r.stagedBy fs (documentsOf fs paths))) (path :: rest)).1,
        (r.stageAll fs (stagedOf (r.stagedBy fs (documentsOf fs paths))) (path :: rest)).2) :=
    stageAll_append (path :: rest) hread
  rw [← heq] at happend
  rw [happend, stageAll_cons_of_error he, List.append_nil]

theorem stagedBy_documentsOf (r : Registry) (fs : FileSystem) (paths : List String) :
    r.stagedBy fs (documentsOf fs paths) = r.stagedBy fs paths := by
  rcases documentsOf_eq_or fs paths with hall | ⟨path, rest, e, heq, he⟩
  · rw [hall]
  · rw [stagedBy.eq_def r fs paths, stageAll_of_unread heq he]

/-- A batch is compiled against what its files state before the first one that is no document. -/
theorem tableOf_eq_partTable (hr : Mirrors r) (fs : FileSystem) (paths : List String) :
    r.tableOf fs paths = r.partTable fs paths := by
  rw [tableOf, ← stagedBy_documentsOf, partTable]
  exact tableOf_eq hr fun path hpath => exists_load_of_mem_documentsOf hpath

/-- A file that is no document ends a batch if all that is staged before it is compiled. -/
theorem load_of_unread {rest : List String} {path : String} {e : Failure}
    (heq : paths = documentsOf fs paths ++ path :: rest) (he : Document.load fs path = .error e)
    (hcompiled : ∀ s ∈ stagedOf (r.stagedBy fs paths), ∃ c, Validator.compile (r.tableOf fs paths) s.canonical = .ok c) :
    (r.load fs paths).2 = .error e := by
  obtain ⟨-, hdistinct, -⟩ := load_spec r fs paths
  have hstage := stageAll_of_unread (r := r) heq he
  rw [stagedBy_documentsOf] at hstage
  rw [load, hstage]
  dsimp only
  rw [foldl_announce]
  rw [tableOf] at hcompiled
  generalize r.batchReferences (stagedOf (r.stagedBy fs paths)) = table at hcompiled ⊢
  obtain ⟨done, new, -, -, hstop⟩ := commitAll_spec (r.stagedBy fs paths) { r with references := table }
    hdistinct.nodup hdistinct.free
  generalize commitAll { r with references := table } (r.stagedBy fs paths) = committed at hstop ⊢
  obtain ⟨⟨schemas, left, outcomes⟩, loaded, uncompiled⟩ := committed
  dsimp only at hstop ⊢
  cases hstop with
  | finished => rfl
  | refused s _ why hdone hwhy =>
    obtain ⟨c, hc⟩ := hcompiled s (by rw [hdone]; simp)
    rw [hwhy] at hc
    cases hc

/-! ### What the whole batch would have -/

/-- The whole batch has every schema that is there when it is compiled. -/
theorem get?_wholeTable_of_partTable {id : String} {t : Tree}
    (h : OrderedMap.get? (r.partTable fs paths) id = some t) : OrderedMap.get? (r.wholeTable fs paths) id = some t := by
  rcases documentsOf_eq_or fs paths with hall | ⟨path, rest, -, heq, -⟩
  · rwa [partTable, hall] at h
  · have hwhole : r.wholeTable fs paths = statedBy fs (r.partTable fs paths) (path :: rest) := by
      rw [wholeTable, heq, statedBy, List.foldl_append, ← heq]
      rfl
    rw [hwhole, get?_statedBy, h, Option.some_or]

/-- A schema leads to an identifier that only files behind the first one that is no document state. -/
def LeadsBehind (r : Registry) (fs : FileSystem) (paths : List String) (t : Tree) : Prop :=
  ∃ id, LeadsTo (r.wholeTable fs paths) t id ∧ OrderedMap.contains (r.wholeTable fs paths) id = true ∧
    OrderedMap.get? (r.partTable fs paths) id = none

/-- Where all files are documents there is nothing behind them. -/
theorem not_leadsBehind_of_forall (hread : ∀ path ∈ paths, ∃ d, Document.load fs path = .ok d) (t : Tree) :
    ¬ LeadsBehind r fs paths t := by
  rintro ⟨id, -, hwhole, hpart⟩
  have hall : documentsOf fs paths = paths := by
    refine List.takeWhile_eq_self_iff.2 fun path hpath => ?_
    obtain ⟨d, hd⟩ := hread path hpath
    rw [hd]
    rfl
  rw [wholeTable, OrderedMap.contains, ← hall] at hwhole
  rw [partTable] at hpart
  rw [hpart] at hwhole
  cases hwhole

/-- The whole batch makes no difference to a schema that does not lead behind it. -/
theorem compile_wholeTable {t : Tree} (h : ¬ LeadsBehind r fs paths t) :
    Validator.compile (r.wholeTable fs paths) t = Validator.compile (r.partTable fs paths) t := by
  refine (Validator.compile_congr fun id hid => ?_).symm
  cases hpart : OrderedMap.get? (r.partTable fs paths) id with
  | some u => rw [get?_wholeTable_of_partTable hpart]
  | none =>
    cases hwhole : OrderedMap.get? (r.wholeTable fs paths) id with
    | none => rfl
    | some u => exact absurd ⟨id, hid, Option.isSome_of_eq_some hwhole, hpart⟩ h

/-- A schema that the whole batch compiles is compiled just if it does not lead behind. -/
theorem exists_compile_partTable_iff {t : Tree} (h : ∃ c, Validator.compile (r.wholeTable fs paths) t = .ok c) :
    (∃ c, Validator.compile (r.partTable fs paths) t = .ok c) ↔ ¬ LeadsBehind r fs paths t := by
  constructor
  · rintro ⟨c, hc⟩ ⟨id, hleads, -, hmissing⟩
    exact Validator.compile_ne_ok_of_missing (fun _ _ => get?_wholeTable_of_partTable) hleads hmissing c hc
  · intro hbehind
    rw [← compile_wholeTable hbehind]
    exact h

/-! ### Blame -/

/-- A schema is new to a batch: one of the files before the first one that is no document states it, and its identifier
is free. -/
def IsNew (r : Registry) (fs : FileSystem) (paths : List String) (id : String) (t : Tree) : Prop :=
  r.get? id = none ∧ OrderedMap.get? (r.partTable fs paths) id = some t

/-- A file states a new schema that is refused where the batch is compiled. -/
structure IsRefused (r : Registry) (fs : FileSystem) (paths : List String) (id path : String) (t : Tree)
    (why : Refusal) : Prop where
  isDocument : path ∈ documentsOf fs paths
  states : stated? fs path id = some t
  isNew : IsNew r fs paths id t
  refused : Validator.compile (r.partTable fs paths) t = .error why

/-- What is staged is what is new. -/
private theorem forall_staged_iff (hr : Mirrors r) {P : Tree → Prop} :
    (∀ s ∈ stagedOf (r.stagedBy fs paths), P s.canonical) ↔ ∀ id t, IsNew r fs paths id t → P t := by
  constructor
  · rintro h id t ⟨hfree, ht⟩
    rw [← tableOf_eq_partTable hr] at ht
    obtain ⟨s, hs, -, rfl⟩ := (exists_mem_stagedBy_iff hr).2 ⟨hfree, ht⟩
    exact h s hs
  · intro h s hs
    obtain ⟨hfree, ht⟩ := (exists_mem_stagedBy_iff hr).1 ⟨s, hs, rfl, rfl⟩
    rw [tableOf_eq_partTable hr] at ht
    exact h s.id s.canonical ⟨hfree, ht⟩

/-- The schema that a batch blames is new, stated by the file that is blamed for it, and refused. -/
theorem exists_isRefused_of_load (hr : Mirrors r) {id path message : String}
    (h : (r.load fs paths).2 = .error (.notCompiled id path message)) :
    ∃ t why, IsRefused r fs paths id path t why ∧ message = why.message := by
  cases hanswer : (r.load fs paths).2 with
  | ok n =>
    rw [hanswer] at h
    cases h
  | error e =>
    obtain ⟨-, -, done, new, hext, hend⟩ := load_spec r fs paths
    rw [hanswer] at h hend
    cases h
    generalize (r.load fs paths).1.references = left at hend
    cases hend with
    | unstaged _ hdone hpath =>
      -- then all that is staged is compiled, and it is the file that cannot be read which ends the batch
      have hcompiled : ∀ s ∈ stagedOf (r.stagedBy fs paths),
          ∃ c, Validator.compile (r.tableOf fs paths) s.canonical = .ok c := by
        rw [← hdone]
        exact hext.exists_compile
      rcases documentsOf_eq_or fs paths with hall | ⟨unread, rest, e, heq, he⟩
      · have hload := load_eq_ok_iff.2 ⟨fun p hp => exists_load_of_mem_documentsOf (hall ▸ hp), hcompiled, rfl⟩
        rw [hanswer] at hload
        cases hload
      · have hload := load_of_unread heq he hcompiled
        rw [hanswer] at hload
        cases hload
        exact absurd rfl (Document.ne_notCompiled_of_load he _ _ _)
    | refused s rest why hdone hwhy =>
      have hs : s ∈ stagedOf (r.stagedBy fs paths) := by rw [hdone]; simp
      have hnew := (exists_mem_stagedBy_iff hr).1 ⟨s, hs, rfl, rfl⟩
      rw [tableOf_eq_partTable hr] at hnew hwhy
      have hs' := hs
      rw [← stagedBy_documentsOf] at hs'
      obtain ⟨d, hd, hpath, hid, hcanonical⟩ := exists_of_mem_stageAll _ hs'
      exact ⟨s.canonical, why, ⟨hpath, by simp [stated?, hd, hid, hcanonical], hnew, hwhy⟩, rfl⟩

/-- The file that is no document is blamed just if all new schemas before it are compiled. -/
theorem load_eq_error_iff_of_unread (hr : Mirrors r) {rest : List String} {path : String} {e : Failure}
    (heq : paths = documentsOf fs paths ++ path :: rest) (he : Document.load fs path = .error e) :
    (r.load fs paths).2 = .error e ↔
      ∀ id t, IsNew r fs paths id t → ∃ c, Validator.compile (r.partTable fs paths) t = .ok c := by
  rw [← forall_staged_iff hr, ← tableOf_eq_partTable hr]
  refine ⟨fun h => ?_, load_of_unread heq he⟩
  obtain ⟨-, -, done, new, hext, hend⟩ := load_spec r fs paths
  rw [h] at hend
  generalize (r.load fs paths).1.references = left at hend
  cases hend with
  | unstaged _ hdone =>
    rw [← hdone]
    exact hext.exists_compile
  | refused => exact absurd rfl (Document.ne_notCompiled_of_load he _ _ _)

/-- In every registry that is reached: a schema that a batch blames is refused by the whole batch too, for the same
reason, unless it leads behind the first file that is no document.  Where the whole batch compiles all new schemas before
that file, the batch blames the file just if none of them leads behind it.  And where all files are documents, none
does. -/
theorem load_blames (calls : List Call) (fs : FileSystem) (paths : List String) :
    (∀ id path message, ((after calls).load fs paths).2 = .error (.notCompiled id path message) →
      ∃ t why, IsRefused (after calls) fs paths id path t why ∧ message = why.message ∧
        (¬ LeadsBehind (after calls) fs paths t →
          Validator.compile ((after calls).wholeTable fs paths) t = .error why)) ∧
    (∀ path rest e, paths = documentsOf fs paths ++ path :: rest → Document.load fs path = .error e →
      (∀ id t, IsNew (after calls) fs paths id t →
        ∃ c, Validator.compile ((after calls).wholeTable fs paths) t = .ok c) →
      (((after calls).load fs paths).2 = .error e ↔
        ∀ id t, IsNew (after calls) fs paths id t → ¬ LeadsBehind (after calls) fs paths t)) ∧
    ((∀ path ∈ paths, ∃ d, Document.load fs path = .ok d) → ∀ t, ¬ LeadsBehind (after calls) fs paths t) := by
  have hr := mirrors_after calls
  refine ⟨fun id path message h => ?_, fun path rest e heq he hwhole => ?_, not_leadsBehind_of_forall⟩
  · obtain ⟨t, why, hrefused, hmessage⟩ := exists_isRefused_of_load hr h
    refine ⟨t, why, hrefused, hmessage, fun hbehind => ?_⟩
    rw [compile_wholeTable hbehind]
    exact hrefused.refused
  · rw [load_eq_error_iff_of_unread hr heq he]
    exact forall₃_congr fun id t hnew => exists_compile_partTable_iff (hwhole id t hnew)

end Registry

end YamlSchema
