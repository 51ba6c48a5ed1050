import Mathlib.Data.List.Induction
import YamlSchema.Proofs.Registry.Mirror
import YamlSchema.Proofs.Schema.Gathering

/-!
# Schemas that went stale

A registered schema is `Current` if compiling it again gives what is stored, and everything that it leads to is
registered.  Registering one schema keeps all of them current, and so does a batch, unless it ends at a schema that is
refused: a schema of the batch that was registered before may lead to one that now is not there.  `Strands` says that
this happens, and it is the only way in which a schema ever goes stale (`isCurrent_along_iff`).
-/

namespace YamlSchema

open Schema (LeadsTo References Validator)

namespace Registry

/-! ### Current schemas -/

/-- Compiling a schema again succeeds and checks instances as the stored validator does; all that the schema led to
when it was compiled is registered, with the tree that it was compiled against. -/
structure Current (r : Registry) (s : Registered) : Prop where
  recompiles : ∃ c, Validator.compile r.references s.canonical = .ok c ∧ ∀ v, c.check v = s.validator.check v
  settled : ∃ table, Validator.compile table s.canonical = .ok s.validator ∧
    ∀ id, LeadsTo table s.canonical id → ∃ t, r.get? id = some t ∧ OrderedMap.get? table id = some t.canonical

/-- Every registered schema is current. -/
def IsCurrent (r : Registry) : Prop := ∀ id s, r.get? id = some s → Current r s

theorem IsCurrent.empty : IsCurrent Registry.empty := fun _ _ h => by cases h

theorem Mirrors.exists_of_get? {r : Registry} (h : Mirrors r) {id : String} {t : Tree}
    (ht : OrderedMap.get? r.references id = some t) : ∃ s, r.get? id = some s ∧ s.canonical = t := by
  rw [h.references, Option.map_eq_some_iff] at ht
  exact ht

theorem Mirrors.get?_references {r : Registry} (h : Mirrors r) {id : String} {s : Registered}
    (hs : r.get? id = some s) : OrderedMap.get? r.references id = some s.canonical := by
  rw [h.references, hs, Option.map_some]

/-- A schema that was compiled against the references as they are. -/
theorem Current.of_compile {r : Registry} (h : Mirrors r) {s : Registered}
    (hc : Validator.compile r.references s.canonical = .ok s.validator) : Current r s where
  recompiles := ⟨s.validator, hc, fun _ => rfl⟩
  settled := by
    refine ⟨r.references, hc, fun id hid => ?_⟩
    obtain ⟨t, ht⟩ := Option.isSome_iff_exists.1 (Validator.isSome_of_leadsTo hc hid)
    obtain ⟨other, hother, rfl⟩ := h.exists_of_get? ht
    exact ⟨other, hother, ht⟩

/-- A current schema stays so while schemas are only added. -/
theorem Current.mono {r after : Registry} {s : Registered} (h : Current r s) (hr : Mirrors r) (hafter : Mirrors after)
    (hadd : ∀ id t, r.get? id = some t → after.get? id = some t) : Current after s where
  recompiles := by
    obtain ⟨c, hc, hcheck⟩ := h.recompiles
    refine ⟨c, Validator.compile_mono hc fun id t ht => ?_, hcheck⟩
    obtain ⟨other, hother, rfl⟩ := hr.exists_of_get? ht
    exact hafter.get?_references (hadd id other hother)
  settled := by
    obtain ⟨table, hc, hids⟩ := h.settled
    refine ⟨table, hc, fun id hid => ?_⟩
    obtain ⟨t, ht, htable⟩ := hids id hid
    exact ⟨t, hadd id t ht, htable⟩

/-! ### One schema -/

theorem IsCurrent.registerDocument {r : Registry} (h : IsCurrent r) (hr : Mirrors r) (d : Document) :
    IsCurrent (r.registerDocument d).1 := by
  have hafter := hr.registerDocument d
  intro id t ht
  rcases get?_registerDocument_cases ht with hold | ⟨-, hc⟩
  · exact (h id t hold).mono hr hafter fun _ _ hu => get?_registerDocument hu d
  · exact .of_compile hafter hc

/-! ### Batches -/

/-- A call registers a schema that leads to another one, and leaves that one unregistered. -/
def Strands (r : Registry) : Call → Prop
  | .load fs paths => ∃ key s id, r.get? key = none ∧ (r.load fs paths).1.get? key = some s ∧
      LeadsTo (r.tableOf fs paths) s.canonical id ∧ (r.load fs paths).1.get? id = none
  | _ => False

variable {r : Registry} {fs : FileSystem} {paths : List String}

/-- In the table of a batch a schema that is registered stands with its own tree. -/
private theorem get?_tableOf (hr : Mirrors r) {id : String} {s : Registered}
    (hs : (r.load fs paths).1.get? id = some s) : OrderedMap.get? (r.tableOf fs paths) id = some s.canonical := by
  obtain ⟨-, hdistinct, done, new, hext, hend⟩ := load_spec r fs paths
  exact hext.get?_table hr hdistinct hend hs

theorem IsCurrent.load (h : IsCurrent r) (hr : Mirrors r) (hstrands : ¬ Strands r (.load fs paths)) :
    IsCurrent (r.load fs paths).1 := by
  have hafter := hr.load fs paths
  obtain ⟨-, hdistinct, done, new, hext, hend⟩ := load_spec r fs paths
  intro id s hs
  rcases hext.get?_eq_some hs with hold | ⟨hnew, rfl⟩
  · exact (h id s hold).mono hr hafter fun _ _ ht => hext.get?_of_get? ht
  · -- what the new schema leads to is registered, since the batch strands nothing
    have hfree : r.get? s.id = none := hext.free hend hdistinct hnew
    refine .of_compile hafter ?_
    rw [Validator.compile_congr, hext.compiled s hnew]
    intro i hi
    cases hget : (r.load fs paths).1.get? i with
    | none => exact absurd ⟨s.id, s, i, hfree, hs, hi, hget⟩ hstrands
    | some t => rw [hafter.get?_references hget, get?_tableOf hr hget]

/-- A stranded schema is refused when it is compiled again. -/
theorem not_isCurrent_of_strands (hr : Mirrors r) (h : Strands r (.load fs paths)) :
    ¬ IsCurrent (r.load fs paths).1 := by
  obtain ⟨key, s, id, -, hs, hleads, hmissing⟩ := h
  have hafter := hr.load fs paths
  intro hcurrent
  obtain ⟨c, hc, -⟩ := (hcurrent key s hs).recompiles
  refine Validator.compile_ne_ok_of_missing (fun i t ht => ?_) hleads ?_ c hc
  · obtain ⟨other, hother, rfl⟩ := hafter.exists_of_get? ht
    exact get?_tableOf hr hother
  · rw [hafter.references, hmissing, Option.map_none]

/-- A batch strands a schema only if it ends at one that is refused. -/
theorem Strands.refused (hr : Mirrors r) (h : Strands r (.load fs paths)) :
    ∃ id path why, (r.load fs paths).2 = .error (.notCompiled id path why) := by
  obtain ⟨key, s, id, hfree, hs, hleads, hmissing⟩ := h
  obtain ⟨-, -, done, new, hext, hend⟩ := load_spec r fs paths
  have hnew : s ∈ new := by
    rcases hext.get?_eq_some hs with hold | ⟨hnew, -⟩
    · rw [hfree] at hold; cases hold
    · exact hnew
  obtain ⟨t, ht⟩ := Option.isSome_iff_exists.1 (Validator.isSome_of_leadsTo (hext.compiled s hnew) hleads)
  have hid : id ∉ OrderedMap.keys (r.load fs paths).1.schemas := OrderedMap.get?_eq_none_iff.1 hmissing
  have hall : stagedOf done ≠ stagedOf (r.stagedBy fs paths) := by
    intro heq
    rw [hext.keys, heq, List.mem_append] at hid
    exact hid (exists_of_get?_batchReferences hr ht)
  generalize (r.load fs paths).1.references = left at hend
  generalize (r.load fs paths).2 = result at hend ⊢
  cases hend with
  | loaded hdone | unstaged _ hdone => exact absurd (congrArg stagedOf hdone) hall
  | refused t rest why hdone => exact ⟨t.id, t.path, why.message, rfl⟩

/-! ### Runs -/

theorem IsCurrent.step (h : IsCurrent r) (hr : Mirrors r) {call : Call} (hstrands : ¬ Strands r call) :
    IsCurrent (r.step call) := by
  cases call with
  | register fs path =>
    rw [Registry.step, register]
    split
    · exact h.registerDocument hr _
    · exact h
  | registerDocument d => exact h.registerDocument hr d
  | load fs paths => exact h.load hr hstrands

/-- All along a run every registered schema is current just if no call of it strands a schema. -/
theorem isCurrent_along_iff (calls : List Call) :
    (∀ done rest, calls = done ++ rest → IsCurrent (after done)) ↔
      ∀ done call rest, calls = done ++ call :: rest → ¬ Strands (after done) call := by
  constructor
  · -- only batches strand schemas, and behind one that does its own schema is refused
    intro h done call rest heq hstrands
    have hnext : IsCurrent ((after done).step call) := by
      rw [← after_append_singleton]
      exact h (done ++ [call]) rest (by rw [heq, List.append_assoc]; rfl)
    cases call with
    | register | registerDocument => exact hstrands
    | load fs paths => exact not_isCurrent_of_strands (mirrors_after done) hstrands hnext
  · -- by induction on the calls made so far, of which the last strands nothing
    intro h done
    induction done using List.reverseRecOn with
    | nil => exact fun _ _ => IsCurrent.empty
    | append_singleton done call ih =>
      intro rest heq
      have heq' : calls = done ++ call :: rest := by rw [heq, List.append_assoc]; rfl
      rw [after_append_singleton]
      exact (ih (call :: rest) heq').step (mirrors_after done) (h done call rest heq')

end Registry

end YamlSchema
