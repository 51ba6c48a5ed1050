import YamlSchema.Proofs.Registry.Mirror

/-!
# Registering a schema is all or nothing

A schema is announced before it is compiled, so that it may refer to itself, and it is taken back if it is refused.
Where the references mirror the schemas nothing stood under its identifier before, so taking it back restores the
registry (`commit_announce_of_error`).  Hence every registration `Registers` one new schema or changes nothing at all,
and a run of calls goes on behind a failed registration as if that had never been tried (`registers_or_unchanged`).
-/

namespace YamlSchema

open Schema (Validator)

namespace OrderedMap

/-- Taking back a key that was new restores the map. -/
theorem erase_insert_of_get?_eq_none {α : Type} {m : OrderedMap α} {key : String} (value : α)
    (h : get? m key = none) : erase (insert m key value) key = m := by
  have hold : ∀ entry ∈ m, decide (entry.1 ≠ key) = true := by
    intro entry hentry
    refine decide_eq_true fun heq => get?_eq_none_iff.1 h ?_
    exact List.mem_map.2 ⟨entry, hentry, heq⟩
  rw [insert_of_get?_eq_none value h, erase, List.filter_append, List.filter_eq_self.2 hold]
  simp

end OrderedMap

namespace Registry

variable {r : Registry}

/-- The registry with one more schema, which may be referred to. -/
def add (r : Registry) (s : Registered) : Registry :=
  ⟨r.schemas ++ [(s.id, s)], r.references ++ [(s.id, s.canonical)], r.outcomes⟩

/-- What registering a document does to a registry and answers: it fails, and the registry is as it was, or the schema
of the document, whose identifier was free, is compiled and all that is new. -/
inductive Registers (r : Registry) (d : Document) : Registry → Except Failure String → Prop
  | failed (e : Failure) : Registers r d r (.error e)
  | registered (s : Registered) (hid : d.values Directive.idKey = [s.id]) (hpath : s.path = d.path)
      (hcanonical : s.canonical = inflate d.content) (hfree : r.get? s.id = none)
      (hcompiled : Validator.compile (r.add s).references s.canonical = .ok s.validator) :
      Registers r d (r.add s) (.ok s.id)

/-! ### One schema -/

/-- A free identifier has no reference either. -/
private theorem Mirrors.get?_references_of_free (h : Mirrors r) {id : String} (hfree : r.get? id = none) :
    OrderedMap.get? r.references id = none := by
  rw [h.references, hfree, Option.map_none]

/-- A schema that is announced under a free identifier and then refused leaves nothing behind. -/
theorem commit_announce_of_error (h : Mirrors r) {s : Staged} (hfree : r.get? s.id = none) {e : Failure}
    (herror : ((r.announce s).commit s).2 = .error e) : ((r.announce s).commit s).1 = r := by
  unfold commit at herror ⊢
  split at herror
  · cases herror
  · dsimp only [announce]
    rw [OrderedMap.erase_insert_of_get?_eq_none _ (h.get?_references_of_free hfree)]

/-- A schema that is announced under a free identifier and then compiled is all that is new. -/
theorem commit_announce_of_ok (h : Mirrors r) {s : Staged} (hfree : r.get? s.id = none) {id : String}
    (hok : ((r.announce s).commit s).2 = .ok id) : id = s.id ∧ ∃ validator,
      Validator.compile (r.references ++ [(s.id, s.canonical)]) s.canonical = .ok validator ∧
      ((r.announce s).commit s).1 = r.add ⟨s.id, s.path, s.canonical, validator⟩ := by
  have hreferences : (r.announce s).references = r.references ++ [(s.id, s.canonical)] :=
    OrderedMap.insert_of_get?_eq_none _ (h.get?_references_of_free hfree)
  unfold commit at hok ⊢
  rw [hreferences] at hok ⊢
  split at hok
  · rename_i validator hc
    cases hok
    refine ⟨rfl, validator, hc, ?_⟩
    have hschemas := OrderedMap.insert_of_get?_eq_none (⟨s.id, s.path, s.canonical, validator⟩ : Registered) hfree
    dsimp only [announce, add]
    rw [hschemas]
  · cases hok

theorem registers_registerDocument (h : Mirrors r) (d : Document) :
    Registers r d (r.registerDocument d).1 (r.registerDocument d).2 := by
  unfold registerDocument
  split
  · rename_i s hs
    obtain ⟨hid, hpath, hcanonical, hfree, -⟩ := stage_ok hs
    cases hresult : ((r.announce s).commit s).2 with
    | error e =>
      rw [commit_announce_of_error h hfree hresult]
      exact .failed e
    | ok id =>
      obtain ⟨rfl, validator, hc, hafter⟩ := commit_announce_of_ok h hfree hresult
      rw [hafter]
      exact .registered ⟨s.id, s.path, s.canonical, validator⟩ hid hpath hcanonical hfree hc
  · exact .failed _

/-- A file that is no document is not registered either, and nothing has changed. -/
theorem registers_register (h : Mirrors r) (fs : FileSystem) (path : String) :
    (∃ e, Document.load fs path = .error e ∧ r.register fs path = (r, .error e)) ∨
      ∃ d, Document.load fs path = .ok d ∧ Registers r d (r.register fs path).1 (r.register fs path).2 := by
  unfold register
  cases hd : Document.load fs path with
  | error e => exact .inl ⟨e, rfl, rfl⟩
  | ok d => exact .inr ⟨d, rfl, registers_registerDocument h d⟩

/-! ### Runs -/

/-- A call is a registration that fails, for whatever reason. -/
def FailsToRegister (r : Registry) : Call → Prop
  | .register fs path => ∃ e, (r.register fs path).2 = .error e
  | .registerDocument d => ∃ e, (r.registerDocument d).2 = .error e
  | .load .. => False

theorem Registers.eq_of_error {d : Document} {later : Registry} {result : Except Failure String}
    (h : Registers r d later result) {e : Failure} (herror : result = .error e) : later = r := by
  cases h with
  | failed => rfl
  | registered => cases herror

theorem step_of_failsToRegister (h : Mirrors r) {call : Call} (hfails : FailsToRegister r call) :
    r.step call = r := by
  cases call with
  | register fs path =>
    obtain ⟨e, he⟩ := hfails
    rw [step]
    rcases registers_register h fs path with ⟨why, -, hregister⟩ | ⟨d, -, hregisters⟩
    · rw [hregister]
    · exact hregisters.eq_of_error he
  | registerDocument d =>
    obtain ⟨e, he⟩ := hfails
    exact (registers_registerDocument h d).eq_of_error he
  | load => exact hfails.elim

/-- In every registry that is reached a registration adds the schema of its document and the reference to it, or fails
and changes nothing; and whatever calls are made behind one that failed, they lead where they lead without it. -/
theorem registers_or_unchanged (calls : List Call) :
    (∀ d, Registers (after calls) d ((after calls).registerDocument d).1 ((after calls).registerDocument d).2) ∧
    (∀ fs path, (∃ e, Document.load fs path = .error e ∧
        (after calls).register fs path = (after calls, .error e)) ∨
      ∃ d, Document.load fs path = .ok d ∧
        Registers (after calls) d ((after calls).register fs path).1 ((after calls).register fs path).2) ∧
    ∀ call, FailsToRegister (after calls) call →
      (after calls).step call = after calls ∧ ∀ more, after (calls ++ call :: more) = after (calls ++ more) := by
  have hmirrors := mirrors_after calls
  refine ⟨registers_registerDocument hmirrors, registers_register hmirrors, fun call hfails => ?_⟩
  have hstep := step_of_failsToRegister hmirrors hfails
  refine ⟨hstep, fun more => ?_⟩
  rw [after, after, List.foldl_append, List.foldl_append, List.foldl_cons]
  exact congrArg (more.foldl step) hstep

end Registry

end YamlSchema
