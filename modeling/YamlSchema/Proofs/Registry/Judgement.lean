import Mathlib.Data.List.Basic
import YamlSchema.Registry

/-!
# Judging a document

A document is judged by the schemas that it declares if all of them are registered (`judge_of_registered`): its passes
and its failures split the declared identifiers, each in their order, by whether the schema finds errors.  The first
identifier that is not registered ends the judgement, whatever came before it (`judge_of_unknown`).
-/

namespace YamlSchema

open Schema (ErrorReport)

namespace Registry

variable {r : Registry} {d : Document}

/-- The errors of an instance by a registered schema. -/
def errorsBy (r : Registry) (content : Tree) (id : String) : List ErrorReport :=
  match r.get? id with
  | some s => s.validator.check content
  | none => []

/-- What is added to a verdict by some registered schemas. -/
def judgement (r : Registry) (content : Tree) (verdict : Verdict) (ids : List String) : Verdict where
  isValid := verdict.isValid && ids.all fun id => (r.errorsBy content id).isEmpty
  passes := verdict.passes ++ (ids.filter fun id => (r.errorsBy content id).isEmpty).map Pass.mk
  failures := verdict.failures ++
    (ids.filter fun id => !(r.errorsBy content id).isEmpty).map fun id => ⟨id, r.errorsBy content id⟩

/-- One registered schema is judged by as the verdict says. -/
private theorem judge_cons {id : String} (hid : r.contains id = true) (verdict : Verdict) (rest : List String) :
    r.judge d verdict (id :: rest) = r.judge d (r.judgement d.content verdict [id]) rest := by
  obtain ⟨s, hs⟩ := Option.isSome_iff_exists.1 hid
  have herrors : r.errorsBy d.content id = s.validator.check d.content := by rw [errorsBy, hs]
  rw [judge, hs]
  dsimp only
  cases hcheck : s.validator.check d.content with
  | nil => simp [judgement, herrors, hcheck]
  | cons e more => simp [judgement, herrors, hcheck]

/-- Verdicts grow along the declared schemas. -/
private theorem judgement_append (content : Tree) (verdict : Verdict) (ids rest : List String) :
    r.judgement content verdict (ids ++ rest) = r.judgement content (r.judgement content verdict ids) rest := by
  simp [judgement, Bool.and_assoc]

theorem judge_of_registered {ids : List String} : ∀ {verdict : Verdict}, (∀ id ∈ ids, r.contains id = true) →
    r.judge d verdict ids = .ok (r.judgement d.content verdict ids) := by
  induction ids with
  | nil => intro verdict _; simp [judge, judgement]
  | cons id rest ih =>
    intro verdict h
    rw [judge_cons (h id (by simp)), ih fun i hi => h i (by simp [hi]), ← judgement_append]
    rfl

/-- A verdict depends on the errors that the declared schemas find, and on nothing else. -/
theorem judgement_congr {other : Registry} {content : Tree} {verdict : Verdict} {ids : List String}
    (h : ∀ id ∈ ids, other.errorsBy content id = r.errorsBy content id) :
    other.judgement content verdict ids = r.judgement content verdict ids := by
  have hall : (ids.all fun id => (other.errorsBy content id).isEmpty) =
      ids.all fun id => (r.errorsBy content id).isEmpty := by
    rw [Bool.eq_iff_iff, List.all_eq_true, List.all_eq_true]
    exact forall₂_congr fun id hid => by rw [h id hid]
  have hpasses : (ids.filter fun id => (other.errorsBy content id).isEmpty) =
      ids.filter fun id => (r.errorsBy content id).isEmpty :=
    List.filter_congr fun id hid => by rw [h id hid]
  have hfailures : ((ids.filter fun id => !(other.errorsBy content id).isEmpty).map fun id =>
        (⟨id, other.errorsBy content id⟩ : Breach)) =
      (ids.filter fun id => !(r.errorsBy content id).isEmpty).map fun id => ⟨id, r.errorsBy content id⟩ := by
    rw [List.filter_congr fun id hid => by rw [h id hid]]
    exact List.map_congr_left fun id hid => by rw [h id (List.mem_of_mem_filter hid)]
  rw [judgement, judgement, hall, hpasses, hfailures]

/-- Nothing behind the first unknown schema is looked at. -/
theorem judge_of_unknown {ids rest : List String} {id : String} (hid : r.get? id = none) : ∀ {verdict : Verdict},
    (∀ i ∈ ids, r.contains i = true) → r.judge d verdict (ids ++ id :: rest) = .error (.unknownSchema d.path id) := by
  induction ids with
  | nil => intro verdict _; rw [List.nil_append, judge, hid]
  | cons i more ih =>
    intro verdict h
    rw [List.cons_append, judge_cons (h i (by simp)), ih fun j hj => h j (by simp [hj])]

/-- A list of identifiers is registered as a whole, or there is a first one that is not. -/
theorem forall_contains_or_exists (r : Registry) (ids : List String) : (∀ id ∈ ids, r.contains id = true) ∨
    ∃ before id rest, ids = before ++ id :: rest ∧ (∀ i ∈ before, r.contains i = true) ∧ r.get? id = none := by
  induction ids with
  | nil => exact .inl (by simp)
  | cons id rest ih =>
    cases hid : r.get? id with
    | none => exact .inr ⟨[], id, rest, rfl, by simp, hid⟩
    | some s =>
      have hcontains : r.contains id = true := by rw [contains, hid]; rfl
      refine ih.imp (fun h => ?_) ?_
      · exact List.forall_mem_cons.2 ⟨hcontains, h⟩
      · rintro ⟨before, other, behind, rfl, h, hother⟩
        exact ⟨id :: before, other, behind, rfl, List.forall_mem_cons.2 ⟨hcontains, h⟩, hother⟩

/-! ### Documents -/

/-- What validating a document comes to: it declares no schema, or one that is not registered, or it gets the verdict of
all its schemas. -/
inductive Judged (r : Registry) (d : Document) : Except Failure Verdict → Prop
  | undeclared (h : d.values Directive.schemaKey = []) : Judged r d (.error (.noSchemaDeclared d.path))
  | unknown (before : List String) (id : String) (rest : List String)
      (h : d.values Directive.schemaKey = before ++ id :: rest) (hbefore : ∀ i ∈ before, r.contains i = true)
      (hid : r.get? id = none) : Judged r d (.error (.unknownSchema d.path id))
  | judged (hne : d.values Directive.schemaKey ≠ []) (h : ∀ id ∈ d.values Directive.schemaKey, r.contains id = true) :
      Judged r d (.ok (r.judgement d.content ⟨true, [], []⟩ (d.values Directive.schemaKey)))

theorem judged_validateDocument (r : Registry) (d : Document) : Judged r d (r.validateDocument d) := by
  unfold validateDocument
  split
  · rename_i h
    exact .undeclared h
  · rename_i hne
    rcases r.forall_contains_or_exists (d.values Directive.schemaKey) with h | ⟨before, id, rest, hids, h, hid⟩
    · rw [judge_of_registered h]
      exact .judged hne h
    · rw [hids, judge_of_unknown hid h]
      exact .unknown before id rest hids h hid

/-- The failures are those declared schemas that find errors, with their errors. -/
theorem mem_failures_judgement {content : Tree} {ids : List String} {b : Breach} :
    b ∈ (r.judgement content ⟨true, [], []⟩ ids).failures ↔
      b.schemaId ∈ ids ∧ b.errors = r.errorsBy content b.schemaId ∧ b.errors ≠ [] := by
  simp only [judgement, List.nil_append, List.mem_map, List.mem_filter, Bool.not_eq_true', List.isEmpty_eq_false_iff]
  constructor
  · rintro ⟨id, ⟨hid, herrors⟩, rfl⟩
    exact ⟨hid, rfl, herrors⟩
  · rintro ⟨hid, herrors, hne⟩
    exact ⟨b.schemaId, ⟨hid, herrors ▸ hne⟩, by rw [← herrors]⟩

/-- Passes and failures together are as many as the declared schemas. -/
theorem length_judgement (r : Registry) (content : Tree) (ids : List String) :
    (r.judgement content ⟨true, [], []⟩ ids).passes.length + (r.judgement content ⟨true, [], []⟩ ids).failures.length =
      ids.length := by
  have h := List.length_eq_length_filter_add (l := ids) fun id => (r.errorsBy content id).isEmpty
  simpa [judgement] using h.symm

end Registry

end YamlSchema
