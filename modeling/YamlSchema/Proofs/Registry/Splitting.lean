import YamlSchema.Proofs.Registry.Judgement

/-!
# What validating a document answers

The declared identifiers of a document split into passes and failures (`Splits`), in their order and with all repeats,
if all of them are registered (`splits_iff`).  Then, and only then, the document gets a verdict; otherwise it declares
nothing, or its first unknown identifier is named (`validateDocument_answers`).
-/

namespace YamlSchema

namespace Registry

variable {r : Registry} {content : Tree} {ids : List String} {passes : List Pass} {failures : List Breach}

/-- Identifiers, in their order: one whose schema finds no error is a pass, and one whose schema finds errors is a
failure with all of them. -/
inductive Splits (r : Registry) (content : Tree) : List String → List Pass → List Breach → Prop
  | nil : Splits r content [] [] []
  | pass {id : String} {s : Registered} {ids : List String} {passes : List Pass} {failures : List Breach}
      (hs : r.get? id = some s) (hcheck : s.validator.check content = []) (h : Splits r content ids passes failures) :
      Splits r content (id :: ids) (⟨id⟩ :: passes) failures
  | fail {id : String} {s : Registered} {ids : List String} {passes : List Pass} {failures : List Breach}
      (hs : r.get? id = some s) (hcheck : s.validator.check content ≠ []) (h : Splits r content ids passes failures) :
      Splits r content (id :: ids) passes (⟨id, s.validator.check content⟩ :: failures)

/-- There is one way to split identifiers, if all of them are registered. -/
theorem splits_iff : Splits r content ids passes failures ↔ (∀ id ∈ ids, r.contains id = true) ∧
    passes = (r.judgement content ⟨true, [], []⟩ ids).passes ∧
    failures = (r.judgement content ⟨true, [], []⟩ ids).failures := by
  simp only [judgement, List.nil_append]
  constructor
  · intro h
    induction h with
    | nil => simp
    | @pass id s rest _ _ hs hcheck _ ih | @fail id s rest _ _ hs hcheck _ ih =>
      obtain ⟨hids, rfl, rfl⟩ := ih
      have hcontains : r.contains id = true := Option.isSome_of_eq_some hs
      have herrors : r.errorsBy content id = s.validator.check content := by rw [errorsBy, hs]
      refine ⟨List.forall_mem_cons.2 ⟨hcontains, hids⟩, ?_⟩
      simp [herrors, hcheck]
  · rintro ⟨h, rfl, rfl⟩
    induction ids with
    | nil => exact .nil
    | cons id rest ih =>
      obtain ⟨hid, hrest⟩ := List.forall_mem_cons.1 h
      obtain ⟨s, hs⟩ := Option.isSome_iff_exists.1 hid
      have herrors : r.errorsBy content id = s.validator.check content := by rw [errorsBy, hs]
      by_cases hcheck : s.validator.check content = []
      · simpa [herrors, hcheck] using Splits.pass hs hcheck (ih hrest)
      · simpa [herrors, hcheck] using Splits.fail hs hcheck (ih hrest)

/-! ### What a split tells -/

/-- An identifier is among the failures if its schema finds errors, and among the passes if it finds none. -/
theorem Splits.mem_iff (h : Splits r content ids passes failures) {id : String} (hid : id ∈ ids) {s : Registered}
    (hs : r.get? id = some s) : (id ∈ failures.map Breach.schemaId ↔ s.validator.check content ≠ []) ∧
      (id ∈ passes.map Pass.schemaId ↔ s.validator.check content = []) := by
  have herrors : r.errorsBy content id = s.validator.check content := by rw [errorsBy, hs]
  obtain ⟨-, rfl, rfl⟩ := splits_iff.1 h
  constructor
  · rw [List.mem_map]
    constructor
    · rintro ⟨b, hb, rfl⟩
      obtain ⟨-, hall, hne⟩ := mem_failures_judgement.1 hb
      rwa [← herrors, ← hall]
    · intro hne
      exact ⟨⟨id, r.errorsBy content id⟩, mem_failures_judgement.2 ⟨hid, rfl, herrors ▸ hne⟩, rfl⟩
  · simp [judgement, hid, herrors]

/-- A failure has the errors that the schema of its identifier finds, and these are some. -/
theorem Splits.errors (h : Splits r content ids passes failures) {b : Breach} (hb : b ∈ failures) :
    b.errors ≠ [] ∧ ∃ s, r.get? b.schemaId = some s ∧ b.errors = s.validator.check content := by
  induction h with
  | nil => cases hb
  | pass _ _ _ ih => exact ih hb
  | fail hs hcheck _ ih =>
    rcases List.mem_cons.1 hb with rfl | hb
    · exact ⟨hcheck, _, hs, rfl⟩
    · exact ih hb

/-- Without failures there are no errors, and without errors no failures. -/
theorem Splits.errorCount_eq_zero_iff (h : Splits r content ids passes failures) (isValid : Bool) :
    (Verdict.mk isValid passes failures).errorCount = 0 ↔ failures = [] := by
  rw [Verdict.errorCount, List.length_eq_zero_iff, List.flatMap_eq_nil_iff, List.eq_nil_iff_forall_not_mem]
  exact forall₂_congr fun b hb => iff_of_false (h.errors hb).1 fun hfalse => hfalse

/-- Other orders of the identifiers split into the same passes and the same failures, in other orders. -/
theorem Splits.perm {other : List String} {passes' : List Pass} {failures' : List Breach}
    (h : Splits r content ids passes failures) (hother : Splits r content other passes' failures')
    (hids : other.Perm ids) : passes'.Perm passes ∧ failures'.Perm failures := by
  obtain ⟨-, rfl, rfl⟩ := splits_iff.1 h
  obtain ⟨-, rfl, rfl⟩ := splits_iff.1 hother
  simp only [judgement, List.nil_append]
  exact ⟨(hids.filter _).map _, (hids.filter _).map _⟩

/-! ### Documents -/

/-- A verdict is valid just if it has no failures. -/
private theorem isValid_judgement (r : Registry) (content : Tree) (ids : List String) :
    (r.judgement content ⟨true, [], []⟩ ids).isValid = (r.judgement content ⟨true, [], []⟩ ids).failures.isEmpty := by
  simp only [judgement, Bool.true_and, List.nil_append, List.isEmpty_map]
  rw [Bool.eq_iff_iff, List.all_eq_true, List.isEmpty_iff, List.filter_eq_nil_iff]
  simp

/-- A document gets a verdict if it declares schemas that are all registered. -/
theorem validateDocument_eq_ok_iff (r : Registry) (d : Document) (v : Verdict) :
    r.validateDocument d = .ok v ↔ d.values Directive.schemaKey ≠ [] ∧
      Splits r d.content (d.values Directive.schemaKey) v.passes v.failures ∧ v.isValid = v.failures.isEmpty := by
  have hjudged := judged_validateDocument r d
  generalize r.validateDocument d = result at hjudged
  cases hjudged with
  | undeclared h => simp [h]
  | unknown before id rest h _ hid =>
    refine iff_of_false (fun heq => by cases heq) ?_
    rintro ⟨-, hsplits, -⟩
    have hcontains := (splits_iff.1 hsplits).1 id (by rw [h]; simp)
    rw [contains, hid] at hcontains
    cases hcontains
  | judged hne hall =>
    rw [splits_iff, Except.ok.injEq]
    constructor
    · rintro rfl
      exact ⟨hne, ⟨hall, rfl, rfl⟩, isValid_judgement r _ _⟩
    · rintro ⟨-, ⟨-, hpasses, hfailures⟩, heq⟩
      obtain ⟨isValid, passes, failures⟩ := v
      dsimp only at hpasses hfailures heq
      rw [heq, hpasses, hfailures, ← isValid_judgement]

/-- The first unknown identifier is named, whatever stands before it and behind it. -/
theorem validateDocument_eq_unknown_iff (r : Registry) (d : Document) (id : String) :
    r.validateDocument d = .error (.unknownSchema d.path id) ↔
      ∃ before rest, d.values Directive.schemaKey = before ++ id :: rest ∧ (∀ i ∈ before, r.contains i = true) ∧
        r.contains id = false := by
  constructor
  · intro hresult
    have hjudged := judged_validateDocument r d
    rw [hresult] at hjudged
    cases hjudged with
    | unknown before id rest h hbefore hid => exact ⟨before, rest, h, hbefore, by rw [contains, hid]; rfl⟩
  · rintro ⟨before, rest, h, hbefore, hid⟩
    have hnone : r.get? id = none := by
      cases hget : r.get? id with
      | none => rfl
      | some s => rw [contains, hget] at hid; cases hid
    unfold validateDocument
    split
    · rename_i hnil
      rw [hnil] at h
      exact absurd h (by simp)
    · rw [h]
      exact judge_of_unknown hnone hbefore

/-- The order of the directives only orders the passes and the failures. -/
theorem validateDocument_of_perm {d other : Document} (hcontent : other.content = d.content)
    (hids : (other.values Directive.schemaKey).Perm (d.values Directive.schemaKey)) {v : Verdict}
    (hv : r.validateDocument d = .ok v) : ∃ w, r.validateDocument other = .ok w ∧ w.passes.Perm v.passes ∧
      w.failures.Perm v.failures ∧ w.isValid = v.isValid := by
  obtain ⟨hne, hsplits, hvalid⟩ := (validateDocument_eq_ok_iff r d v).1 hv
  have hall := (splits_iff.1 hsplits).1
  have hother : Splits r d.content (other.values Directive.schemaKey)
      (r.judgement d.content ⟨true, [], []⟩ (other.values Directive.schemaKey)).passes
      (r.judgement d.content ⟨true, [], []⟩ (other.values Directive.schemaKey)).failures :=
    splits_iff.2 ⟨fun id hid => hall id (hids.mem_iff.1 hid), rfl, rfl⟩
  obtain ⟨hpasses, hfailures⟩ := hsplits.perm hother hids
  have hisValid := isValid_judgement r d.content (other.values Directive.schemaKey)
  refine ⟨r.judgement d.content ⟨true, [], []⟩ (other.values Directive.schemaKey),
    (validateDocument_eq_ok_iff r other _).2 ⟨?_, ?_, hisValid⟩, hpasses, hfailures, ?_⟩
  · exact fun hnil => hne (List.nil_perm.1 (hnil ▸ hids))
  · rw [hcontent]
    exact hother
  · rw [hisValid, hvalid, Bool.eq_iff_iff, List.isEmpty_iff, List.isEmpty_iff]
    exact ⟨fun h => List.nil_perm.1 (h ▸ hfailures), fun h => List.perm_nil.1 (h ▸ hfailures)⟩

/-- What validating a document answers, case by case: it declares no schema; or one of them is not registered, and the
first of those is named; or its identifiers are split by what their schemas find.  Then it is valid just if there are no
failures, and just if there are no errors, and the order of its directives only orders its passes and failures. -/
theorem validateDocument_answers (r : Registry) (d : Document) :
    (r.validateDocument d = .error (.noSchemaDeclared d.path) ↔ d.values Directive.schemaKey = []) ∧
    (∀ id, r.validateDocument d = .error (.unknownSchema d.path id) ↔
      ∃ before rest, d.values Directive.schemaKey = before ++ id :: rest ∧ (∀ i ∈ before, r.contains i = true) ∧
        r.contains id = false) ∧
    (∀ v, r.validateDocument d = .ok v ↔ d.values Directive.schemaKey ≠ [] ∧
      Splits r d.content (d.values Directive.schemaKey) v.passes v.failures ∧ v.isValid = v.failures.isEmpty) ∧
    ∀ v, r.validateDocument d = .ok v →
      (∀ id s, id ∈ d.values Directive.schemaKey → r.get? id = some s →
        (id ∈ v.failures.map Breach.schemaId ↔ s.validator.check d.content ≠ []) ∧
        (id ∈ v.passes.map Pass.schemaId ↔ s.validator.check d.content = [])) ∧
      (∀ b ∈ v.failures, b.errors ≠ []) ∧
      (v.isValid = true ↔ v.failures = []) ∧ (v.isValid = true ↔ v.errorCount = 0) ∧
      ∀ other : Document, other.content = d.content →
        (other.values Directive.schemaKey).Perm (d.values Directive.schemaKey) →
        ∃ w, r.validateDocument other = .ok w ∧ w.passes.Perm v.passes ∧ w.failures.Perm v.failures ∧
          w.isValid = v.isValid := by
  refine ⟨?_, validateDocument_eq_unknown_iff r d, validateDocument_eq_ok_iff r d, fun v hv => ?_⟩
  · have hjudged := judged_validateDocument r d
    generalize r.validateDocument d = result at hjudged
    cases hjudged with
    | undeclared h => simp [h]
    | unknown _ _ _ h => simp [h]
    | judged hne => simp [hne]
  · obtain ⟨-, hsplits, hvalid⟩ := (validateDocument_eq_ok_iff r d v).1 hv
    have hempty : v.isValid = true ↔ v.failures = [] := by rw [hvalid, List.isEmpty_iff]
    refine ⟨fun id s hid hs => hsplits.mem_iff hid hs, fun b hb => (hsplits.errors hb).1, hempty, ?_, ?_⟩
    · rw [hempty]
      exact (hsplits.errorCount_eq_zero_iff v.isValid).symm
    · exact fun other hcontent hids => validateDocument_of_perm hcontent hids hv

end Registry

end YamlSchema
