import YamlSchema.Proofs.Schema.Agreement
import YamlSchema.Registry

/-!
# Answers without errors

A validator answers an instance with all its violations, or only with whether there are any, for which it evaluates the
schema in another way.  The two answers agree (`Schema.Validator.isValid_iff`), so a document that is validated by the
short one gets the verdict that it gets by the full one, up to the errors (`Registry.judge_brief`).
-/

namespace YamlSchema

open Schema (Validator)

/-- A verdict without the errors of its failures. -/
def Verdict.brief (v : Verdict) : Verdict := { v with failures := v.failures.map fun f => { f with errors := [] } }

namespace Registry

/-- Validates a document against schemas that it declares, by the short answers of their validators. -/
def judgeBriefly (r : Registry) (d : Document) (verdict : Verdict) : List String → Except Failure Verdict
  | [] => .ok verdict
  | id :: rest =>
    match r.get? id with
    | none => .error (.unknownSchema d.path id)
    | some s =>
      if s.validator.isValid d.content then
        judgeBriefly r d { verdict with passes := verdict.passes ++ [⟨id⟩] } rest
      else judgeBriefly r d ⟨false, verdict.passes, verdict.failures ++ [⟨id, []⟩]⟩ rest

/-- Validates a document against each schema that it declares, by the short answers of their validators. -/
def validateBriefly (r : Registry) (d : Document) : Except Failure Verdict :=
  match d.values Directive.schemaKey with
  | [] => .error (.noSchemaDeclared d.path)
  | ids => r.judgeBriefly d ⟨true, [], []⟩ ids

end Registry

theorem Schema.Validator.isValid_iff (c : Validator) (v : Tree) : c.isValid v = true ↔ c.check v = [] := by
  rw [Validator.isValid, Validator.check, List.map_eq_nil_iff]
  exact c.program.root.accepts_iff (c.program.agrees_follow _) v

theorem Registry.judge_brief (r : Registry) (d : Document) (ids : List String) (verdict : Verdict) :
    (r.judge d verdict ids).map Verdict.brief = r.judgeBriefly d verdict.brief ids := by
  induction ids generalizing verdict with
  | nil => rfl
  | cons id rest ih =>
    rw [judge, judgeBriefly]
    cases r.get? id with
    | none => rfl
    | some s =>
      have hagree := s.validator.isValid_iff d.content
      cases hcheck : s.validator.check d.content with
      | nil =>
        simp only [hcheck, hagree.2 hcheck, if_true]
        exact ih _
      | cons e errors =>
        rw [hcheck, iff_false_right (List.cons_ne_nil e errors)] at hagree
        simp only [hcheck, hagree]
        rw [ih, Verdict.brief, List.map_append]
        rfl

end YamlSchema
