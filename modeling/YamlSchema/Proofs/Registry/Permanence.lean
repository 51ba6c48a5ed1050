import YamlSchema.Proofs.Registry.Judgement
import YamlSchema.Proofs.Registry.Mirror

/-!
# Registration is permanent

A registry `Keeps` another one if all its schemas are those of the other one and perhaps some behind them.  Every call
keeps the registry before it, whatever it answers (`Keeps.step`), and so does every run of calls; what is kept is found
as it was (`Keeps.get?`), gives the same verdicts (`Keeps.validateDocument`), and its identifier stays taken
(`stage_of_taken`).
-/

namespace YamlSchema

namespace Registry

variable {r later : Registry}

/-- The schemas of a registry are there in a later one, in their places. -/
def Keeps (r later : Registry) : Prop := r.schemas <+: later.schemas

/-! ### Keeping is a preorder that every call respects -/

theorem Keeps.refl (r : Registry) : Keeps r r := List.prefix_refl _

theorem Keeps.trans {last : Registry} (h : Keeps r later) (hlast : Keeps later last) : Keeps r last :=
  List.IsPrefix.trans h hlast

/-- A schema goes behind those that are there, for a staged one has a free identifier. -/
private theorem Keeps.registerDocument (r : Registry) (d : Document) : Keeps r (r.registerDocument d).1 := by
  unfold Keeps
  rcases registerDocument_cases r d with heq | ⟨s, validator, -, -, heq⟩
  · exact heq ▸ List.prefix_refl _
  · exact heq ▸ List.prefix_append _ _

private theorem Keeps.load (r : Registry) (fs : FileSystem) (paths : List String) : Keeps r (r.load fs paths).1 := by
  obtain ⟨-, -, done, new, hext, -⟩ := load_spec r fs paths
  unfold Keeps
  rw [hext.schemas]
  exact List.prefix_append _ _

theorem Keeps.step (r : Registry) (call : Call) : Keeps r (r.step call) := by
  cases call with
  | register fs path =>
    rw [Registry.step, register]
    split
    · exact Keeps.registerDocument r _
    · exact Keeps.refl r
  | registerDocument d => exact Keeps.registerDocument r d
  | load fs paths => exact Keeps.load r fs paths

/-- However many calls follow, a registry is kept. -/
theorem keeps_foldl_step (more : List Call) : ∀ r : Registry, Keeps r (more.foldl step r) := by
  induction more with
  | nil => exact Keeps.refl
  | cons call rest ih => exact fun r => (Keeps.step r call).trans (ih (r.step call))

/-! ### What is kept -/

/-- What was registered is found as it was: its path, its tree and its validator. -/
theorem Keeps.get? (h : Keeps r later) {id : String} {s : Registered} (hs : r.get? id = some s) :
    later.get? id = some s := by
  obtain ⟨new, hnew⟩ := h
  rw [Registry.get?] at hs ⊢
  rw [← hnew, OrderedMap.get?_append, hs, Option.some_or]

private theorem Keeps.contains (h : Keeps r later) {id : String} (hid : r.contains id = true) :
    later.contains id = true := by
  obtain ⟨s, hs⟩ := Option.isSome_iff_exists.1 hid
  exact Option.isSome_of_eq_some (h.get? hs)

private theorem Keeps.errorsBy (h : Keeps r later) (content : Tree) {id : String} (hid : r.contains id = true) :
    later.errorsBy content id = r.errorsBy content id := by
  obtain ⟨s, hs⟩ := Option.isSome_iff_exists.1 hid
  rw [Registry.errorsBy, Registry.errorsBy, hs, h.get? hs]

/-- A verdict stands. -/
theorem Keeps.validateDocument (h : Keeps r later) {d : Document} {verdict : Verdict}
    (hv : r.validateDocument d = .ok verdict) : later.validateDocument d = .ok verdict := by
  have hjudged := judged_validateDocument r d
  rw [hv] at hjudged
  cases hjudged with
  | judged hne hall =>
    -- a verdict only tells of schemas that are registered, and these find the same errors
    have herrors : ∀ id ∈ d.values Directive.schemaKey, later.errorsBy d.content id = r.errorsBy d.content id :=
      fun id hid => h.errorsBy d.content (hall id hid)
    have hsame : later.judgement d.content ⟨true, [], []⟩ (d.values Directive.schemaKey) =
        r.judgement d.content ⟨true, [], []⟩ (d.values Directive.schemaKey) :=
      judgement_congr herrors
    rw [← hsame, ← judge_of_registered fun id hid => h.contains (hall id hid)]
    unfold Registry.validateDocument
    split
    · rename_i hnone
      exact absurd hnone hne
    · rfl

/-- Whoever comes second with an identifier is refused for it, and told who holds it. -/
theorem stage_of_taken {id : String} {s : Registered} (hs : r.get? id = some s) {d : Document}
    (hid : d.values Directive.idKey = [id]) (pending : List Staged) :
    r.stage pending d = .error (.duplicateId id d.path s.path) := by
  have hholder : r.holder? pending id = some s.path := by
    rw [holder?, hs, Option.map_some, Option.some_or]
  unfold stage
  rw [hid]
  dsimp only
  rw [hholder]

/-! ### Runs -/

/-- Behind any further calls every schema is registered with the path, the tree and the validator that it had; a document
that states its identifier is refused, alone or in a batch; and every verdict that was given is given again. -/
theorem after_append_permanent (calls more : List Call) :
    (∀ id s, (after calls).get? id = some s → (after (calls ++ more)).get? id = some s ∧
      ∀ d, d.values Directive.idKey = [id] → ∀ pending,
        (after (calls ++ more)).stage pending d = .error (.duplicateId id d.path s.path)) ∧
    ∀ d verdict, (after calls).validateDocument d = .ok verdict →
      (after (calls ++ more)).validateDocument d = .ok verdict := by
  have hkeeps : Keeps (after calls) (after (calls ++ more)) := by
    rw [after, after, List.foldl_append]
    exact keeps_foldl_step more _
  refine ⟨fun id s hs => ?_, fun d verdict hv => hkeeps.validateDocument hv⟩
  have hlater := hkeeps.get? hs
  exact ⟨hlater, fun d hid pending => stage_of_taken hlater hid pending⟩

end Registry

end YamlSchema
