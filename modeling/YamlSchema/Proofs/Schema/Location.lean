import YamlSchema.Proofs.Schema.Finding
import YamlSchema.Proofs.Tree.Pointer

/-!
# Where violations are

The pointer of a violation goes through the schemas that a value is asked to meet, and through references (`Reaches`), to
the schema that is broken, and ends with a keyword that this one has (`Located`).  That holds of all that a schema finds,
by the ways in which it is found (`Found.located`).
-/

namespace YamlSchema.Schema

/-- A way from a schema to one that values are asked to meet, with the value of the first reference on it if there is
one. -/
inductive Reaches (resources : Resources) : Setting → Tree → Option Tree → Pointer → Setting → Tree → Prop
  | here (s : Setting) (t : Tree) : Reaches resources s t none [] s t
  | inside {s s' s'' : Setting} {members : OrderedMap Tree} {way more : Pointer} {t u : Tree} {reference : Option Tree}
      (h : Embeds s members way s' t) (hmore : Reaches resources s' t reference more s'' u) :
      Reaches resources s (.object members) reference (way ++ more) s'' u
  | behind {s s' s'' : Setting} {members : OrderedMap Tree} {keyword : String} {operand : Tree} {link : Link}
      {more : Pointer} {t u : Tree} {reference : Option Tree} (h : PointsAt s members keyword operand link)
      (hfind : resources.find link = .ok (s', t)) (hmore : Reaches resources s' t reference more s'' u) :
      Reaches resources s (.object members) (some operand) (.key keyword :: more) s'' u

/-- The pointer to the keyword of a violation leads to one that a schema owns, if there is one at all. -/
inductive Located (resources : Resources) (s : Setting) (t : Tree) (e : Violation) : Prop
  | owned {reference : Option Tree} {way tail : Pointer} {s' : Setting} {u : Tree} (hcause : e.cause.hasKeyword = true)
      (h : Reaches resources s t reference way s' u) (htail : Owns s' u tail) (heq : e.keyword = way ++ tail)
  | undecodable (hcause : e.cause.hasKeyword = false) (heq : e.keyword = [])

section Steps

variable {resources : Resources} {s s' : Setting} {members : OrderedMap Tree} {t : Tree} {e : Violation}

/-- A violation of a keyword that the schema has. -/
theorem Located.own {tail : Pointer} (htail : Owns s t tail) (at_ : Pointer) (v : Tree) {cause : Cause}
    (hcause : cause.hasKeyword = true) : Located resources s t ⟨at_, tail, v, cause⟩ :=
  .owned hcause (.here s t) htail rfl

theorem Located.assertion {keyword : String} (h : Owns s (.object members) [.key keyword]) (at_ : Pointer) (v : Tree)
    (cause : Cause) :
    Located resources s (.object members) (Violation.under none [.key keyword] ⟨at_, [], v, cause⟩) := by
  cases hcause : cause.hasKeyword with
  | true => exact .owned hcause (.here s _) h (by simp [Violation.under, hcause])
  | false => exact .undecodable hcause (by simp [Violation.under, hcause])

theorem Located.inside {way : Pointer} (h : Embeds s members way s' t) (he : Located resources s' t e)
    (step : Option Step) : Located resources s (.object members) (e.under step way) := by
  cases he with
  | owned hcause hreaches htail heq =>
    refine .owned hcause (.inside h hreaches) htail ?_
    rw [Violation.under, if_pos hcause, heq, List.append_assoc]
  | undecodable hcause heq =>
    refine .undecodable hcause ?_
    simp [Violation.under, hcause, heq]

theorem Located.behind {keyword : String} {operand : Tree} {link : Link} (h : PointsAt s members keyword operand link)
    (hfind : resources.find link = .ok (s', t)) (he : Located resources s' t e) :
    Located resources s (.object members) (e.under none [.key keyword]) := by
  cases he with
  | owned hcause hreaches htail heq =>
    refine .owned hcause (.behind h hfind hreaches) htail ?_
    rw [Violation.under, if_pos hcause, heq]
    rfl
  | undecodable hcause heq =>
    refine .undecodable hcause ?_
    simp [Violation.under, hcause, heq]

/-- Only the pointer to the keyword counts, and whether there is one. -/
theorem Located.congr {e' : Violation} (he : Located resources s t e) (hkeyword : e'.keyword = e.keyword)
    (hcause : e'.cause.hasKeyword = e.cause.hasKeyword) : Located resources s t e' := by
  cases he with
  | owned h hreaches htail heq => exact .owned (hcause.trans h) hreaches htail (hkeyword.trans heq)
  | undecodable h heq => exact .undecodable (hcause.trans h) (hkeyword.trans heq)

/-- Every violation that a schema finds is located in it. -/
theorem Found.located {v : Tree} (h : Found resources s t v e) : Located resources s t e := by
  induction h with
  | never s v => exact .own .never [] v rfl
  | asserted h _ _ => exact .assertion h [] _ _
  | own h hcause => exact .own h [] _ hcause.hasKeyword
  | inside h _ _ ih => exact ih.inside h _
  | @ofName _ s' _ v t _ name e h _ _ ih =>
    have hname : Located resources s' t ⟨[], e.keyword, v, .ofName name e.cause⟩ := ih.congr rfl rfl
    exact hname.inside h none
  | behind h hfind _ ih => exact ih.behind h hfind

end Steps

/-- Every violation of a compiled schema is located in it and in what it refers to. -/
theorem Validator.located_of_mem_violations {references : References} {schema : Tree} {c : Validator}
    (h : Validator.compile references schema = .ok c) : ∃ uri resources,
      Resources.uriOf c.schema = .ok uri ∧ Resources.gather references uri c.schema = .ok resources ∧
        ∀ v, ∀ e ∈ c.program.violations v, Located resources (Program.rootSetting uri c.schema) c.schema e := by
  obtain ⟨uri, resources, huri, hgather, hfound⟩ := Validator.found_of_mem_violations h
  exact ⟨uri, resources, huri, hgather, fun v e he => (hfound v e he).located⟩

end YamlSchema.Schema
