import YamlSchema.Proofs.Traversal
import YamlSchema.Schema.Validator

/-!
# What lies behind the links of a program

Every link of a program that has been built leads to the node that is read where its resources find it
(`Program.build_sound`).  A schema without demands needs no links (`Program.build_of_demands_eq_nil`).
-/

namespace YamlSchema.Schema

variable {resources : Resources}

/-- Every link leads to the node that is read where it is found. -/
def Links.Sound (resources : Resources) (links : Links) : Prop :=
  ∀ link n, links.node? link = some n →
    ∃ setting t, resources.find link = .ok (setting, t) ∧ n = (read setting t).node

namespace Links

theorem sound_nil : Sound resources [] := by
  intro link n h
  simp [node?] at h

theorem node?_append (links more : Links) (link : Link) :
    node? (links ++ more) link = (links.node? link).or (more.node? link) := by
  induction links with
  | nil => simp [node?]
  | cons e rest ih =>
    obtain ⟨l, n⟩ := e
    by_cases hl : l = link <;> simp [node?, hl, ih]

/-- Behind a link stands the node that is read where the link is found. -/
theorem Sound.node_eq {links : Links} (h : Sound resources links) {link : Link} {n : Node} {setting : Setting} {t : Tree}
    (hn : links.node? link = some n) (hfind : resources.find link = .ok (setting, t)) : n = (read setting t).node := by
  obtain ⟨setting', t', hfind', rfl⟩ := h link n hn
  rw [hfind] at hfind'
  cases hfind'
  rfl

theorem Sound.append {links : Links} (h : Sound resources links) {link : Link} {setting : Setting} {t : Tree}
    (hfind : resources.find link = .ok (setting, t)) :
    Sound resources (links ++ [(link, (read setting t).node)]) := by
  intro l n hn
  rw [node?_append, Option.or_eq_some_iff] at hn
  rcases hn with hn | ⟨-, hn⟩
  · exact h l n hn
  · by_cases hl : link = l
    · subst hl
      simp only [node?, if_true, Option.some.injEq] at hn
      exact ⟨setting, t, hfind, hn.symm⟩
    · simp [node?, hl] at hn

theorem settle_sound {fuel : Nat} {links out : Links} {demands : List Demand}
    (h : settle resources fuel links demands = .ok out) (hlinks : Sound resources links) : Sound resources out := by
  fun_induction settle resources fuel links demands with
  | case1 => cases h; exact hlinks
  | case2 | case4 | case5 => cases h
  | case3 fuel links link rest hknown ih => exact ih h hlinks
  | case6 links link rest hnew setting t fuel hfind node ih => exact ih h (hlinks.append hfind)

end Links

namespace Program

variable {uri : Uri} {schema : Tree} {p : Program}

theorem build_eq_ok_iff : build resources uri schema = .ok p ↔
    p.root = (read (rootSetting uri schema) schema).node ∧
      Links.settle resources Links.maxLinks [] p.root.demands = .ok p.links := by
  simp only [build, bind_eq_ok_iff, pure_eq_ok_iff]
  constructor
  · rintro ⟨links, hlinks, rfl⟩
    exact ⟨rfl, hlinks⟩
  · rintro ⟨hroot, hlinks⟩
    rw [hroot] at hlinks
    exact ⟨p.links, hlinks, by rw [← hroot]⟩

theorem build_sound (h : build resources uri schema = .ok p) :
    p.root = (read (rootSetting uri schema) schema).node ∧ p.links.Sound resources :=
  ⟨(build_eq_ok_iff.1 h).1, Links.settle_sound (build_eq_ok_iff.1 h).2 Links.sound_nil⟩

theorem build_of_demands_eq_nil (h : (read (rootSetting uri schema) schema).node.demands = []) :
    build resources uri schema = .ok ⟨(read (rootSetting uri schema) schema).node, []⟩ := by
  rw [build_eq_ok_iff, h, Links.settle]
  exact ⟨rfl, rfl⟩

end Program

namespace Validator

variable {references : References} {c : Validator}

theorem ofResources_eq_ok_iff {uri : Uri} {lowered : Tree} : ofResources resources uri lowered = .ok c ↔
    c.schema = lowered ∧ metaProgram.violations lowered = [] ∧ Program.build resources uri lowered = .ok c.program := by
  rw [ofResources]
  cases metaProgram.violations lowered with
  | cons e rest => simp
  | nil =>
    simp only [bind_eq_ok_iff, pure_eq_ok_iff, true_and]
    constructor
    · rintro ⟨p, hp, rfl⟩
      exact ⟨rfl, hp⟩
    · rintro ⟨rfl, hp⟩
      exact ⟨c.program, hp, rfl⟩

theorem compileLowered_eq_ok_iff_exists {lowered : Tree} : compileLowered references lowered = .ok c ↔
    ∃ uri all, Resources.uriOf lowered = .ok uri ∧ Resources.gather references uri lowered = .ok all ∧
      c.schema = lowered ∧ metaProgram.violations lowered = [] ∧ Program.build all uri lowered = .ok c.program := by
  simp only [compileLowered, bind_eq_ok_iff, ofResources_eq_ok_iff, exists_and_left]

/-- What is behind a schema that is compiled. -/
theorem exists_of_compile {canonical : Tree} (h : compile references canonical = .ok c) :
    c.schema = lower canonical ∧ ∃ uri all,
      Resources.uriOf c.schema = .ok uri ∧ Resources.gather references uri c.schema = .ok all ∧
        Program.build all uri c.schema = .ok c.program := by
  obtain ⟨uri, all, huri, hall, hschema, -, hbuild⟩ := compileLowered_eq_ok_iff_exists.1 h
  rw [← hschema] at huri hall hbuild
  exact ⟨hschema, uri, all, huri, hall, hbuild⟩

end Validator

end YamlSchema.Schema
