import Mathlib.Logic.Basic
import YamlSchema.Proofs.Schema.Rules
import YamlSchema.Schema.Validator

/-!
# The two readings of a schema agree

An instance is accepted exactly if it has no violation: by a node, if what lies behind the references agrees
(`Node.accepts_iff`), and so by a program, however many links it follows (`Program.agrees_follow`).
-/

namespace YamlSchema.Schema

/-- Behind every reference, an instance is accepted exactly if it has no violation. -/
def Follow.Agrees (f : Follow) : Prop := ∀ link v, f.accepts link v = true ↔ f.violations link v = []

section Nodes

variable {f : Follow}

mutual

theorem Node.accepts_iff (hf : f.Agrees) : ∀ (n : Node) (v : Tree),
    n.accepts f.toBehind v = true ↔ n.violations f v = []
  | .always true, v => by simp [Node.accepts, Node.violations]
  | .always false, v => by simp [Node.accepts, Node.violations]
  | .rules all, v => by rw [Node.accepts, Node.violations, acceptsAll_iff hf all v]
  | .refused _, v => by simp [Node.accepts, Node.violations]

theorem acceptsAll_iff (hf : f.Agrees) : ∀ (rules : List Rule) (v : Tree),
    acceptsAll f.toBehind rules v = true ↔ violationsOfAll f rules v = []
  | [], v => by simp [acceptsAll, violationsOfAll]
  | r :: rest, v => by
    rw [acceptsAll, violationsOfAll, Bool.and_eq_true, List.append_eq_nil_iff, Rule.accepts_iff hf r v,
      acceptsAll_iff hf rest v]

theorem Rule.accepts_iff (hf : f.Agrees) : ∀ (r : Rule) (v : Tree),
    r.accepts f.toBehind v = true ↔ r.violations f v = []
  | .assertion _ a, v => by simp [Rule.accepts, Rule.violations, Assertion.holds]
  | .reference _ link, v => by simp [Rule.accepts, Rule.violations, hf link v]
  | .property name node, v => by
    rw [Rule.accepts, Rule.violations_property_eq_nil_iff]
    cases OrderedMap.get? (membersOf v) name with
    | none => simp
    | some t => simp [Node.accepts_iff hf node t]
  | .patternProperty pattern node, v => by
    simp only [Rule.accepts, Rule.violations, List.all_eq_true, List.flatMap_eq_nil_iff]
    refine forall₂_congr fun m _ => ?_
    cases pattern.isIn m.1 <;> simp [Node.accepts_iff hf node m.2]
  | .members named patterned others, v => by
    rw [Rule.accepts, List.all_eq_true, Rule.violations_members_eq_nil_iff]
    refine forall₂_congr fun m _ => ?_
    rw [acceptsNamed_eq hf named, acceptsMatching_eq hf patterned, acceptsOr_eq hf false others]
    cases violationsNamed f named m.1 m.2 <;> cases violationsMatching f patterned m.1 m.2 <;>
      cases violationsIfAny f others m.2 <;> simp
  | .items node, v => by
    rw [Rule.accepts, List.all_eq_true, Rule.violations_items_eq_nil_iff]
    exact forall₂_congr fun t _ => Node.accepts_iff hf node t
  | .itemAt _ i node, v => by
    simp only [Rule.accepts, Rule.violations]
    cases (itemsOf v)[i]? with
    | none => simp
    | some t => simp [Node.accepts_iff hf node t]
  | .itemsFrom _ count node, v => by
    rw [Rule.accepts, List.all_eq_true, Rule.violations_itemsFrom_eq_nil_iff]
    exact forall₂_congr fun t _ => Node.accepts_iff hf node t
  | .contains node, v => by
    simp only [Rule.accepts, Rule.violations]
    cases v <;> simp
  | .containsWithin low high _ node, v => by
    simp only [Rule.accepts, Rule.violations]
    cases v <;> try simp
    split <;> simp_all
  | .names node, v => by
    simp only [Rule.accepts, Rule.violations, List.all_eq_true, List.flatMap_eq_nil_iff, List.map_eq_nil_iff]
    exact forall₂_congr fun m _ => Node.accepts_iff hf node (.string m.1)
  | .dependency _ name node, v => by
    simp only [Rule.accepts, Rule.violations]
    cases OrderedMap.contains (membersOf v) name <;> simp [Node.accepts_iff hf node v]
  | .allOf _ node, v => by simp [Rule.accepts, Rule.violations, Node.accepts_iff hf node v]
  | .anyOf nodes, v => by simp [Rule.accepts, Rule.violations, Nat.pos_iff_ne_zero]
  | .oneOf nodes, v => by
    simp only [Rule.accepts, Rule.violations]
    split <;> simp_all
  | .not node _, v => by simp [Rule.accepts, Rule.violations]
  | .conditional test yes no, v => by
    simp only [Rule.accepts, Rule.violations, acceptsOr_eq hf true]
    split
    · cases violationsIfAny f yes v <;> simp
    · cases violationsIfAny f no v <;> simp
  | .unevaluatedMembers beside node, v => by simp [Rule.accepts, Rule.violations, or_iff_not_imp_left]
  | .unevaluatedItems beside node, v => by simp [Rule.accepts, Rule.violations, or_iff_not_imp_left]
  | .refused _, v => by simp [Rule.accepts, Rule.violations]

theorem acceptsOr_eq (hf : f.Agrees) (otherwise : Bool) : ∀ (node : Option Node) (v : Tree),
    acceptsOr f.toBehind otherwise node v = ((violationsIfAny f node v).map List.isEmpty).getD otherwise
  | none, v => by simp [acceptsOr, violationsIfAny]
  | some n, v => by rw [acceptsOr, violationsIfAny, Bool.eq_iff_iff, Node.accepts_iff hf n v]; simp

theorem acceptsNamed_eq (hf : f.Agrees) : ∀ (named : List (String × Node)) (name : String) (v : Tree),
    acceptsNamed f.toBehind named name v = (violationsNamed f named name v).map List.isEmpty
  | [], name, v => by simp [acceptsNamed, violationsNamed]
  | (k, n) :: rest, name, v => by
    rw [acceptsNamed, violationsNamed, acceptsNamed_eq hf rest name v]
    split
    · rw [Option.map_some, Option.some.injEq, Bool.eq_iff_iff, Node.accepts_iff hf n v]; simp
    · rfl

theorem acceptsMatching_eq (hf : f.Agrees) : ∀ (patterned : List (Pattern × Node)) (name : String) (v : Tree),
    acceptsMatching f.toBehind patterned name v = (violationsMatching f patterned name v).map List.isEmpty
  | [], name, v => by simp [acceptsMatching, violationsMatching]
  | (p, n) :: rest, name, v => by
    rw [acceptsMatching, violationsMatching, acceptsMatching_eq hf rest name v]
    split
    · rw [Option.map_some, Option.some.injEq, Bool.eq_iff_iff, Bool.and_eq_true, Node.accepts_iff hf n v]
      cases violationsMatching f rest name v <;> simp
    · rfl

end

end Nodes

namespace Program

/-- However many links are followed, the two readings agree behind them. -/
theorem agrees_follow (p : Program) (fuel : Nat) : (p.follow fuel).Agrees := by
  induction fuel with
  | zero => simp [Follow.Agrees, Program.follow]
  | succ fuel ih =>
    intro link v
    simp only [Program.follow]
    cases p.links.node? link with
    | none => simp
    | some n => exact n.accepts_iff ih v

/-- Nothing is wrong behind a link if its node, where there is one, finds nothing, however many links it follows. -/
theorem violations_follow_eq_nil {p : Program} {link : Link} {v : Tree}
    (h : ∀ n, p.links.node? link = some n → ∀ fuel, n.violations (p.follow fuel) v = []) (fuel : Nat) :
    (p.follow fuel).violations link v = [] := by
  cases fuel with
  | zero => simp [follow]
  | succ fuel =>
    simp only [follow]
    cases hn : p.links.node? link with
    | none => rfl
    | some n => exact h n hn fuel

end Program

end YamlSchema.Schema
