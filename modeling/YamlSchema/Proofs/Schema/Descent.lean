import Mathlib.Data.Finset.Card
import Mathlib.Logic.Relation
import YamlSchema.Proofs.Schema.Likeness
import YamlSchema.Proofs.Schema.Settling

/-!
# References that descend

A program descends if no link comes back to itself without going into the instance.  Then there are links in place only
so far, which gives every link a rank (`Program.rank_lt`); with the depth of the instance it bounds how many links are
followed in a row, and following more of them changes nothing (`Program.accepts_eq_of_reach_le`).
-/

namespace YamlSchema.Schema

namespace Program

variable {p : Program} {link next : Link}

/-- A link is followed to the next one at the same place of an instance. -/
def Next (p : Program) (link next : Link) : Prop := ∃ n, p.links.node? link = some n ∧ next ∈ n.inPlace

/-- No link comes back to itself at the same place of an instance. -/
def Descends (p : Program) : Prop := ∀ link, ¬ Relation.TransGen p.Next link link

/-- A program descends if none of its links is followed to another one at the same place. -/
theorem descends_of_inPlace (h : ∀ e ∈ p.links, e.2.inPlace = []) : p.Descends := by
  intro link hcycle
  obtain ⟨next, ⟨n, hn, hnext⟩, -⟩ := Relation.TransGen.head'_iff.1 hcycle
  rw [h _ (Links.mem_of_node? hn)] at hnext
  cases hnext

/-- The links of a node that is read by Draft 7 and settled are those of the table. -/
structure IsSettled (p : Program) : Prop where
  closed : p.links.Closed
  plain : ∀ link n, p.links.node? link = some n → n.Like Eq n

/-! ### Ranks -/

open Classical in
/-- The links that a link is followed to at the same place of an instance. -/
noncomputable def followed (p : Program) (link : Link) : Finset Link :=
  p.links.keys.toFinset.filter (Relation.TransGen p.Next link)

open Classical in
theorem mem_followed {l : Link} :
    l ∈ p.followed link ↔ l ∈ p.links.keys ∧ Relation.TransGen p.Next link l := by
  rw [followed, Finset.mem_filter, List.mem_toFinset]

/-- The number of links that a link is followed to at the same place of an instance. -/
noncomputable def rank (p : Program) (link : Link) : Nat := (p.followed link).card

theorem rank_le (p : Program) (link : Link) : p.rank link ≤ p.links.length := by
  have hkeys : p.links.keys.toFinset.card ≤ p.links.length := by
    have hcard := List.toFinset_card_le p.links.keys
    rwa [Links.keys, List.length_map] at hcard
  refine (Finset.card_le_card fun l hl => ?_).trans hkeys
  exact List.mem_toFinset.2 (mem_followed.1 hl).1

theorem IsSettled.isSome_of_next (h : p.IsSettled) (hnext : p.Next link next) : (p.links.node? next).isSome := by
  obtain ⟨n, hn, hmem⟩ := hnext
  exact (h.closed link n hn).isSome ((h.plain link n hn).demanded hmem)

/-- The next link is itself among those that a link is followed to, and not among those behind it. -/
theorem rank_lt (h : p.IsSettled) (hdescends : p.Descends) (hnext : p.Next link next) :
    p.rank next < p.rank link := by
  have hself : next ∉ p.followed next := fun hl => hdescends next (mem_followed.1 hl).2
  have hmem : next ∈ p.followed link :=
    mem_followed.2 ⟨Links.isSome_node?_iff.1 (h.isSome_of_next hnext), .single hnext⟩
  refine Finset.card_lt_card ((Finset.ssubset_iff_of_subset fun l hl => ?_).2 ⟨next, hmem, hself⟩)
  obtain ⟨hkey, hpath⟩ := mem_followed.1 hl
  exact mem_followed.2 ⟨hkey, .head hnext hpath⟩

/-! ### Enough links -/

/-- More links than are followed in a row behind a link. -/
noncomputable def cost (p : Program) (link : Link) (v : Tree) : Nat := v.depth * (p.links.length + 1) + p.rank link

/-- Going into the instance costs less, whatever link is followed there. -/
theorem cost_lt_of_depth_lt (p : Program) (link other : Link) {v u : Tree} (h : u.depth < v.depth) :
    p.cost other u < p.cost link v := by
  have hmul : (u.depth + 1) * (p.links.length + 1) ≤ v.depth * (p.links.length + 1) := Nat.mul_le_mul_right _ h
  rw [Nat.succ_mul] at hmul
  have hrank := p.rank_le other
  unfold cost
  omega

theorem cost_lt_reach (p : Program) (link : Link) (v : Tree) : p.cost link v < p.reach v := by
  have hrank := p.rank_le link
  rw [cost, reach, Nat.succ_mul]
  omega

theorem accepts_follow_eq (h : p.IsSettled) (hdescends : p.Descends) (bound : Nat) :
    ∀ (link : Link) (v : Tree) (fuel fuel' : Nat), p.cost link v < bound → bound ≤ fuel → bound ≤ fuel' →
      (p.follow fuel).accepts link v = (p.follow fuel').accepts link v := by
  induction bound with
  | zero => exact fun link v _ _ hcost => absurd hcost (Nat.not_lt_zero _)
  | succ bound ih =>
    intro link v fuel fuel' hcost hfuel hfuel'
    obtain ⟨fuel, rfl⟩ := Nat.exists_eq_add_of_lt (Nat.lt_of_lt_of_le (Nat.succ_pos bound) hfuel)
    obtain ⟨fuel', rfl⟩ := Nat.exists_eq_add_of_lt (Nat.lt_of_lt_of_le (Nat.succ_pos bound) hfuel')
    simp only [Nat.zero_add] at hfuel hfuel' ⊢
    simp only [follow]
    cases hn : p.links.node? link with
    | none => rfl
    | some n =>
      refine (h.plain link n hn).accepts_eq ?_
      rintro next _ u rfl hasked
      refine ih next u fuel fuel' ?_ (Nat.le_of_succ_le_succ hfuel) (Nat.le_of_succ_le_succ hfuel')
      have hless : p.cost next u < p.cost link v := by
        rcases hasked with ⟨hplace, rfl⟩ | ⟨-, hdepth⟩
        · have := rank_lt h hdescends ⟨n, hn, hplace⟩
          unfold cost
          omega
        · exact p.cost_lt_of_depth_lt link next hdepth
      omega

/-- Once enough links are followed, following more of them does not matter to a node. -/
theorem accepts_eq_of_reach_le (h : p.IsSettled) (hdescends : p.Descends) {n : Node} (hplain : n.Like Eq n) {v : Tree}
    {fuel fuel' : Nat} (hfuel : p.reach v ≤ fuel) (hfuel' : p.reach v ≤ fuel') :
    n.accepts (p.follow fuel).toBehind v = n.accepts (p.follow fuel').toBehind v := by
  refine hplain.accepts_eq ?_
  rintro link _ u rfl hasked
  refine accepts_follow_eq h hdescends (p.reach v) link u fuel fuel' ?_ hfuel hfuel'
  rcases hasked with ⟨-, rfl⟩ | ⟨-, hdepth⟩
  · exact p.cost_lt_reach link u
  · exact (p.cost_lt_of_depth_lt link link hdepth).trans (p.cost_lt_reach link v)

end Program

end YamlSchema.Schema
