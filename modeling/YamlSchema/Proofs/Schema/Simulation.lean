import YamlSchema.Proofs.Schema.Descent

/-!
# Programs that do the same

A program simulates another one if every link of the other has an image in it, with a node that is like its own.  Then
a link accepts what its image accepts (`Program.Simulates.accepts_follow_eq`), and if the links of the one descend, so do
those of the other (`Program.Simulates.descends`).
-/

namespace YamlSchema.Schema

namespace Program

variable {image : Link → Link} {p q : Program}

/-- Every link of `p` has an image in `q`, whose node is like its own; nothing in `q` leads anywhere else. -/
structure Simulates (image : Link → Link) (p q : Program) : Prop where
  nodes : ∀ link n, p.links.node? link = some n → ∃ n', q.links.node? (image link) = some n' ∧
    n.Like (fun l l' => l' = image l) n'
  next : ∀ link next, q.Next link next → ∃ l, (p.links.node? l).isSome ∧ next = image l

namespace Simulates

/-- Nodes that are alike accept the same where links accept what their images accept. -/
private theorem accepts_eq_of_follow {fuel : Nat} (h : ∀ (link : Link) (v : Tree), (p.links.node? link).isSome →
      (p.follow fuel).accepts link v = (q.follow fuel).accepts (image link) v) {n n' : Node}
    (hlike : n.Like (fun l l' => l' = image l) n') (hsettles : p.links.Settles n.demands) (v : Tree) :
    n.accepts (p.follow fuel).toBehind v = n'.accepts (q.follow fuel).toBehind v := by
  refine hlike.accepts_eq ?_
  rintro next _ u rfl hasked
  have hdemanded : .resolve next ∈ n.demands := by
    rcases hasked with ⟨hplace, -⟩ | ⟨hdemanded, -⟩
    · exact hlike.demanded hplace
    · exact hdemanded
  exact h next u (hsettles.isSome hdemanded)

/-- A link accepts what its image accepts, as long as equally many links are followed. -/
theorem accepts_follow_eq (h : Simulates image p q) (hp : p.IsSettled) (fuel : Nat) :
    ∀ (link : Link) (v : Tree), (p.links.node? link).isSome →
      (p.follow fuel).accepts link v = (q.follow fuel).accepts (image link) v := by
  induction fuel with
  | zero => exact fun link v _ => rfl
  | succ fuel ih =>
    intro link v hlink
    obtain ⟨n, hn⟩ := Option.isSome_iff_exists.1 hlink
    obtain ⟨n', hn', hlike⟩ := h.nodes link n hn
    simp only [follow, hn, hn']
    exact accepts_eq_of_follow ih hlike (hp.closed link n hn) v

/-- Nodes that are alike accept the same, as long as equally many links are followed. -/
theorem accepts_eq (h : Simulates image p q) (hp : p.IsSettled) {n n' : Node}
    (hlike : n.Like (fun l l' => l' = image l) n') (hsettles : p.links.Settles n.demands) (fuel : Nat) (v : Tree) :
    n.accepts (p.follow fuel).toBehind v = n'.accepts (q.follow fuel).toBehind v :=
  accepts_eq_of_follow (h.accepts_follow_eq hp fuel) hlike hsettles v

/-- A step behind the image of a link is a step behind the link itself. -/
theorem exists_next (h : Simulates image p q) {link other : Link} (hlink : (p.links.node? link).isSome)
    (hother : q.Next (image link) other) : ∃ next, p.Next link next ∧ other = image next := by
  obtain ⟨n, hn⟩ := Option.isSome_iff_exists.1 hlink
  obtain ⟨n', hn', hlike⟩ := h.nodes link n hn
  obtain ⟨m, hm, hmem⟩ := hother
  rw [hn', Option.some.injEq] at hm
  subst hm
  obtain ⟨next, hnext, heq⟩ := hlike.covers.2 other hmem
  exact ⟨next, ⟨n, hn, hnext⟩, heq⟩

/-- On a way behind the image of a link, the ranks of the links themselves fall. -/
theorem exists_rank_lt (h : Simulates image p q) (hp : p.IsSettled) (hdescends : p.Descends) {link other : Link}
    (hlink : (p.links.node? link).isSome) (hway : Relation.TransGen q.Next (image link) other) :
    ∃ l, (p.links.node? l).isSome ∧ other = image l ∧ p.rank l < p.rank link := by
  induction hway with
  | single hnext =>
    obtain ⟨l, hl, rfl⟩ := h.exists_next hlink hnext
    exact ⟨l, hp.isSome_of_next hl, rfl, rank_lt hp hdescends hl⟩
  | tail _ hnext ih =>
    obtain ⟨l, hl, rfl, hless⟩ := ih
    obtain ⟨m, hm, rfl⟩ := h.exists_next hl hnext
    exact ⟨m, hp.isSome_of_next hm, rfl, (rank_lt hp hdescends hm).trans hless⟩

theorem descends (h : Simulates image p q) (hp : p.IsSettled) (hdescends : p.Descends) : q.Descends := by
  -- a link that came back to itself would be the image of links of ever smaller rank
  have hnever : ∀ rank link, (p.links.node? link).isSome → p.rank link = rank →
      ¬ Relation.TransGen q.Next (image link) (image link) := by
    intro rank
    induction rank using Nat.strong_induction_on with
    | _ rank ih =>
      intro link hlink hrank hway
      obtain ⟨l, hl, heq, hless⟩ := h.exists_rank_lt hp hdescends hlink hway
      rw [hrank] at hless
      exact ih _ hless l hl rfl (heq ▸ hway)
  intro other hway
  obtain ⟨before, -, hlast⟩ := Relation.TransGen.tail'_iff.1 hway
  obtain ⟨link, hlink, rfl⟩ := h.next before other hlast
  exact hnever _ link hlink rfl hway

end Simulates

end Program

end YamlSchema.Schema
