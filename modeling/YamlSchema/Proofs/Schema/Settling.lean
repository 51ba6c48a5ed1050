import Mathlib.Data.List.Perm.Subperm
import YamlSchema.Proofs.Schema.Linking

/-!
# Settling the links of a program

A table of links that has been settled is closed: every demand of one of its nodes is a link of the table
(`Links.settle_closed`).  Conversely, where finitely many links lead only to each other, there is room to settle them
(`Links.exists_settle`).
-/

namespace YamlSchema.Schema

namespace Links

variable {resources : Resources} {links out : Links} {demands : List Demand} {fuel : Nat}

/-- All demands are links that a table has. -/
def Settles (links : Links) (demands : List Demand) : Prop :=
  ∀ d ∈ demands, ∃ link, d = .resolve link ∧ (links.node? link).isSome

/-- The nodes of a table demand nothing else. -/
def Closed (links : Links) : Prop := ∀ link n, links.node? link = some n → links.Settles n.demands

/-- The nodes of a table demand nothing else, apart from what is still to be settled. -/
def Pending (links : Links) (demands : List Demand) : Prop :=
  ∀ link n, links.node? link = some n → ∀ d ∈ n.demands, d ∈ demands ∨ ∃ l, d = .resolve l ∧ (links.node? l).isSome

def keys (links : Links) : List Link := links.map Prod.fst

/-- A link that is new is settled next, and what its node demands behind it. -/
theorem settle_resolve {link : Link} {setting : Setting} {t : Tree} {rest : List Demand}
    (hnew : links.node? link = none) (hfind : resources.find link = .ok (setting, t)) :
    settle resources (fuel + 1) links (.resolve link :: rest) =
      settle resources fuel (links ++ [(link, (read setting t).node)]) ((read setting t).node.demands ++ rest) := by
  conv_lhs => unfold settle
  rw [if_neg (by simp [hnew]), hfind]

/-- A link that is known needs nothing. -/
theorem settle_resolve_of_isSome {link : Link} {rest : List Demand} (h : (links.node? link).isSome) :
    settle resources fuel links (.resolve link :: rest) = settle resources fuel links rest := by
  conv_lhs => unfold settle
  rw [if_pos h]

/-! ### Keys -/

theorem Settles.isSome (h : links.Settles demands) {link : Link} (hlink : .resolve link ∈ demands) :
    (links.node? link).isSome := by
  obtain ⟨other, heq, hother⟩ := h _ hlink
  cases heq
  exact hother

theorem isSome_node?_iff {link : Link} : (links.node? link).isSome ↔ link ∈ links.keys := by
  induction links with
  | nil => simp [node?, keys]
  | cons e rest ih =>
    obtain ⟨l, n⟩ := e
    by_cases hl : l = link
    · simp [node?, keys, hl]
    · have hl' : ¬ link = l := fun h => hl h.symm
      simpa [node?, keys, hl, hl'] using ih

theorem mem_of_node? {link : Link} {n : Node} (h : links.node? link = some n) : (link, n) ∈ links := by
  induction links with
  | nil => simp [node?] at h
  | cons e rest ih =>
    obtain ⟨l, other⟩ := e
    by_cases hl : l = link
    · simp only [node?, hl, if_true, Option.some.injEq] at h
      rw [hl, h]
      exact List.mem_cons_self ..
    · simp only [node?, hl, if_false] at h
      exact List.mem_cons_of_mem _ (ih h)

theorem keys_append (links more : Links) : keys (links ++ more) = links.keys ++ more.keys := List.map_append

/-! ### What has been settled -/

theorem pending_nil : Pending [] demands := fun _ _ hn => by simp [node?] at hn

/-- A link of the table need not be settled again. -/
theorem Pending.skip {link : Link} {rest : List Demand} (h : links.Pending (.resolve link :: rest))
    (hknown : (links.node? link).isSome) : links.Pending rest := by
  intro l n hn d hd
  rcases h l n hn d hd with hd | hd
  · rcases List.mem_cons.1 hd with rfl | hd
    · exact .inr ⟨link, rfl, hknown⟩
    · exact .inl hd
  · exact .inr hd

theorem mem_keys_add (links : Links) (link : Link) (node : Node) : link ∈ keys (links ++ [(link, node)]) := by
  rw [keys_append, List.mem_append]
  exact .inr (List.mem_singleton_self link)

/-- With a link that is settled, the demands of its node have to be. -/
theorem Pending.add {link : Link} {rest : List Demand} (h : links.Pending (.resolve link :: rest)) (node : Node) :
    Pending (links ++ [(link, node)]) (node.demands ++ rest) := by
  intro l n hn d hd
  rw [node?_append, Option.or_eq_some_iff] at hn
  rcases hn with hn | ⟨-, hn⟩
  · rcases h l n hn d hd with hd | ⟨other, rfl, hother⟩
    · rcases List.mem_cons.1 hd with rfl | hd
      · exact .inr ⟨link, rfl, isSome_node?_iff.2 (mem_keys_add links link node)⟩
      · exact .inl (List.mem_append_right _ hd)
    · refine .inr ⟨other, rfl, isSome_node?_iff.2 ?_⟩
      rw [keys_append, List.mem_append]
      exact .inl (isSome_node?_iff.1 hother)
  · by_cases hl : link = l
    · simp only [node?, hl, if_true, Option.some.injEq] at hn
      rw [← hn] at hd
      exact .inl (List.mem_append_left _ hd)
    · simp [node?, hl] at hn

theorem settle_closed (h : settle resources fuel links demands = .ok out) (hpending : links.Pending demands) :
    out.Closed ∧ out.Settles demands ∧ ∀ link ∈ links.keys, link ∈ out.keys := by
  fun_induction settle resources fuel links demands with
  | case1 fuel links =>
    cases h
    refine ⟨fun link n hn d hd => ?_, fun d hd => absurd hd List.not_mem_nil, fun link => id⟩
    exact (hpending link n hn d hd).resolve_left List.not_mem_nil
  | case2 | case4 | case5 => cases h
  | case3 fuel links link rest hknown ih =>
    obtain ⟨hclosed, hsettles, hkeys⟩ := ih h (hpending.skip hknown)
    refine ⟨hclosed, fun d hd => ?_, hkeys⟩
    rcases List.mem_cons.1 hd with rfl | hd
    · exact ⟨link, rfl, isSome_node?_iff.2 (hkeys link (isSome_node?_iff.1 hknown))⟩
    · exact hsettles d hd
  | case6 links link rest hnew setting t fuel hfind node ih =>
    obtain ⟨hclosed, hsettles, hkeys⟩ := ih h (hpending.add node)
    refine ⟨hclosed, fun d hd => ?_, fun l hl => hkeys l ?_⟩
    · rcases List.mem_cons.1 hd with rfl | hd
      · exact ⟨link, rfl, isSome_node?_iff.2 (hkeys link (mem_keys_add links link node))⟩
      · exact hsettles d (List.mem_append_right _ hd)
    · rw [keys_append, List.mem_append]
      exact .inl hl

/-- What holds of the demanded links, and goes from a link to those that its node demands, holds of the whole table. -/
theorem settle_forall {P : Link → Prop} (h : settle resources fuel links demands = .ok out)
    (hlinks : ∀ link ∈ links.keys, P link) (hdemands : ∀ link, .resolve link ∈ demands → P link)
    (hstep : ∀ link setting t, P link → resources.find link = .ok (setting, t) →
      ∀ next, .resolve next ∈ (read setting t).node.demands → P next) : ∀ link ∈ out.keys, P link := by
  fun_induction settle resources fuel links demands with
  | case1 => cases h; exact hlinks
  | case2 | case4 | case5 => cases h
  | case3 fuel links link rest hknown ih =>
    exact ih h hlinks fun l hl => hdemands l (List.mem_cons_of_mem _ hl)
  | case6 links link rest hnew setting t fuel hfind node ih =>
    have hlink : P link := hdemands link (List.mem_cons_self ..)
    refine ih h (fun l hl => ?_) fun l hl => ?_
    · rw [keys_append, List.mem_append] at hl
      rcases hl with hl | hl
      · exact hlinks l hl
      · rw [List.mem_singleton.1 hl]
        exact hlink
    · rcases List.mem_append.1 hl with hl | hl
      · exact hstep link setting t hlink hfind l hl
      · exact hdemands l (List.mem_cons_of_mem _ hl)

/-! ### Room to settle -/

private theorem nodup_append_of_new {link : Link} (hnodup : links.keys.Nodup) (hnew : ¬ (links.node? link).isSome)
    (node : Node) : (keys (links ++ [(link, node)])).Nodup := by
  have hlink : link ∉ links.keys := fun h => hnew (isSome_node?_iff.2 h)
  rw [keys_append]
  exact (List.perm_append_singleton link links.keys).nodup_iff.2 (List.nodup_cons.2 ⟨hlink, hnodup⟩)

/-- Links that lead only to each other can be settled if they are not too many. -/
theorem exists_settle {all : List Link}
    (hall : ∀ link ∈ all, ∃ setting t, resources.find link = .ok (setting, t) ∧
      ∀ d ∈ (read setting t).node.demands, ∃ next ∈ all, d = .resolve next)
    (hlinks : links.keys ⊆ all) (hnodup : links.keys.Nodup) (hdemands : ∀ d ∈ demands, ∃ link ∈ all, d = .resolve link)
    (hroom : all.length ≤ fuel + links.length) : ∃ out, settle resources fuel links demands = .ok out := by
  fun_induction settle resources fuel links demands with
  | case1 fuel links => exact ⟨links, rfl⟩
  | case2 fuel links why rest =>
    obtain ⟨link, -, heq⟩ := hdemands _ (List.mem_cons_self ..)
    cases heq
  | case3 fuel links link rest hknown ih =>
    exact ih hlinks hnodup (fun d hd => hdemands d (List.mem_cons_of_mem _ hd)) hroom
  | case4 fuel links link rest hnew why hfind =>
    obtain ⟨other, hother, heq⟩ := hdemands _ (List.mem_cons_self ..)
    cases heq
    obtain ⟨setting, t, hok, -⟩ := hall link hother
    rw [hfind] at hok
    cases hok
  | case5 links link rest hnew found hfind =>
    -- the new link is one more than those that are settled, so they are not all
    obtain ⟨other, hother, heq⟩ := hdemands _ (List.mem_cons_self ..)
    cases heq
    have hsub : keys (links ++ [(link, Node.always true)]) ⊆ all := by
      rw [keys_append]
      exact List.append_subset.2 ⟨hlinks, List.cons_subset.2 ⟨hother, List.nil_subset _⟩⟩
    have hlength := ((nodup_append_of_new hnodup hnew _).subperm hsub).length_le
    rw [keys, List.length_map, List.length_append, List.length_singleton] at hlength
    omega
  | case6 links link rest hnew setting t fuel hfind node ih =>
    obtain ⟨other, hother, heq⟩ := hdemands _ (List.mem_cons_self ..)
    cases heq
    obtain ⟨setting', t', hok, hnode⟩ := hall link hother
    rw [hfind] at hok
    cases hok
    refine ih ?_ (nodup_append_of_new hnodup hnew node) (fun d hd => ?_) ?_
    · rw [keys_append]
      exact List.append_subset.2 ⟨hlinks, List.cons_subset.2 ⟨hother, List.nil_subset _⟩⟩
    · rcases List.mem_append.1 hd with hd | hd
      · exact hnode d hd
      · exact hdemands d (List.mem_cons_of_mem _ hd)
    · rw [List.length_append, List.length_singleton]
      omega

end Links

end YamlSchema.Schema
