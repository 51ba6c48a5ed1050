import YamlSchema.Proofs.Schema.Relocation
import YamlSchema.Proofs.Schema.Simulation

/-!
# Linking a schema under its own URI

Where the documents that a schema leads to have been relocated, its links can be settled anew from a link to the schema
itself (`Relocated.exists_settle`), and the program that comes out does the same (`Relocated.simulates`).
-/

namespace YamlSchema.Schema

/-- A part of a document that is held, in the setting in which it is read. -/
structure Setting.IsIn (r : Resources) (s : Setting) (t : Tree) : Prop where
  draft : s.draft = .draft7
  part : ∃ schema, r.Holds s.base schema ∧ schema.HasPart t

/-- A link starts in a document that is held, and leads to none of the drafts' documents. -/
structure Link.IsIn (r : Resources) (link : Link) : Prop where
  source : ∃ t, r.Holds link.source t
  recursive : link.recursive = false
  document : OrderedMap.contains Resources.bundled.documents link.document = false

/-- Where the schema that is compiled is read. -/
def rootPlace : Setting := ⟨.draft7, .draft7, rootUri, .empty⟩

theorem rootSetting_of_isNameless {t : Tree} (h : IsNameless t) : Program.rootSetting rootUri t = rootPlace := by
  have hnamed : Draft.draft7.named t = .ok .draft7 := named_of_isAnonymous h.isAnonymous .draft7
  unfold Program.rootSetting
  dsimp only [Resources.defaultDraft]
  rw [hnamed]
  cases t with
  | object members =>
    change ({ (_ : Setting) with base := baseWithin .draft7 rootUri members } : Setting) = _
    rw [h.baseWithin]
    rfl
  | _ => rfl

/-- A nameless schema is built from its node and the links behind it. -/
theorem Program.build_of_settle {resources : Resources} {t : Tree} (h : IsNameless t) {links : Links}
    (hlinks : Links.settle resources Links.maxLinks [] (read rootPlace t).node.demands = .ok links) :
    build resources rootUri t = .ok ⟨(read rootPlace t).node, links⟩ := by
  rw [build, rootSetting_of_isNameless h, hlinks]
  rfl

namespace Resources

namespace Relocated

variable {name : String} {all other : Resources} {s : Setting} {t : Tree} {link next : Link}

section Reading

variable (h : Relocated (documentUri name) all other)

include h

theorem isNameless_of_isIn (hs : s.IsIn all t) : IsNameless t ∧ ∀ w, Refers t w → IsSettled s.base w := by
  obtain ⟨schema, hholds, hpart⟩ := hs.part
  exact ⟨(h.nameless _ _ hholds).part hpart, fun w hw => h.settled _ _ hholds w (hw.of_hasPart hpart)⟩

/-- What a part of a held document demands are links of its references. -/
theorem isIn_of_demand (hs : s.IsIn all t) (hnext : .resolve next ∈ (read s t).node.demands) : next.IsIn all := by
  obtain ⟨hname, hsettled⟩ := h.isNameless_of_isIn hs
  obtain ⟨schema, hholds, -⟩ := hs.part
  have hlike := read_like (R := fun l l' => l' = l ∧ ∃ w, Refers t w ∧ Link.ofReference s w = .ok l) hs.draft hs.draft t
    hname fun w hw => by
      rw [LikeReference]
      cases hlink : Link.ofReference s w with
      | ok l => exact .inl ⟨l, l, rfl, rfl, rfl, w, hw, hlink⟩
      | error fault => exact .inr ⟨fault, fault, rfl, rfl⟩
  obtain ⟨d, -, hd⟩ := hlike.node.covers.1 _ hnext
  cases hd with
  | resolve hd =>
    obtain ⟨rfl, w, hw, hlink⟩ := hd
    obtain ⟨hsource, hrecursive, hdocument⟩ := of_ofReference (hsettled w hw) hholds.1 hlink
    exact ⟨⟨schema, hsource ▸ hholds⟩, hrecursive, hdocument⟩

theorem plain_of_isIn (hs : s.IsIn all t) : (read s t).node.Like Eq (read s t).node := by
  exact (read_like hs.draft hs.draft t (h.isNameless_of_isIn hs).1 fun w _ => .of_eq).node

theorem exists_isIn_of_find (hlink : link.IsIn all) (hfind : all.find link = .ok (s, t)) :
    other.find (link.relocate (documentUri name)) = .ok (s.relocate (documentUri name), t) ∧ s.IsIn all t := by
  obtain ⟨source, hsource⟩ := hlink.source
  obtain ⟨hother, hdraft, hpart⟩ := h.find_relocate hsource hlink.recursive hlink.document hfind
  exact ⟨hother, hdraft, hpart⟩

variable (hname : IsWord name)

include hname

/-- A part of a held document reads the same where it has been relocated. -/
theorem like_relocate (hs : s.IsIn all t) :
    (read s t).node.Like (fun l l' => l' = l.relocate (documentUri name)) (read (s.relocate (documentUri name)) t).node := by
  obtain ⟨hnameless, hsettled⟩ := h.isNameless_of_isIn hs
  have hdraft : (s.relocate (documentUri name)).draft = .draft7 := hs.draft
  exact (read_like hs.draft hdraft t hnameless fun w hw => ofReference_relocate hname (hsettled w hw)).node

theorem like_relocate_flip (hs : s.IsIn all t) :
    (read (s.relocate (documentUri name)) t).node.Like (fun l' l => l' = l.relocate (documentUri name)) (read s t).node := by
  obtain ⟨hnameless, hsettled⟩ := h.isNameless_of_isIn hs
  have hdraft : (s.relocate (documentUri name)).draft = .draft7 := hs.draft
  exact (read_like hdraft hs.draft t hnameless fun w hw => (ofReference_relocate hname (hsettled w hw)).flip).node

end Reading

/-! ### Links -/

section Linking

variable (h : Relocated (documentUri name) all other)

/-- What a program leads to is read from held documents, and demands no other links. -/
structure Linked (all : Resources) (p : Program) (s : Setting) (t : Tree) : Prop where
  isIn : s.IsIn all t
  settles : p.links.Settles (read s t).node.demands

variable {schema : Tree} {p : Program} {links : Links} {self : Link}

include h

theorem linked_of_build (hroot : all.Holds rootUri schema) (hp : Program.build all rootUri schema = .ok p) :
    p.root = (read rootPlace schema).node ∧ Linked all p rootPlace schema ∧
      ∀ link n, p.links.node? link = some n → link.IsIn all ∧
        ∃ s t, all.find link = .ok (s, t) ∧ n = (read s t).node ∧ Linked all p s t := by
  have hplace : rootPlace.IsIn all schema := ⟨rfl, schema, hroot, .refl schema⟩
  obtain ⟨hnode, hsettle⟩ := Program.build_eq_ok_iff.1 hp
  obtain ⟨-, hsound⟩ := Program.build_sound hp
  rw [rootSetting_of_isNameless (h.nameless _ _ hroot)] at hnode
  obtain ⟨hclosed, hsettles, -⟩ := Links.settle_closed hsettle Links.pending_nil
  have hkeys : ∀ link ∈ p.links.keys, link.IsIn all := by
    refine Links.settle_forall hsettle (fun _ hl => absurd hl List.not_mem_nil) (fun link hlink => ?_)
      fun link s t hlink hfind next hnext => ?_
    · rw [hnode] at hlink
      exact h.isIn_of_demand hplace hlink
    · exact h.isIn_of_demand (h.exists_isIn_of_find hlink hfind).2 hnext
  rw [hnode] at hsettles
  refine ⟨hnode, ⟨hplace, hsettles⟩, fun link n hn => ?_⟩
  have hlink := hkeys link (Links.isSome_node?_iff.1 (Option.isSome_of_eq_some hn))
  obtain ⟨s, t, hfind, rfl⟩ := hsound link n hn
  exact ⟨hlink, s, t, hfind, rfl, (h.exists_isIn_of_find hlink hfind).2, hclosed link _ hn⟩

theorem isSettled_of_build (hroot : all.Holds rootUri schema) (hp : Program.build all rootUri schema = .ok p) :
    p.IsSettled where
  closed := by
    obtain ⟨-, hsettle⟩ := Program.build_eq_ok_iff.1 hp
    exact (Links.settle_closed hsettle Links.pending_nil).1
  plain := by
    intro link n hn
    obtain ⟨-, s, t, -, rfl, hlinked⟩ := (h.linked_of_build hroot hp).2.2 link n hn
    exact h.plain_of_isIn hlinked.isIn

variable (hname : IsWord name) (hroot : all.Holds rootUri schema) (hp : Program.build all rootUri schema = .ok p)

include hname

/-- What a relocated tree demands are relocated links. -/
theorem exists_of_mem_demands (hlinked : Linked all p s t) {d : Demand}
    (hd : d ∈ (read (s.relocate (documentUri name)) t).node.demands) :
    ∃ link ∈ p.links.keys, d = .resolve (link.relocate (documentUri name)) := by
  obtain ⟨d', hd', hlike⟩ := (h.like_relocate hname hlinked.isIn).covers.1 d hd
  obtain ⟨link, rfl, hlink⟩ := hlinked.settles d' hd'
  cases hlike with
  | resolve heq => exact ⟨link, Links.isSome_node?_iff.1 hlink, by rw [heq]⟩

include hroot hp

omit hname in
/-- A relocated link leads to what the link leads to, relocated. -/
theorem exists_find_relocate {link : Link} (hlink : link ∈ p.links.keys) :
    ∃ s t, Linked all p s t ∧
      other.find (link.relocate (documentUri name)) = .ok (s.relocate (documentUri name), t) := by
  obtain ⟨n, hn⟩ := Option.isSome_iff_exists.1 (Links.isSome_node?_iff.2 hlink)
  obtain ⟨hisIn, s, t, hfind, -, hlinked⟩ := (h.linked_of_build hroot hp).2.2 link n hn
  exact ⟨s, t, hlinked, (h.exists_isIn_of_find hisIn hfind).1⟩

/-- The links behind the schema itself can be settled where the documents have been relocated. -/
theorem exists_settle (hself : other.find self = .ok (rootPlace.relocate (documentUri name), schema))
    (hroom : p.links.length < Links.maxLinks) :
    ∃ links, Links.settle other Links.maxLinks [] [.resolve self] = .ok links := by
  have hdemands : ∀ {s t}, Linked all p s t → ∀ d ∈ (read (s.relocate (documentUri name)) t).node.demands,
      ∃ next ∈ self :: p.links.keys.map (Link.relocate (documentUri name)), d = .resolve next := by
    intro s t hlinked d hd
    obtain ⟨link, hlink, rfl⟩ := h.exists_of_mem_demands hname hlinked hd
    exact ⟨_, List.mem_cons_of_mem _ (List.mem_map_of_mem hlink), rfl⟩
  have hall : ∀ link ∈ self :: p.links.keys.map (Link.relocate (documentUri name)), ∃ s t,
      other.find link = .ok (s, t) ∧ ∀ d ∈ (read s t).node.demands,
        ∃ next ∈ self :: p.links.keys.map (Link.relocate (documentUri name)), d = .resolve next := by
    rw [List.forall_mem_cons, List.forall_mem_map]
    refine ⟨⟨_, _, hself, hdemands (h.linked_of_build hroot hp).2.1⟩, fun link hlink => ?_⟩
    obtain ⟨s, t, hlinked, hfind⟩ := h.exists_find_relocate hroot hp hlink
    exact ⟨_, _, hfind, hdemands hlinked⟩
  refine Links.exists_settle hall (List.nil_subset _) List.nodup_nil ?_ ?_
  · rw [List.forall_mem_singleton]
    exact ⟨self, List.mem_cons_self .., rfl⟩
  · rw [List.length_cons, List.length_map, Links.keys, List.length_map]
    exact hroom

section Settled

variable (hself : other.find self = .ok (rootPlace.relocate (documentUri name), schema))
variable (hlinks : Links.settle other Links.maxLinks [] [.resolve self] = .ok links)

include hself hlinks

/-- Everything behind the schema itself has been relocated. -/
theorem exists_of_node? {link : Link} {n : Node} (hn : links.node? link = some n) :
    ∃ s t, Linked all p s t ∧ n = (read (s.relocate (documentUri name)) t).node := by
  have hkeys : ∀ link ∈ links.keys, ∃ s t, Linked all p s t ∧
      other.find link = .ok (s.relocate (documentUri name), t) := by
    refine Links.settle_forall hlinks (fun _ hl => absurd hl List.not_mem_nil) (fun link hlink => ?_) ?_
    · cases List.mem_singleton.1 hlink
      exact ⟨_, _, (h.linked_of_build hroot hp).2.1, hself⟩
    · rintro link _ _ ⟨s, t, hlinked, hfind⟩ hfind' next hnext
      rw [hfind] at hfind'
      cases hfind'
      obtain ⟨l, hl, heq⟩ := h.exists_of_mem_demands hname hlinked hnext
      cases heq
      exact h.exists_find_relocate hroot hp hl
  obtain ⟨s, t, hlinked, hfind⟩ := hkeys link (Links.isSome_node?_iff.1 (Option.isSome_of_eq_some hn))
  exact ⟨s, t, hlinked, (Links.settle_sound hlinks Links.sound_nil).node_eq hn hfind⟩

theorem plain_of_settle {link : Link} {n : Node} (hn : links.node? link = some n) : n.Like Eq n := by
  obtain ⟨s, t, hlinked, rfl⟩ := h.exists_of_node? hname hroot hp hself hlinks hn
  have hdraft : (s.relocate (documentUri name)).draft = .draft7 := hlinked.isIn.draft
  refine (read_like hdraft hdraft t (h.isNameless_of_isIn hlinked.isIn).1 fun w _ => ?_).node
  exact .of_eq

omit hroot hp hself in
/-- What a held tree demands is relocated along with it. -/
private theorem relocate_mem_keys_of_demand {link : Link} {s : Setting} {t : Tree} (hkey : link ∈ links.keys)
    (hs : s.IsIn all t) (hfind : other.find link = .ok (s.relocate (documentUri name), t)) {next : Link}
    (hnext : .resolve next ∈ (read s t).node.demands) : next.relocate (documentUri name) ∈ links.keys := by
  obtain ⟨hclosed, -, -⟩ := Links.settle_closed hlinks Links.pending_nil
  obtain ⟨n, hn⟩ := Option.isSome_iff_exists.1 (Links.isSome_node?_iff.2 hkey)
  obtain rfl := (Links.settle_sound hlinks Links.sound_nil).node_eq hn hfind
  obtain ⟨d, hd, hlike⟩ := (h.like_relocate_flip hname hs).covers.1 _ hnext
  cases hlike with
  | resolve heq =>
    rw [← heq]
    exact Links.isSome_node?_iff.1 ((hclosed link _ hn).isSome hd)

/-- Every link of the program has been relocated, since each is demanded by the schema or behind one of its links. -/
theorem relocate_mem_keys {link : Link} (hlink : link ∈ p.links.keys) :
    link.relocate (documentUri name) ∈ links.keys := by
  obtain ⟨-, hsettles, -⟩ := Links.settle_closed hlinks Links.pending_nil
  obtain ⟨hnode, hlinked, -⟩ := h.linked_of_build hroot hp
  have hall : ∀ link ∈ p.links.keys, link.IsIn all ∧ link.relocate (documentUri name) ∈ links.keys := by
    obtain ⟨-, hsettle⟩ := Program.build_eq_ok_iff.1 hp
    refine Links.settle_forall hsettle (fun _ hl => absurd hl List.not_mem_nil) (fun link hd => ?_) ?_
    · rw [hnode] at hd
      have hself' := Links.isSome_node?_iff.1 (hsettles.isSome (List.mem_singleton_self _))
      exact ⟨h.isIn_of_demand hlinked.isIn hd,
        h.relocate_mem_keys_of_demand hname hlinks hself' hlinked.isIn hself hd⟩
    · rintro link s t ⟨hisIn, hkey⟩ hfind next hnext
      obtain ⟨hfind', hs⟩ := h.exists_isIn_of_find hisIn hfind
      exact ⟨h.isIn_of_demand hs hnext, h.relocate_mem_keys_of_demand hname hlinks hkey hs hfind' hnext⟩
  exact (hall link hlink).2

/-- The program behind the schema itself does what the program of the schema does. -/
theorem simulates (root : Node) : Program.Simulates (Link.relocate (documentUri name)) p ⟨root, links⟩ where
  nodes := by
    intro link n hn
    have hkey := Links.isSome_node?_iff.1 (Option.isSome_of_eq_some hn)
    obtain ⟨n', hn'⟩ := Option.isSome_iff_exists.1
      (Links.isSome_node?_iff.2 (h.relocate_mem_keys hname hroot hp hself hlinks hkey))
    obtain ⟨hisIn, s, t, hfind, rfl, hlinked⟩ := (h.linked_of_build hroot hp).2.2 link n hn
    obtain rfl := (Links.settle_sound hlinks Links.sound_nil).node_eq hn' (h.exists_isIn_of_find hisIn hfind).1
    exact ⟨_, hn', h.like_relocate hname hlinked.isIn⟩
  next := by
    rintro link next ⟨n, hn, hnext⟩
    have hdemand := (h.plain_of_settle hname hroot hp hself hlinks hn).demanded hnext
    obtain ⟨s, t, hlinked, rfl⟩ := h.exists_of_node? hname hroot hp hself hlinks hn
    obtain ⟨l, hl, heq⟩ := h.exists_of_mem_demands hname hlinked hdemand
    cases heq
    exact ⟨l, Links.isSome_node?_iff.2 hl, rfl⟩

end Settled

end Linking

end Relocated

end Resources

end YamlSchema.Schema
