import YamlSchema.Proofs.Schema.Nameless
import YamlSchema.Proofs.Schema.Retrieval

/-!
# What links lead to

Whatever a link leads to is a part of the schema that is compiled, of a document of the drafts, or of a reference after
lowering (`Supplied`): nothing else is ever at hand, neither at first nor after a document has been taken up
(`allSupplied_of_gather`), and a link leads to parts of what is at hand (`supplied_of_find`).
-/

namespace YamlSchema.Schema

/-- The trees that a schema may be made of: itself, the documents of the drafts, the lowered references, and the parts of
them. -/
inductive Supplied (references : References) (schema : Tree) : Tree → Prop
  | schema : Supplied references schema schema
  | published {d : Draft × Tree} (h : d ∈ MetaSchema.published) : Supplied references schema d.2
  | reference {id : String} {t : Tree} (h : OrderedMap.get? references id = some t) :
      Supplied references schema (lower t)
  | part {t part : Tree} (h : Supplied references schema t) (hpart : t.HasPart part) : Supplied references schema part

namespace Resources

/-- All documents and all that has an anchor is supplied. -/
structure AllSupplied (references : References) (schema : Tree) (r : Resources) : Prop where
  documents : ∀ d ∈ r.documents, Supplied references schema d.2.schema
  anchors : ∀ a ∈ r.anchors, Supplied references schema a.resource.schema

variable {references : References} {schema : Tree} {r next all : Resources}

theorem supplied_insert (h : ∀ d ∈ r.documents, Supplied references schema d.2.schema) (uri : Uri)
    {resource : Resource} (hresource : Supplied references schema resource.schema) :
    ∀ d ∈ OrderedMap.insert r.documents uri resource, Supplied references schema d.2.schema := by
  intro d hd
  rcases OrderedMap.mem_or_eq_of_mem_insert hd with hd | rfl
  · exact h d hd
  · exact hresource

/-! ### Gathering -/

theorem allSupplied_start (uri : Uri) : AllSupplied references schema (start uri schema) := by
  have hbundled : AllSupplied references schema bundled := by
    constructor
    · rw [bundled, List.forall_mem_map]
      exact fun d hd => .published hd
    · intro a ha
      rw [bundled, List.mem_reverse, List.mem_flatMap] at ha
      obtain ⟨d, hd, ha⟩ := ha
      obtain ⟨_, -, rfl⟩ := List.mem_map.1 ha
      exact .published hd
  exact ⟨supplied_insert hbundled.documents uri .schema, hbundled.anchors⟩

theorem AllSupplied.enter (h : AllSupplied references schema r) {p : Place}
    (hp : Supplied references schema (.object p.members)) : AllSupplied references schema (r.enter p) := by
  constructor
  · rw [Resources.enter]
    dsimp only
    split
    · exact supplied_insert h.documents p.uri hp
    · exact h.documents
  · intro a ha
    rw [Resources.enter, List.mem_append, List.mem_reverse] at ha
    rcases ha with ha | ha
    · obtain ⟨_, -, rfl⟩ := List.mem_map.1 ha
      exact hp
    · exact h.anchors a ha

theorem AllSupplied.foldl_enter {found : List Place}
    (hfound : ∀ p ∈ found, Supplied references schema (.object p.members)) (h : AllSupplied references schema r) :
    AllSupplied references schema (found.foldl Resources.enter r) :=
  List.foldlRecOn found Resources.enter h fun _ hr p hp => hr.enter (hfound p hp)

/-- What is surveyed stands in the documents that are to be surveyed. -/
theorem supplied_of_mem_survey {queue : List Errand} (h : ∀ e ∈ queue, Supplied references schema e.schema) :
    ∀ p ∈ survey queue, Supplied references schema (.object p.members) := by
  intro p hp
  rw [survey, List.mem_mergeSort] at hp
  obtain ⟨e, he, hp⟩ := List.mem_flatMap.1 hp
  exact (h e he).part (hasPart_of_mem_places 0 e.draft e.base e.schema hp)

theorem AllSupplied.retrieve (h : AllSupplied references schema r) {uri : Uri} {errands : List Errand}
    (hretrieve : Resources.retrieve references r uri = .ok (next, errands)) :
    AllSupplied references schema next ∧ ∀ e ∈ errands, Supplied references schema e.schema := by
  rcases retrieve_cases hretrieve with ⟨-, rfl, rfl⟩ | ⟨-, t, draft, inner, ht, rfl, rfl, hinner⟩
  · exact ⟨h, List.forall_mem_nil _⟩
  have hsource : Supplied references schema (lower t) := .reference ht
  refine ⟨⟨supplied_insert h.documents _ hsource, h.anchors⟩, List.forall_mem_append.2 ⟨fun e he => ?_, ?_⟩⟩
  · obtain ⟨pointer, -, hpointer⟩ := hinner e he
    exact hsource.part (.of_pointer? hpointer)
  · rw [List.forall_mem_singleton]
    exact hsource

theorem AllSupplied.retrieveAll {uris : List Uri} : ∀ {r : Resources} {errands : List Errand},
    AllSupplied references schema r → Resources.retrieveAll references r uris = .ok (next, errands) →
      AllSupplied references schema next ∧ ∀ e ∈ errands, Supplied references schema e.schema := by
  induction uris with
  | nil =>
    intro r errands h hretrieve
    cases hretrieve
    exact ⟨h, List.forall_mem_nil _⟩
  | cons uri rest ih =>
    intro r errands h hretrieve
    obtain ⟨middle, first, more, hone, hmore, rfl⟩ := retrieveAll_cons_eq_ok_iff.1 hretrieve
    obtain ⟨hmiddle, hfirst⟩ := h.retrieve hone
    obtain ⟨hnext, hrest⟩ := ih hmiddle hmore
    exact ⟨hnext, List.forall_mem_append.2 ⟨hfirst, hrest⟩⟩

theorem AllSupplied.collect {rounds : Nat} : ∀ {r : Resources} {queue : List Errand},
    AllSupplied references schema r → (∀ e ∈ queue, Supplied references schema e.schema) →
      Resources.collect references rounds r queue = .ok all → AllSupplied references schema all := by
  induction rounds with
  | zero =>
    intro r queue _ _ hcollect
    cases hcollect
  | succ rounds ih =>
    intro r queue h hqueue hcollect
    obtain ⟨wanted, next, rest, -, hnext, hlast⟩ := collect_succ_eq_ok_iff.1 hcollect
    obtain ⟨hsupplied, hrest⟩ := (h.foldl_enter (supplied_of_mem_survey hqueue)).retrieveAll hnext
    rcases hlast with ⟨-, rfl⟩ | ⟨-, hlater⟩
    · exact hsupplied
    · exact ih hsupplied hrest hlater

theorem allSupplied_of_gather {uri : Uri} (h : gather references uri schema = .ok all) :
    AllSupplied references schema all :=
  (allSupplied_start uri).collect (by simpa using .schema) h

/-! ### Finding -/

theorem AllSupplied.findAnchor (h : AllSupplied references schema r) {scope : Scope} {link : Link} {s : Setting}
    {t : Tree} (hfind : r.findAnchor scope link = .ok (s, t)) : Supplied references schema t := by
  have hanchored : ∀ {document name a}, r.anchored? document name = some a →
      Supplied references schema a.resource.schema := by
    intro document name a ha
    have hlookup : ∀ uri, (r.anchors.find? fun a => a.document = uri && a.anchor.name = name) = some a →
        Supplied references schema a.resource.schema := fun _ ha => h.anchors a (List.mem_of_find?_eq_some ha)
    rw [anchored?, Option.or_eq_some_iff] at ha
    rcases ha with ha | ⟨-, ha⟩
    · exact hlookup _ ha
    · obtain ⟨uri, -, ha⟩ := Option.bind_eq_some_iff.1 ha
      exact hlookup uri ha
  unfold Resources.findAnchor at hfind
  split at hfind
  · cases hfind
  rename_i own hown
  split at hfind
  · cases hfind
    cases houtermost : scope.dynamic.findSome? fun document =>
        (r.anchored? document link.fragment).filter fun a => a.anchor.dynamic with
    | none => exact hanchored hown
    | some outermost =>
      obtain ⟨document, -, ha⟩ := List.exists_of_findSome?_eq_some houtermost
      exact hanchored (Option.eq_some_of_filter_eq_some ha)
  · cases hfind
    exact hanchored hown

/-- A link leads to something that is supplied. -/
theorem AllSupplied.find (h : AllSupplied references schema r) {link : Link} {s : Setting} {t : Tree}
    (hfind : r.find link = .ok (s, t)) : Supplied references schema t := by
  unfold Resources.find at hfind
  dsimp only at hfind
  split at hfind
  · cases hfind
  rename_i resource hresource
  have hdocument := h.documents _ (OrderedMap.mem_of_get? hresource)
  split at hfind
  · cases hfind
    exact hdocument
  · split at hfind
    · cases hfind
    · obtain ⟨found, hwalk, hplaced⟩ := bind_eq_ok_iff.1 hfind
      cases hplaced
      exact hdocument.part (hasPart_of_walk hwalk)
  · exact h.findAnchor hfind

end Resources

end YamlSchema.Schema
