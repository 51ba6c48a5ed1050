import YamlSchema.Proofs.Schema.DocumentUri
import YamlSchema.Proofs.Schema.Rereading

/-!
# A schema under its own URI

A schema that is compiled stands under the root URI, and where another schema names it by its identifier it stands under
the URI of this.  Its links go along with it: a reference that does not depend on which schema is compiled means the
relocated link (`ofReference_relocate`), and where the documents have been relocated, that link leads to the same tree
(`Resources.find_relocate`).
-/

namespace YamlSchema.Schema

/-- Where a document stands when the compiled schema stands under another URI. -/
def relocate (uri d : Uri) : Uri := if d = rootUri then uri else d

theorem relocate_rootUri (uri : Uri) : relocate uri rootUri = uri := if_pos rfl

theorem relocate_of_ne {uri d : Uri} (h : d ≠ rootUri) : relocate uri d = d := if_neg h

def Scope.relocate (uri : Uri) (scope : Scope) : Scope :=
  { scope with recursive := scope.recursive.map (Schema.relocate uri) }

def Setting.relocate (uri : Uri) (s : Setting) : Setting :=
  { s with base := Schema.relocate uri s.base, scope := s.scope.relocate uri }

def Link.relocate (uri : Uri) (link : Link) : Link :=
  { link with
    source := Schema.relocate uri link.source
    document := Schema.relocate uri link.document
    scope := link.scope.relocate uri }

/-! ### References -/

/-- A URI means neither the document that is compiled nor one of the drafts' documents. -/
def IsElsewhere (uri : Uri) : Prop :=
  ¬ IsRoot uri ∧ OrderedMap.contains Resources.bundled.documents (Uri.splitFragment uri).1 = false

/-- In a document a reference stays there, or it means another document, whichever is compiled: a fragment stays, and so
does an empty reference in the compiled document; any other reference goes elsewhere, with its fragment or without. -/
def IsSettled (d : Uri) (reference : String) : Prop :=
  startsWith reference "#" = true ∨ (reference = "" ∧ d = rootUri) ∨
    ∀ text ∈ [reference, (Uri.splitFragment reference).1], ∀ uri, Uri.resolve d text = .ok uri → IsElsewhere uri

theorem ne_rootUri_of_isElsewhere {uri : Uri} (h : IsElsewhere uri) : uri ≠ rootUri := by
  rintro rfl
  exact h.1 isRoot_rootUri

section Reference

variable {name : String} (hname : IsWord name) {d : Uri} {text : String}

include hname

/-- What goes elsewhere goes to the same document from both URIs. -/
theorem resolve_relocate (h : ∀ uri, Uri.resolve d text = .ok uri → IsElsewhere uri) :
    Uri.resolve (relocate (documentUri name) d) text = Uri.resolve d text := by
  by_cases hd : d = rootUri
  · subst hd
    rw [relocate_rootUri]
    rcases resolve_documentUri hname text with hsame | ⟨uri, uri', huri, -, hroot⟩
    · exact hsame
    · exact absurd hroot (h uri huri).1
  · rw [relocate_of_ne hd]

/-- What means something from one of the URIs means something from the other one too. -/
theorem isOk_resolve_relocate (text : String) :
    (Uri.resolve (relocate (documentUri name) d) text).isOk = (Uri.resolve d text).isOk := by
  by_cases hd : d = rootUri
  · subst hd
    rw [relocate_rootUri]
    rcases resolve_documentUri hname text with hsame | ⟨uri, uri', huri, huri', -⟩
    · rw [hsame]
    · rw [huri, huri']
      rfl
  · rw [relocate_of_ne hd]

end Reference

theorem exists_splitFragment_of_hash {text : String} (h : startsWith text "#" = true) :
    ∃ fragment, Uri.splitFragment text = ("", some fragment) := by
  rw [startsWith, List.isPrefixOf_iff_prefix] at h
  obtain ⟨rest, hrest⟩ := h
  refine ⟨String.ofList rest, ?_⟩
  unfold Uri.splitFragment
  dsimp only
  rw [← hrest]
  simp

section Link

variable {name : String} {s : Setting} {reference : String} {link : Link}

/-- What a reference means whose fragment stays in the document. -/
theorem ofReference_of_hash {fragment : String} (h : Uri.splitFragment reference = ("", some fragment)) :
    Link.ofReference s reference =
      (Uri.resolve s.base reference).map fun _ => ⟨s.base, s.base, fragment, false, s.scope⟩ := by
  unfold Link.ofReference
  rw [h]
  cases Uri.resolve s.base reference <;> rfl

/-- What any other reference means. -/
theorem ofReference_of_document (h : ∀ fragment, Uri.splitFragment reference ≠ ("", some fragment)) :
    Link.ofReference s reference = (Uri.resolve s.base reference).bind fun _ =>
      (Uri.resolve s.base (Uri.splitFragment reference).1).map fun document =>
        ⟨s.base, document, (Uri.splitFragment reference).2.getD "", false, s.scope⟩ := by
  unfold Link.ofReference
  cases Uri.resolve s.base reference with
  | error fault => rfl
  | ok uri =>
    simp only [bind, Except.bind]
    split
    · rename_i fragment heq
      exact absurd heq (h fragment)
    · rename_i document fragment _ heq
      rw [heq]
      cases Uri.resolve s.base document <;> rfl

/-- A settled reference means the relocated link from the relocated place. -/
theorem ofReference_relocate (hname : IsWord name) (h : IsSettled s.base reference) :
    LikeReference (fun link link' => link' = link.relocate (documentUri name)) s (s.relocate (documentUri name))
      reference := by
  have hok := isOk_resolve_relocate hname (d := s.base) reference
  by_cases hfragment : ∃ fragment, Uri.splitFragment reference = ("", some fragment)
  · obtain ⟨fragment, hfragment⟩ := hfragment
    rw [LikeReference, ofReference_of_hash hfragment, ofReference_of_hash hfragment]
    change (Uri.resolve (s.relocate (documentUri name)).base reference).isOk = _ at hok
    generalize Uri.resolve s.base reference = means, Uri.resolve (s.relocate (documentUri name)).base reference = means'
      at hok ⊢
    cases means with
    | ok uri =>
      cases means' with
      | ok uri' => exact .inl ⟨_, _, rfl, rfl, rfl⟩
      | error fault => cases hok
    | error fault =>
      cases means' with
      | ok uri' => cases hok
      | error fault' => exact .inr ⟨_, _, rfl, rfl⟩
  · rw [not_exists] at hfragment
    have hbase : (s.relocate (documentUri name)).base = relocate (documentUri name) s.base := rfl
    rw [LikeReference, ofReference_of_document hfragment, ofReference_of_document hfragment, hbase]
    rcases h with hhash | ⟨rfl, hroot⟩ | helsewhere
    · obtain ⟨fragment, heq⟩ := exists_splitFragment_of_hash hhash
      exact absurd heq (hfragment fragment)
    · -- the empty reference means the document in which it stands, whatever its URI is
      have hsplit : (Uri.splitFragment "").1 = "" := rfl
      rw [hroot, relocate_rootUri, hsplit, resolve_rootUri_empty, resolve_documentUri_empty hname]
      refine .inl ⟨_, _, rfl, rfl, ?_⟩
      simp [Link.relocate, Setting.relocate, hroot, relocate_rootUri]
    · rw [resolve_relocate hname (helsewhere _ (by simp)), resolve_relocate hname (helsewhere _ (by simp))]
      cases Uri.resolve s.base reference with
      | error fault => exact .inr ⟨_, _, rfl, rfl⟩
      | ok uri =>
        cases hdocument : Uri.resolve s.base (Uri.splitFragment reference).1 with
        | error fault => exact .inr ⟨_, _, rfl, rfl⟩
        | ok document =>
          have hne := ne_rootUri_of_isElsewhere (helsewhere _ (by simp) document hdocument)
          refine .inl ⟨_, _, rfl, rfl, ?_⟩
          simp [Link.relocate, Setting.relocate, relocate_of_ne hne]

/-- The documents of the drafts have URIs without a fragment. -/
theorem not_contains_of_isElsewhere {uri : Uri} (h : IsElsewhere uri) :
    OrderedMap.contains Resources.bundled.documents uri = false := by
  rw [Bool.eq_false_iff, ne_eq, OrderedMap.contains_iff]
  intro hmem
  have hcontains := h.2
  rw [(plain_of_mem_bundled uri hmem).2, Bool.eq_false_iff, ne_eq, OrderedMap.contains_iff] at hcontains
  exact hcontains hmem

/-- A link starts in the document of its reference, and a settled one leads to none of the drafts' documents. -/
theorem of_ofReference (h : IsSettled s.base reference)
    (hbase : OrderedMap.contains Resources.bundled.documents s.base = false)
    (hlink : Link.ofReference s reference = .ok link) :
    link.source = s.base ∧ link.recursive = false ∧
      OrderedMap.contains Resources.bundled.documents link.document = false := by
  by_cases hfragment : ∃ fragment, Uri.splitFragment reference = ("", some fragment)
  · obtain ⟨fragment, hfragment⟩ := hfragment
    rw [ofReference_of_hash hfragment] at hlink
    cases hmeans : Uri.resolve s.base reference with
    | error fault => rw [hmeans] at hlink; cases hlink
    | ok uri =>
      rw [hmeans] at hlink
      cases hlink
      exact ⟨rfl, rfl, hbase⟩
  · rw [not_exists] at hfragment
    rw [ofReference_of_document hfragment] at hlink
    cases hmeans : Uri.resolve s.base reference with
    | error fault => rw [hmeans] at hlink; cases hlink
    | ok uri =>
      cases hdocument : Uri.resolve s.base (Uri.splitFragment reference).1 with
      | error fault => rw [hmeans, hdocument] at hlink; cases hlink
      | ok document =>
        rw [hmeans, hdocument] at hlink
        cases hlink
        refine ⟨rfl, rfl, ?_⟩
        rcases h with hhash | ⟨rfl, hroot⟩ | helsewhere
        · obtain ⟨fragment, heq⟩ := exists_splitFragment_of_hash hhash
          exact absurd heq (hfragment fragment)
        · have hsplit : (Uri.splitFragment "").1 = "" := rfl
          rw [hroot, hsplit, resolve_rootUri_empty] at hdocument
          cases hdocument
          exact not_contains_rootUri
        · exact not_contains_of_isElsewhere (helsewhere _ (by simp) document hdocument)

end Link

/-! ### Documents -/

namespace Resources

/-- A document is there that is none of the drafts' documents. -/
def Holds (r : Resources) (d : Uri) (schema : Tree) : Prop :=
  OrderedMap.contains bundled.documents d = false ∧ ∃ draft, OrderedMap.get? r.documents d = some ⟨draft, schema⟩

/-- The documents of some resources are there in other ones, with the compiled one under another URI; none of them gives
itself a name, and no reference in them depends on which schema is compiled. -/
structure Relocated (uri : Uri) (all other : Resources) : Prop where
  home : OrderedMap.contains bundled.documents uri = false
  anchors : all.anchors = bundled.anchors
  others : other.anchors = bundled.anchors
  nameless : ∀ d t, all.Holds d t → IsNameless t
  settled : ∀ d t, all.Holds d t → ∀ w, Refers t w → IsSettled d w
  documents : ∀ d t, all.Holds d t → OrderedMap.get? all.documents d = some ⟨.draft7, t⟩ ∧
    OrderedMap.get? other.documents (relocate uri d) = some ⟨.draft7, t⟩

/-- Only the drafts' documents have anchors. -/
theorem anchors_of_not_contains {r : Resources} (h : r.anchors = bundled.anchors) {d : Uri}
    (hd : OrderedMap.contains bundled.documents d = false) : ∀ a ∈ r.anchors, a.document ≠ d := by
  rw [h]
  rintro a ha rfl
  obtain ⟨document, hdocument, ha⟩ := List.mem_flatMap.1 (List.mem_reverse.1 ha)
  obtain ⟨anchor, -, rfl⟩ := List.mem_map.1 ha
  have hmem : publishedUri document ∈ OrderedMap.keys bundled.documents := by
    rw [OrderedMap.keys, bundled, List.map_map]
    exact List.mem_map_of_mem (f := fun d => publishedUri d) hdocument
  rw [OrderedMap.contains_iff.2 hmem] at hd
  cases hd

variable {uri : Uri} {all other : Resources}

theorem anchored?_eq_none {r : Resources} (h : r.anchors = bundled.anchors) {d : Uri} {t : Tree}
    (hd : OrderedMap.contains bundled.documents d = false)
    (hget : OrderedMap.get? r.documents d = some ⟨.draft7, t⟩) (ht : IsNameless t) (name : String) :
    r.anchored? d name = none := by
  have hown : (t.object?.bind (Draft.ownId? .draft7)) = none := by
    cases t with
    | object members => exact ht.ownId?
    | _ => rfl
  have hlookup : r.anchors.find? (fun a => a.document = d && a.anchor.name = name) = none := by
    rw [List.find?_eq_none]
    intro a ha
    have hne := anchors_of_not_contains h hd a ha
    simp [hne]
  unfold anchored?
  dsimp only
  rw [hget, Option.bind_some, hown, hlookup]
  rfl

namespace Relocated

theorem not_contains_relocate (h : Relocated uri all other) {d : Uri}
    (hd : OrderedMap.contains bundled.documents d = false) :
    OrderedMap.contains bundled.documents (relocate uri d) = false := by
  unfold relocate
  split
  · exact h.home
  · exact hd

theorem hasRecursiveAnchor_eq (h : Relocated uri all other) {d : Uri} {t : Tree} (hd : all.Holds d t) :
    other.hasRecursiveAnchor (relocate uri d) = all.hasRecursiveAnchor d := by
  obtain ⟨hall, hother⟩ := h.documents d t hd
  rw [hasRecursiveAnchor, hasRecursiveAnchor, hall, hother]

theorem extend_eq (h : Relocated uri all other) (scope : Scope) {d : Uri} {t : Tree} (hd : all.Holds d t) :
    other.extend (scope.relocate uri) (relocate uri d) = (all.extend scope d).relocate uri := by
  have hstatic : ∀ {r : Resources} {d : Uri}, r.anchors = bundled.anchors →
      OrderedMap.contains bundled.documents d = false →
      (r.anchors.any fun a => a.document = d && a.anchor.dynamic) = false := by
    intro r d hr hd
    rw [List.any_eq_false]
    intro a ha
    have hne := anchors_of_not_contains hr hd a ha
    simp [hne]
  unfold extend
  dsimp only
  rw [hstatic h.anchors hd.1, hstatic h.others (h.not_contains_relocate hd.1), h.hasRecursiveAnchor_eq hd]
  cases all.hasRecursiveAnchor d with
  | false => rfl
  | true =>
    obtain ⟨dynamic, recursive⟩ := scope
    cases recursive <;> rfl

/-- What a link leads to, the relocated link leads to where the documents have been relocated. -/
theorem find_relocate (h : Relocated uri all other) {link : Link} {source : Tree} (hsource : all.Holds link.source source)
    (hrecursive : link.recursive = false) (hdocument : OrderedMap.contains bundled.documents link.document = false)
    {s : Setting} {t : Tree} (hfind : all.find link = .ok (s, t)) :
    other.find (link.relocate uri) = .ok (s.relocate uri, t) ∧ s.draft = .draft7 ∧
      ∃ schema, all.Holds s.base schema ∧ schema.HasPart t := by
  unfold find at hfind ⊢
  simp only [Link.relocate, hrecursive, Bool.false_and] at hfind ⊢
  rw [h.extend_eq link.scope hsource]
  generalize all.extend link.scope link.source = scope at hfind ⊢
  cases hget : OrderedMap.get? all.documents link.document with
  | none =>
    rw [hget] at hfind
    cases hfind
  | some resource =>
    obtain ⟨draft, schema⟩ := resource
    have hholds : all.Holds link.document schema := ⟨hdocument, draft, hget⟩
    obtain ⟨hall, hother⟩ := h.documents _ _ hholds
    have hname := h.nameless _ _ hholds
    rw [hall] at hfind
    rw [hother]
    dsimp only at hfind ⊢
    split at hfind
    · cases hfind
      exact ⟨rfl, rfl, _, hholds, .refl _⟩
    · split at hfind
      · cases hfind
      · rename_i decoded _
        rcases walk_of_isNameless link.fragment (splitChars '/' decoded.toList) schema hname with ⟨why, hwhy⟩ |
          ⟨part, hpart, hwalk⟩
        · rw [hwhy] at hfind
          cases hfind
        · rw [hwalk] at hfind
          rw [hwalk]
          cases hfind
          exact ⟨rfl, rfl, schema, hholds, hpart⟩
    · -- no document that is held has anchors
      unfold findAnchor at hfind
      rw [anchored?_eq_none h.anchors hdocument hall hname] at hfind
      cases hfind

end Relocated

end Resources

end YamlSchema.Schema
