import Mathlib.Data.List.Sort
import YamlSchema.Proofs.Schema.Naming
import YamlSchema.Proofs.Schema.Retrieval

/-!
# Surveying a schema under its own URI

A schema is surveyed when it is compiled, and when another schema names it by its identifier.  The second survey does
what the first one does, from the relocated document (`Resources.collect_transfer`).  What the first one surveys under
the schema's own URI besides, the second has no need of, as it only leads to what is at hand already.
-/

namespace YamlSchema.Schema

section Sorting

variable {α β : Type}

/-- A list splits in only one way into elements without a property and elements with it. -/
private theorem append_inj_of_split {p : α → Prop} {xs xs' ys ys' : List α} (h : xs ++ ys = xs' ++ ys')
    (hxs : ∀ x ∈ xs, ¬ p x) (hxs' : ∀ x ∈ xs', ¬ p x) (hys : ∀ y ∈ ys, p y) (hys' : ∀ y ∈ ys', p y) :
    xs = xs' ∧ ys = ys' := by
  classical
  have hfilter : ∀ {xs ys : List α}, (∀ x ∈ xs, ¬ p x) → (∀ y ∈ ys, p y) → (xs ++ ys).filter (fun a => p a) = ys := by
    intro xs ys hxs hys
    rw [List.filter_append, List.filter_eq_nil_iff.2 fun x hx => by simpa using hxs x hx,
      List.filter_eq_self.2 fun y hy => by simpa using hys y hy, List.nil_append]
  have hsame : ys = ys' := by rw [← hfilter hxs hys, h, hfilter hxs' hys']
  subst hsame
  exact ⟨List.append_cancel_right h, rfl⟩

/-- Sorting puts the first element before those whose keys are no less than its own. -/
private theorem exists_mergeSort_cons {γ : Type} (key : γ → Nat) (a : γ) (l : List γ) : ∃ l₁ l₂,
    ((a :: l).mergeSort fun a b => key a ≤ key b) = l₁ ++ a :: l₂ ∧
    (l.mergeSort fun a b => key a ≤ key b) = l₁ ++ l₂ ∧ (∀ b ∈ l₁, ¬ key a ≤ key b) ∧ ∀ b ∈ l₂, key a ≤ key b := by
  have htrans : ∀ a b c : γ, decide (key a ≤ key b) = true → decide (key b ≤ key c) = true →
      decide (key a ≤ key c) = true := by
    simp only [decide_eq_true_eq]
    omega
  have htotal : ∀ a b : γ, (decide (key a ≤ key b) || decide (key b ≤ key a)) = true := by
    simp only [Bool.or_eq_true, decide_eq_true_eq]
    omega
  obtain ⟨l₁, l₂, hsort, hrest, hbefore⟩ := List.mergeSort_cons htrans htotal a l
  refine ⟨l₁, l₂, hsort, hrest, fun b hb => by simpa using hbefore b hb, fun b hb => ?_⟩
  have hsorted := List.pairwise_mergeSort htrans htotal (a :: l)
  rw [hsort, List.pairwise_append, List.pairwise_cons] at hsorted
  simpa using hsorted.2.1.1 b hb

/-- Sorting by a key is stable, so dropping and changing elements that keep their keys may come before or after it. -/
theorem filterMap_mergeSort (key : α → Nat) (key' : β → Nat) (f : α → Option β)
    (hf : ∀ a b, f a = some b → key' b = key a) (l : List α) :
    (l.mergeSort fun a b => key a ≤ key b).filterMap f = (l.filterMap f).mergeSort fun a b => key' a ≤ key' b := by
  induction l with
  | nil => simp
  | cons a rest ih =>
    obtain ⟨l₁, l₂, hsort, hrest, hbefore, hbehind⟩ := exists_mergeSort_cons key a rest
    rw [hrest, List.filterMap_append] at ih
    rw [hsort, List.filterMap_append, List.filterMap_cons]
    cases ha : f a with
    | none =>
      rw [List.filterMap_cons, ha]
      exact ih
    | some b =>
      rw [List.filterMap_cons, ha]
      obtain ⟨l₁', l₂', hsort', hrest', hbefore', hbehind'⟩ := exists_mergeSort_cons key' b (rest.filterMap f)
      rw [hrest'] at ih
      have hkey := hf a b ha
      obtain ⟨hfront, hback⟩ := append_inj_of_split (p := fun c => key' b ≤ key' c) ih
        (fun c hc => by
          obtain ⟨d, hd, hdc⟩ := List.mem_filterMap.1 hc
          rw [hkey, hf d c hdc]
          exact hbefore d hd) hbefore'
        (fun c hc => by
          obtain ⟨d, hd, hdc⟩ := List.mem_filterMap.1 hc
          rw [hkey, hf d c hdc]
          exact hbehind d hd) hbehind'
      rw [hsort', hfront, hback]

end Sorting

/-! ### What is transferred -/

/-- The same place when the schema is named, if it is surveyed then. -/
def Place.transfer (name : String) (p : Place) : Option Place :=
  if p.base = documentUri name then none else some { p with base := relocate (documentUri name) p.base }

namespace Resources

variable {name : String}

/-- What is surveyed in its place when the schema is named, if anything. -/
def Errand.transfer (name : String) (e : Errand) : Option Errand :=
  if e.base = documentUri name then none else some { e with base := relocate (documentUri name) e.base }

theorem mem_survey {queue : List Errand} {p : Place} :
    p ∈ survey queue ↔ ∃ e ∈ queue, p ∈ places 0 e.draft e.base e.schema := by
  rw [survey, List.mem_mergeSort, List.mem_flatMap]

theorem survey_singleton {e : Errand} (h : (places 0 e.draft e.base e.schema).Pairwise fun p q => p.level ≤ q.level) :
    survey [e] = places 0 e.draft e.base e.schema := by
  rw [survey, List.flatMap_singleton, List.mergeSort_of_pairwise (by simpa using h)]

/-- The places of what is transferred are the places transferred. -/
theorem places_transfer (e : Errand) (hdraft : e.draft = .draft7) (hname : IsNameless e.schema) :
    (places 0 e.draft e.base e.schema).filterMap (Place.transfer name) =
      ((e.transfer name).toList.flatMap fun e => places 0 e.draft e.base e.schema) := by
  rw [hdraft, Errand.transfer]
  split
  · rename_i hbase
    rw [Option.toList_none, List.flatMap_nil, List.filterMap_eq_nil_iff]
    intro p hp
    have hp' := congrArg Place.base (under_of_mem_places hname hp)
    rw [Place.transfer, if_pos]
    exact hp'.symm.trans hbase
  · rename_i hbase
    rw [Option.toList_some, List.flatMap_singleton]
    dsimp only
    rw [hdraft, places_eq_map (relocate (documentUri name) e.base) e.base 0 e.schema hname, ← List.filterMap_eq_map]
    refine List.filterMap_congr fun p hp => ?_
    have hp' := under_of_mem_places hname hp
    rw [← hp', Place.transfer]
    exact if_neg hbase

/-- The places that are surveyed in the second survey are those of the first one, transferred. -/
theorem survey_transfer {queue : List Errand} (h : ∀ e ∈ queue, e.draft = .draft7 ∧ IsNameless e.schema) :
    survey (queue.filterMap (Errand.transfer name)) = (survey queue).filterMap (Place.transfer name) := by
  have hall : (queue.flatMap fun e => places 0 e.draft e.base e.schema).filterMap (Place.transfer name) =
      (queue.filterMap (Errand.transfer name)).flatMap fun e => places 0 e.draft e.base e.schema := by
    induction queue with
    | nil => rfl
    | cons e rest ih =>
      rw [List.forall_mem_cons] at h
      rw [List.flatMap_cons, List.filterMap_append, places_transfer e h.1.1 h.1.2, ih h.2, List.filterMap_cons]
      cases e.transfer name with
      | none => rfl
      | some other => rw [Option.toList_some, List.flatMap_singleton, List.flatMap_cons]
  have hlevel : ∀ p q, Place.transfer name p = some q → q.level = p.level := by
    intro p q hq
    unfold Place.transfer at hq
    split at hq
    · cases hq
    · cases hq; rfl
  rw [survey, survey, filterMap_mergeSort Place.level Place.level _ hlevel, hall]

/-! ### One document -/

/-- While a schema is surveyed under the root URI and under its own one, the same documents are at hand; only the first
survey has the schema under the root URI, and it may also have it under its own.  Under the root URI the second survey has
a schema that nothing comes back to. -/
structure Follows (name : String) (schema : Tree) (r other : Resources) : Prop where
  anchors : r.anchors = bundled.anchors
  others : other.anchors = bundled.anchors
  root : OrderedMap.get? r.documents rootUri = some ⟨.draft7, schema⟩
  own : ∀ resource, OrderedMap.get? r.documents (documentUri name) = some resource → resource = ⟨.draft7, schema⟩
  home : OrderedMap.get? other.documents (documentUri name) = some ⟨.draft7, schema⟩
  fresh : other.hasRecursiveAnchor rootUri = false
  drafts : ∀ d resource, OrderedMap.get? r.documents d = some resource →
    OrderedMap.contains bundled.documents d = false → resource.draft = .draft7
  same : ∀ d, d ≠ rootUri → d ≠ documentUri name → OrderedMap.get? other.documents d = OrderedMap.get? r.documents d

theorem documentOf_documentUri (hname : IsWord name) : documentOf (documentUri name) = documentUri name := by
  rw [documentOf, splitFragment_documentUri hname]

/-- A URI that means no document but the compiled one means just that. -/
theorem documentOf_ne_rootUri {uri : Uri} (h : IsElsewhere uri) : documentOf uri ≠ rootUri := by
  intro heq
  exact h.1 (isRoot_of_splitFragment heq)

/-- One more nameless document is read by Draft 7, as the others are. -/
private theorem drafts_withDocument {r : Resources} (h : ∀ d resource, OrderedMap.get? r.documents d = some resource →
    OrderedMap.contains bundled.documents d = false → resource.draft = .draft7) (uri : Uri) (schema : Tree) :
    ∀ d resource, OrderedMap.get? (r.withDocument uri schema).documents d = some resource →
      OrderedMap.contains bundled.documents d = false → resource.draft = .draft7 := by
  intro d resource hd hothers
  by_cases heq : d = uri
  · rw [heq, withDocument, OrderedMap.get?_insert_self, Option.some.injEq] at hd
    rw [← hd]
  · rw [withDocument, OrderedMap.get?_insert_of_ne _ _ heq] at hd
    exact h d resource hd hothers

/-- Both surveys have one more document, which is not the schema itself. -/
theorem Follows.both_withDocument {schema : Tree} {r other : Resources} (h : Follows name schema r other) {uri : Uri}
    (hroot : uri ≠ rootUri) (hown : uri ≠ documentUri name) (t : Tree) :
    Follows name schema (r.withDocument uri t) (other.withDocument uri t) where
  anchors := h.anchors
  others := h.others
  root := by
    rw [withDocument, OrderedMap.get?_insert_of_ne _ _ (Ne.symm hroot), h.root]
  own := by
    intro resource hresource
    rw [withDocument, OrderedMap.get?_insert_of_ne _ _ (Ne.symm hown)] at hresource
    exact h.own resource hresource
  home := by
    rw [withDocument, OrderedMap.get?_insert_of_ne _ _ (Ne.symm hown), h.home]
  fresh := by
    rw [withDocument, hasRecursiveAnchor, OrderedMap.get?_insert_of_ne _ _ (Ne.symm hroot)]
    exact h.fresh
  drafts := drafts_withDocument h.drafts _ _
  same := by
    intro d hdroot hdown
    by_cases hd : d = uri
    · rw [hd, withDocument, withDocument, OrderedMap.get?_insert_self, OrderedMap.get?_insert_self]
    · rw [withDocument, withDocument, OrderedMap.get?_insert_of_ne _ _ hd,
        OrderedMap.get?_insert_of_ne _ _ hd]
      exact h.same d hdroot hdown

section Follow

variable {references : References} {schema : Tree} {r next other : Resources} {uri : Uri} {errands : List Errand}

/-- What is surveyed of the schema under its own URI is not transferred. -/
theorem filterMap_transfer_errandsOf_own (h : documentOf uri = documentUri name) (t : Tree) :
    (errandsOf uri t).filterMap (Errand.transfer name) = [] := by
  rw [List.filterMap_eq_nil_iff, errandsOf, List.forall_mem_map]
  intro u _
  rw [Errand.transfer, if_pos h]

theorem filterMap_transfer_errandsOf (h : documentOf uri ≠ documentUri name) (hroot : documentOf uri ≠ rootUri) (t : Tree) :
    (errandsOf uri t).filterMap (Errand.transfer name) = errandsOf uri t := by
  rw [errandsOf, List.filterMap_map, ← List.filterMap_some (l := List.map _ _), List.filterMap_map]
  refine List.filterMap_congr fun u _ => ?_
  rw [Function.comp, Errand.transfer, if_neg h]
  dsimp only
  rw [relocate_of_ne hroot]
  rfl

variable (hname : IsWord name) (hschema : (OrderedMap.get? references name).map lower = some schema)

include hname hschema

/-- Where the first survey takes up the schema under its own URI, the second has it. -/
theorem Follows.retrieve_own (h : Follows name schema r other) (huri : documentOf uri = documentUri name)
    (hone : retrieve references r uri = .ok (next, errands)) (hadds : AddsNameless r next) :
    errands.filterMap (Errand.transfer name) = [] ∧ Follows name schema next other := by
  by_cases hold : r.IsAtHand uri
  · rw [retrieve_of_contains hold] at hone
    cases hone
    exact ⟨rfl, h⟩
  · obtain ⟨t, draft, ht, hget⟩ := exists_of_retrieve hone hold
    have hnew := hadds _ _ hget (by rwa [IsAtHand, Bool.not_eq_true] at hold)
    rw [retrieve_of_isNameless hold ht hnew] at hone
    cases hone
    rw [huri, lastSegment_documentUri hname] at ht
    rw [ht, Option.map_some, Option.some.injEq] at hschema
    subst hschema
    have hne := documentUri_ne hname
    refine ⟨filterMap_transfer_errandsOf_own huri _, h.anchors, h.others, ?_, ?_, h.home, h.fresh,
      drafts_withDocument h.drafts _ _, fun d hroot hown => ?_⟩
    · rw [withDocument, huri, OrderedMap.get?_insert_of_ne _ _ hne.symm, h.root]
    · intro resource hresource
      rw [withDocument, huri, OrderedMap.get?_insert_self, Option.some.injEq] at hresource
      exact hresource.symm
    · rw [withDocument, huri, OrderedMap.get?_insert_of_ne _ _ hown]
      exact h.same d hroot hown

/-- Both surveys take up the same document, or the second one has it as the schema itself. -/
theorem Follows.retrieve_relocate (h : Follows name schema r other) (huri : uri = rootUri ∨ IsElsewhere uri)
    (hone : retrieve references r uri = .ok (next, errands)) (hadds : AddsNameless r next) :
    ∃ next', retrieve references other (relocate (documentUri name) uri) =
      .ok (next', errands.filterMap (Errand.transfer name)) ∧ Follows name schema next next' := by
  have hhome : other.IsAtHand (documentUri name) := by
    rw [IsAtHand, documentOf_documentUri hname, OrderedMap.contains, h.home]
    rfl
  rcases huri with rfl | helsewhere
  · have hroot : r.IsAtHand rootUri := by
      have hdocument : documentOf rootUri = rootUri := rfl
      rw [IsAtHand, hdocument, OrderedMap.contains, h.root]
      rfl
    rw [retrieve_of_contains hroot] at hone
    cases hone
    rw [relocate_rootUri]
    exact ⟨other, retrieve_of_contains hhome, h⟩
  · -- any other URI means the same document in both, which one has just if the other has
    rw [relocate_of_ne (ne_rootUri_of_isElsewhere helsewhere)]
    have hroot := documentOf_ne_rootUri helsewhere
    by_cases hown : documentOf uri = documentUri name
    · obtain ⟨hnone, hfollows⟩ := h.retrieve_own hname hschema hown hone hadds
      rw [hnone]
      rw [IsAtHand, documentOf_documentUri hname, ← hown] at hhome
      exact ⟨other, retrieve_of_contains hhome, hfollows⟩
    · have hsame := h.same _ hroot hown
      by_cases hold : r.IsAtHand uri
      · have hother : other.IsAtHand uri := by rwa [IsAtHand, OrderedMap.contains, hsame]
        rw [retrieve_of_contains hold] at hone
        cases hone
        exact ⟨other, retrieve_of_contains hother, h⟩
      · have hother : ¬ other.IsAtHand uri := by rwa [IsAtHand, OrderedMap.contains, hsame]
        obtain ⟨t, draft, ht, hget⟩ := exists_of_retrieve hone hold
        have hnew := hadds _ _ hget (by rwa [IsAtHand, Bool.not_eq_true] at hold)
        rw [retrieve_of_isNameless hold ht hnew] at hone
        cases hone
        rw [filterMap_transfer_errandsOf hown hroot, retrieve_of_isNameless hother ht hnew]
        exact ⟨_, rfl, h.both_withDocument hroot hown _⟩

/-! ### A round -/

theorem Follows.retrieveAll_relocate {uris : List Uri} : ∀ {r other : Resources} {errands : List Errand},
    Follows name schema r other → (∀ uri ∈ uris, uri = rootUri ∨ IsElsewhere uri) →
    retrieveAll references r uris = .ok (next, errands) → AddsNameless r next →
    ∃ next', retrieveAll references other (uris.map (relocate (documentUri name))) =
      .ok (next', errands.filterMap (Errand.transfer name)) ∧ Follows name schema next next' := by
  induction uris with
  | nil =>
    intro r other errands h _ hall _
    cases hall
    exact ⟨other, rfl, h⟩
  | cons uri rest ih =>
    intro r other errands h huris hall hadds
    rw [List.forall_mem_cons] at huris
    obtain ⟨middle, first, more, hone, hmore, rfl⟩ := retrieveAll_cons_eq_ok_iff.1 hall
    obtain ⟨middle', hone', hmiddle⟩ := h.retrieve_relocate hname hschema huris.1 hone (hadds.front hmore)
    obtain ⟨next', hmore', hnext⟩ :=
      ih hmiddle huris.2 hmore (hadds.back fun d resource => get?_of_retrieve hone)
    rw [List.filterMap_append, List.map_cons]
    exact ⟨next', retrieveAll_cons_eq_ok_iff.2 ⟨middle', _, _, hone', hmore', rfl⟩, hnext⟩

/-- What the first survey wants from its places, the second one wants from the same places, transferred; what is wanted
from the schema under its own URI is at hand. -/
theorem Follows.retrieveAll_transfer {found : List Place} : ∀ {r other : Resources} {wanted : List Uri}
    {errands : List Errand}, Follows name schema r other →
    (∀ p ∈ found, p.draft = .draft7 ∧ IsNameless (.object p.members) ∧
      (∀ w, Refers (.object p.members) w → IsSettled p.base w) ∧
      (p.base = documentUri name → ∀ named, p.outside = .ok named → ∀ uri ∈ named, r.IsAtHand uri)) →
    found.flatMapM Place.outside = .ok wanted → retrieveAll references r wanted = .ok (next, errands) →
    AddsNameless r next → ∃ wanted' next',
      (found.filterMap (Place.transfer name)).flatMapM Place.outside = .ok wanted' ∧
      retrieveAll references other wanted' = .ok (next', errands.filterMap (Errand.transfer name)) ∧
      Follows name schema next next' := by
  induction found with
  | nil =>
    intro r other wanted errands h _ hwanted hall _
    cases hwanted
    cases hall
    exact ⟨[], other, rfl, rfl, h⟩
  | cons p rest ih =>
    intro r other wanted errands h hfound hwanted hall hadds
    rw [List.forall_mem_cons] at hfound
    obtain ⟨⟨hdraft, hnameless, hsettled, hown⟩, hrest⟩ := hfound
    obtain ⟨named, more, hnamed, hmore, rfl⟩ := flatMapM_cons_eq_ok_iff.1 hwanted
    obtain ⟨middle, first, second, hone, htwo, rfl⟩ := retrieveAll_append_eq_ok_iff.1 hall
    have hkeep := get?_of_retrieveAll hone
    have hrest' : ∀ p ∈ rest, p.draft = .draft7 ∧ IsNameless (.object p.members) ∧
        (∀ w, Refers (.object p.members) w → IsSettled p.base w) ∧
        (p.base = documentUri name → ∀ named, p.outside = .ok named → ∀ uri ∈ named, middle.IsAtHand uri) := by
      intro q hq
      obtain ⟨hqdraft, hqname, hqsettled, hqown⟩ := hrest q hq
      exact ⟨hqdraft, hqname, hqsettled, fun hbase named hnamed uri huri => (hqown hbase named hnamed uri huri).mono hkeep⟩
    rw [List.filterMap_append, List.filterMap_cons]
    by_cases hbase : p.base = documentUri name
    · -- the place is not transferred, and what it names is at hand
      rw [retrieveAll_of_contains (hown hbase named hnamed)] at hone
      cases hone
      rw [Place.transfer, if_pos hbase]
      exact ih h hrest hmore htwo hadds
    · rw [Place.outside_of_isNameless hdraft hnameless] at hnamed
      have helsewhere : ∀ uri ∈ named, uri = rootUri ∨ IsElsewhere uri := by
        intro uri huri
        obtain ⟨w, hw, hhash, hmeans⟩ := exists_reference_of_mem_outside _ hnameless hnamed uri huri
        exact rootUri_or_isElsewhere (hsettled w hw) hhash hmeans
      have hnamed' : Place.outside { p with base := relocate (documentUri name) p.base } =
          .ok (named.map (relocate (documentUri name))) := by
        rw [Place.outside_of_isNameless (p := { p with base := relocate (documentUri name) p.base }) hdraft hnameless]
        exact outside_relocate hname hnameless hsettled hnamed
      obtain ⟨middle', hone', hmiddle⟩ :=
        h.retrieveAll_relocate hname hschema helsewhere hone (hadds.front htwo)
      obtain ⟨more', next', hmore', htwo', hnext⟩ := ih hmiddle hrest' hmore htwo (hadds.back hkeep)
      rw [Place.transfer, if_neg hbase]
      exact ⟨_, next', flatMapM_cons_eq_ok_iff.2 ⟨_, more', hnamed', hmore', rfl⟩,
        retrieveAll_append_eq_ok_iff.2 ⟨middle', _, _, hone', htwo', rfl⟩, hnext⟩

end Follow

/-! ### Portable documents -/

/-- A URI that a tree names at one of its places. -/
def Names (base : Uri) (t : Tree) (uri : Uri) : Prop :=
  ∃ p ∈ places 0 .draft7 base t, ∃ named, p.outside = .ok named ∧ uri ∈ named

/-- A document reads the same whether a schema is compiled or named by its identifier: it gives itself no name, no
reference depends on which schema is compiled, and where one goes to a part of the schema by the schema's own URI, that
part names no document that the schema does not name itself. -/
structure IsPortable (name : String) (schema : Tree) (d : Uri) (t : Tree) : Prop where
  nameless : IsNameless t
  settled : ∀ w, Refers t w → IsSettled d w
  covered : ∀ w, Refers t w → startsWith w "#" = false → ∀ uri pointer part, Uri.resolve d w = .ok uri →
    Uri.splitFragment uri = (documentUri name, some pointer) → schema.pointer? pointer = some part →
    ∀ other, Names (documentUri name) part other → documentOf other = documentUri name ∨
      ∃ another, Names (documentUri name) schema another ∧ documentOf another = documentOf other

/-- The documents that are at hand at some time of a survey. -/
inductive Gathers (references : References) : Resources → List Errand → Uri → Tree → Prop
  | now {r : Resources} {queue : List Errand} {d : Uri} {resource : Resource}
      (h : OrderedMap.get? r.documents d = some resource) : Gathers references r queue d resource.schema
  | later {r next : Resources} {queue rest : List Errand} {wanted : List Uri} {d : Uri} {t : Tree}
      (hwanted : (survey queue).flatMapM Place.outside = .ok wanted)
      (hnext : retrieveAll references ((survey queue).foldl enter r) wanted = .ok (next, rest))
      (hlater : Gathers references next rest d t) : Gathers references r queue d t

/-- What is at hand when a survey ends has been gathered. -/
theorem Gathers.of_collect {references : References} {rounds : Nat} : ∀ {r all : Resources} {queue : List Errand},
    collect references rounds r queue = .ok all → ∀ {d : Uri} {resource : Resource},
    OrderedMap.get? all.documents d = some resource → Gathers references r queue d resource.schema := by
  induction rounds with
  | zero => intro r all queue h; cases h
  | succ rounds ih =>
    intro r all queue h d resource hd
    obtain ⟨wanted, next, rest, hwanted, hnext, hlast⟩ := collect_succ_eq_ok_iff.1 h
    refine .later hwanted hnext ?_
    rcases hlast with ⟨-, rfl⟩ | ⟨-, hlater⟩
    · exact .now hd
    · exact ih hlater hd

/-- What a survey of nothing gathers is at hand. -/
theorem Gathers.of_nil {references : References} {r : Resources} {d : Uri} {t : Tree}
    (h : Gathers references r [] d t) : ∃ draft, OrderedMap.get? r.documents d = some ⟨draft, t⟩ := by
  generalize hqueue : ([] : List Errand) = queue at h
  induction h with
  | @now _ _ _ resource h => exact ⟨resource.draft, h⟩
  | later hwanted hnext _ ih =>
    subst hqueue
    rw [survey, List.flatMap_nil, List.mergeSort_nil] at hwanted hnext
    cases hwanted
    cases hnext
    exact ih rfl

/-- What a survey gathers is at hand at once, or it is gathered behind the first round. -/
theorem Gathers.of_round {references : References} {r next : Resources} {queue rest : List Errand} {wanted : List Uri}
    {d : Uri} {t : Tree} (h : Gathers references r queue d t)
    (hwanted : (survey queue).flatMapM Place.outside = .ok wanted)
    (hnext : retrieveAll references ((survey queue).foldl enter r) wanted = .ok (next, rest)) :
    (∃ draft, OrderedMap.get? r.documents d = some ⟨draft, t⟩) ∨ Gathers references next rest d t := by
  cases h with
  | @now _ _ _ resource h => exact .inl ⟨resource.draft, h⟩
  | later hwanted' hnext' hlater =>
    rw [hwanted] at hwanted'
    cases hwanted'
    rw [hnext] at hnext'
    cases hnext'
    exact .inr hlater

/-- All documents of a survey are portable, apart from those of the drafts. -/
def ArePortable (references : References) (name : String) (schema : Tree) (r : Resources) (queue : List Errand) : Prop :=
  ∀ d t, Gathers references r queue d t → OrderedMap.contains bundled.documents d = false →
    IsPortable name schema d t

/-- Something to survey is a part of a document at hand; under the schema's own URI it names nothing else. -/
structure Errand.IsFrom (name : String) (r : Resources) (e : Errand) : Prop where
  draft : e.draft = .draft7
  others : OrderedMap.contains bundled.documents e.base = false
  part : ∃ resource, OrderedMap.get? r.documents e.base = some resource ∧ resource.schema.HasPart e.schema
  own : e.base = documentUri name → ∀ uri, Names (documentUri name) e.schema uri → r.IsAtHand uri

/-- What a schema names under its own URI is at hand, apart from the schema itself. -/
def HasNamed (name : String) (schema : Tree) (r : Resources) : Prop :=
  ∀ uri, Names (documentUri name) schema uri → documentOf uri = documentUri name ∨ r.IsAtHand uri

section Collect

variable {references : References} {schema : Tree} {r next other : Resources} {queue rest : List Errand}
variable {wanted : List Uri}

theorem foldl_enter_of_isNameless {found : List Place} (h : ∀ p ∈ found, p.draft = .draft7 ∧ IsNameless (.object p.members))
    (r : Resources) : found.foldl enter r = r := by
  induction found with
  | nil => rfl
  | cons p rest ih =>
    rw [List.forall_mem_cons] at h
    rw [List.foldl_cons, enter_of_isNameless r h.1.1 h.1.2, ih h.2]

/-- A place that is surveyed stands in a portable document. -/
theorem exists_portable_of_mem_survey (hportable : ArePortable references name schema r queue)
    (hqueue : ∀ e ∈ queue, e.IsFrom name r) {p : Place} (hp : p ∈ survey queue) :
    p.draft = .draft7 ∧ OrderedMap.contains bundled.documents p.base = false ∧
      (∃ t, IsPortable name schema p.base t ∧ t.HasPart (.object p.members)) ∧
      (p.base = documentUri name → ∀ named, p.outside = .ok named → ∀ uri ∈ named, r.IsAtHand uri) := by
  obtain ⟨e, he, hp⟩ := mem_survey.1 hp
  obtain ⟨hdraft, hothers, ⟨resource, hresource, hpart⟩, hown⟩ := hqueue e he
  have hdocument := hportable _ _ (.now hresource) hothers
  rw [hdraft] at hp
  have hunder := under_of_mem_places (hdocument.nameless.part hpart) hp
  have hbase : e.base = p.base := congrArg Place.base hunder
  have hmembers := hasPart_of_mem_places _ _ _ _ hp
  refine ⟨(congrArg Place.draft hunder).symm, hbase ▸ hothers, ⟨resource.schema, hbase ▸ hdocument,
    hpart.trans hmembers⟩, fun hown' named hnamed uri huri => ?_⟩
  have hself : e.base = documentUri name := hbase.trans hown'
  rw [hself] at hp
  exact hown hself uri ⟨p, hp, named, hnamed, huri⟩

theorem survey_foldl_enter (hportable : ArePortable references name schema r queue)
    (hqueue : ∀ e ∈ queue, e.IsFrom name r) (other : Resources) : (survey queue).foldl enter other = other := by
  refine foldl_enter_of_isNameless (fun p hp => ?_) other
  obtain ⟨hdraft, -, ⟨t, ht, hpart⟩, -⟩ := exists_portable_of_mem_survey hportable hqueue hp
  exact ⟨hdraft, ht.nameless.part hpart⟩

theorem addsNameless_of_portable (hportable : ArePortable references name schema r queue)
    (hqueue : ∀ e ∈ queue, e.IsFrom name r) (hbundled : ∀ d, OrderedMap.contains bundled.documents d = true →
      OrderedMap.contains r.documents d = true)
    (hwanted : (survey queue).flatMapM Place.outside = .ok wanted)
    (hnext : retrieveAll references r wanted = .ok (next, rest)) : AddsNameless r next := by
  intro d resource hd hnew
  have hothers : OrderedMap.contains bundled.documents d = false := by
    rw [Bool.eq_false_iff]
    intro h
    rw [hbundled d h] at hnew
    cases hnew
  rw [← survey_foldl_enter hportable hqueue r] at hnext
  exact (hportable d resource.schema (.later hwanted hnext (.now hd)) hothers).nameless

/-- One round of both surveys. -/
theorem round_transfer (hname : IsWord name) (hschema : (OrderedMap.get? references name).map lower = some schema)
    (hportable : ArePortable references name schema r queue) (hqueue : ∀ e ∈ queue, e.IsFrom name r)
    (hadds : AddsNameless r next) (hfollows : Follows name schema r other)
    (hwanted : (survey queue).flatMapM Place.outside = .ok wanted)
    (hnext : retrieveAll references r wanted = .ok (next, rest)) : ∃ wanted' next',
      (survey (queue.filterMap (Errand.transfer name))).flatMapM Place.outside = .ok wanted' ∧
      retrieveAll references ((survey (queue.filterMap (Errand.transfer name))).foldl enter other) wanted' =
        .ok (next', rest.filterMap (Errand.transfer name)) ∧ Follows name schema next next' := by
  have hplaces := fun p hp => exists_portable_of_mem_survey hportable hqueue (p := p) hp
  have hsurvey : survey (queue.filterMap (Errand.transfer name)) = (survey queue).filterMap (Place.transfer name) := by
    refine survey_transfer fun e he => ?_
    obtain ⟨hdraft, hothers, ⟨resource, hresource, hpart⟩, -⟩ := hqueue e he
    exact ⟨hdraft, (hportable _ _ (.now hresource) hothers).nameless.part hpart⟩
  have henter : ((survey queue).filterMap (Place.transfer name)).foldl enter other = other := by
    refine foldl_enter_of_isNameless (fun q hq => ?_) other
    obtain ⟨p, hp, hpq⟩ := List.mem_filterMap.1 hq
    obtain ⟨hdraft, -, ⟨t, ht, hpart⟩, -⟩ := hplaces p hp
    unfold Place.transfer at hpq
    split at hpq
    · cases hpq
    · cases hpq
      exact ⟨hdraft, ht.nameless.part hpart⟩
  rw [hsurvey, henter]
  refine hfollows.retrieveAll_transfer hname hschema (fun p hp => ?_) hwanted hnext hadds
  obtain ⟨hdraft, -, ⟨t, ht, hpart⟩, hown⟩ := hplaces p hp
  exact ⟨hdraft, ht.nameless.part hpart, fun w hw => ht.settled w (hw.of_hasPart hpart), hown⟩

/-- What is surveyed in the next round stands in documents that have been taken up. -/
theorem isFrom_of_round (hname : IsWord name) (hschema : (OrderedMap.get? references name).map lower = some schema)
    (hportable : ArePortable references name schema r queue) (hqueue : ∀ e ∈ queue, e.IsFrom name r)
    (hadds : AddsNameless r next) (hnamed : HasNamed name schema next)
    (hwanted : (survey queue).flatMapM Place.outside = .ok wanted)
    (hnext : retrieveAll references r wanted = .ok (next, rest)) : ∀ e ∈ rest, e.IsFrom name next := by
  intro e he
  obtain ⟨uri, huri, t, hnew, ht, hget, herrand⟩ := exists_of_mem_errands hnext hadds e he
  obtain ⟨p, hp, named, hnamed', huri⟩ := mem_of_flatMapM hwanted huri
  obtain ⟨hdraft, hothers, ⟨document, hdocument, hpart⟩, -⟩ := exists_portable_of_mem_survey hportable hqueue hp
  have hmembers := hdocument.nameless.part hpart
  rw [Place.outside_of_isNameless hdraft hmembers] at hnamed'
  obtain ⟨w, hw, hhash, hmeans⟩ := exists_reference_of_mem_outside _ hmembers hnamed' uri huri
  have hrefers := hw.of_hasPart hpart
  have hothers' : OrderedMap.contains bundled.documents (documentOf uri) = false := by
    rcases rootUri_or_isElsewhere (hdocument.settled w hrefers) hhash hmeans with rfl | helsewhere
    · exact not_contains_rootUri
    · exact helsewhere.2
  obtain ⟨part, rfl, hcases⟩ := exists_of_mem_errandsOf herrand
  refine ⟨rfl, hothers', ⟨_, hget, ?_⟩, fun hown => ?_⟩
  · rcases hcases with rfl | ⟨pointer, -, hpointer⟩
    · exact .refl _
    · exact .of_pointer? hpointer
  · -- what is surveyed under the schema's own URI is the schema or a part of it
    have hself : next.IsAtHand uri := by
      rw [IsAtHand, OrderedMap.contains, hget]
      rfl
    change documentOf uri = documentUri name at hown
    rw [hown, lastSegment_documentUri hname] at ht
    rw [ht, Option.map_some, Option.some.injEq] at hschema
    have hhand : ∀ another, Names (documentUri name) schema another → next.IsAtHand another := by
      intro another hanother
      rcases hnamed another hanother with heq | hhand
      · rw [IsAtHand, heq, ← hown]
        exact hself
      · exact hhand
    rcases hcases with rfl | ⟨pointer, hfragment, hpointer⟩
    · rw [hschema]
      exact hhand
    · intro other hother
      rw [hschema] at hpointer
      have hsplit : Uri.splitFragment uri = (documentUri name, some pointer) := Prod.ext hown hfragment
      rcases hdocument.covered w hrefers hhash uri pointer part hmeans hsplit hpointer other hother with heq |
        ⟨another, hanother, heq⟩
      · rw [IsAtHand, heq, ← hown]
        exact hself
      · rw [IsAtHand, ← heq]
        exact hhand another hanother

theorem HasNamed.mono (h : HasNamed name schema r) (hkeep : ∀ d resource, OrderedMap.get? r.documents d = some resource →
    OrderedMap.get? next.documents d = some resource) : HasNamed name schema next :=
  fun uri huri => (h uri huri).imp_right fun hhand => hhand.mono hkeep

/-- A survey of nothing is over. -/
theorem collect_nil {rounds : Nat} {all : Resources} (h : collect references rounds r [] = .ok all) : all = r := by
  cases rounds with
  | zero => cases h
  | succ rounds =>
    rw [collect, survey, List.flatMap_nil, List.mergeSort_nil] at h
    cases h
    rfl

/-- The second survey does what the first one does, as long as what the schema names is at hand behind each round. -/
theorem collect_transfer (hname : IsWord name) (hschema : (OrderedMap.get? references name).map lower = some schema)
    {rounds : Nat} {all : Resources} : ∀ {r other : Resources} {queue : List Errand},
    ArePortable references name schema r queue → (∀ e ∈ queue, e.IsFrom name r) →
    (∀ d, OrderedMap.contains bundled.documents d = true → OrderedMap.contains r.documents d = true) →
    (∀ wanted next rest, (survey queue).flatMapM Place.outside = .ok wanted →
      retrieveAll references r wanted = .ok (next, rest) → HasNamed name schema next) →
    Follows name schema r other → collect references rounds r queue = .ok all →
    ∃ all', collect references rounds other (queue.filterMap (Errand.transfer name)) = .ok all' ∧
      Follows name schema all all' := by
  -- by induction on the rounds: after each of them the resources follow, and so does what is surveyed next
  induction rounds with
  | zero => intro r other queue _ _ _ _ _ h; cases h
  | succ rounds ih =>
    intro r other queue hportable hqueue hbundled hnamed hfollows h
    have henter := survey_foldl_enter hportable hqueue r
    obtain ⟨wanted, next, rest, hwanted, hnext, hlast⟩ := collect_succ_eq_ok_iff.1 h
    rw [henter] at hnext
    have hadds := addsNameless_of_portable hportable hqueue hbundled hwanted hnext
    have hnamed' := hnamed wanted next rest hwanted hnext
    have hkeep := get?_of_retrieveAll hnext
    obtain ⟨wanted', next', hwanted', hnext', hfollows'⟩ :=
      round_transfer hname hschema hportable hqueue hadds hfollows hwanted hnext
    rcases hlast with ⟨rfl, rfl⟩ | ⟨-, h⟩
    · exact ⟨next', collect_succ_eq_ok_iff.2 ⟨wanted', next', [], hwanted', hnext', .inl ⟨rfl, rfl⟩⟩, hfollows'⟩
    · have hportable' : ArePortable references name schema next rest := fun d t hd =>
        hportable d t (.later hwanted (henter.symm ▸ hnext) hd)
      have hbundled' : ∀ d, OrderedMap.contains bundled.documents d = true →
          OrderedMap.contains next.documents d = true := by
        intro d hd
        obtain ⟨resource, hresource⟩ := Option.isSome_iff_exists.1 (hbundled d hd)
        rw [OrderedMap.contains, hkeep d resource hresource]
        rfl
      obtain ⟨all', hall', hlast⟩ := ih hportable'
        (isFrom_of_round hname hschema hportable hqueue hadds hnamed' hwanted hnext) hbundled'
        (fun _ _ _ _ hlater => hnamed'.mono (get?_of_retrieveAll hlater)) hfollows' h
      by_cases hempty : rest.filterMap (Errand.transfer name) = []
      · -- the second survey is over, though the first one goes on with the schema under its own URI
        rw [hempty] at hall' hnext'
        rw [collect_nil hall'] at hlast
        exact ⟨next', collect_succ_eq_ok_iff.2 ⟨wanted', next', [], hwanted', hnext', .inl ⟨rfl, rfl⟩⟩, hlast⟩
      · exact ⟨all', collect_succ_eq_ok_iff.2 ⟨wanted', next', _, hwanted', hnext', .inr ⟨hempty, hall'⟩⟩, hlast⟩

/-! ### The compiled schema -/

/-- The survey of a schema that is compiled. -/
def rootErrand (schema : Tree) : Errand := ⟨defaultDraft, rootUri, schema⟩

theorem contains_start {d : Uri} (h : OrderedMap.contains bundled.documents d = true) :
    OrderedMap.contains (start rootUri schema).documents d = true := by
  have hne : d ≠ rootUri := by
    rintro rfl
    exact absurd h (Bool.eq_false_iff.1 not_contains_rootUri)
  rwa [start, OrderedMap.contains, OrderedMap.get?_insert_of_ne _ _ hne]

theorem get?_start : OrderedMap.get? (start rootUri schema).documents rootUri = some ⟨.draft7, schema⟩ :=
  OrderedMap.get?_insert_self ..

theorem isFrom_rootErrand (hname : IsWord name) : (rootErrand schema).IsFrom name (start rootUri schema) where
  draft := rfl
  others := not_contains_rootUri
  part := ⟨_, get?_start, .refl schema⟩
  own := fun heq => absurd heq.symm (documentUri_ne hname)

/-- Behind the first round all that the schema names is at hand. -/
theorem hasNamed_of_round (hname : IsWord name) (hportable : IsPortable name schema rootUri schema)
    (hwanted : (survey [rootErrand schema]).flatMapM Place.outside = .ok wanted)
    (hnext : retrieveAll references r wanted = .ok (next, rest)) : HasNamed name schema next := by
  rintro uri ⟨p, hp, named, hnamed, huri⟩
  rw [places_eq_map _ rootUri 0 schema hportable.nameless, List.mem_map] at hp
  obtain ⟨q, hq, rfl⟩ := hp
  have hfound : q ∈ survey [rootErrand schema] := mem_survey.2 ⟨_, List.mem_singleton_self _, hq⟩
  obtain ⟨first, hfirst, hsub⟩ := exists_of_flatMapM hwanted hfound
  have hunder := under_of_mem_places hportable.nameless hq
  have hbase : q.base = rootUri := (congrArg Place.base hunder).symm
  have hpart := hasPart_of_mem_places _ _ _ _ hq
  have hmembers := hportable.nameless.part hpart
  -- under its own URI the schema names what it names under the root URI, and itself where it names the root
  rw [Place.outside_of_isNameless (congrArg Place.draft hunder).symm hmembers, hbase] at hfirst
  have hsame := outside_relocate hname hmembers (fun w hw => hportable.settled w (hw.of_hasPart hpart)) hfirst
  rw [relocate_rootUri] at hsame
  rw [Place.outside_of_isNameless (p := q.under (documentUri name)) rfl hmembers] at hnamed
  change outside (Tree.object q.members).depth (documentUri name) q.members = .ok named at hnamed
  rw [hsame] at hnamed
  cases hnamed
  obtain ⟨other, hother, rfl⟩ := List.mem_map.1 huri
  by_cases hroot : other = rootUri
  · left
    rw [hroot, relocate_rootUri, documentOf_documentUri hname]
  · right
    rw [relocate_of_ne hroot]
    exact isAtHand_of_retrieveAll hnext other (hsub hother)

/-- What a schema leads to when it is compiled, it leads to when it is named by its identifier. -/
theorem collect_transfer_root (hname : IsWord name)
    (hschema : (OrderedMap.get? references name).map lower = some schema)
    (hportable : ArePortable references name schema (start rootUri schema) [rootErrand schema]) {rounds : Nat}
    {all : Resources} (hfollows : Follows name schema (start rootUri schema) other)
    (h : collect references rounds (start rootUri schema) [rootErrand schema] = .ok all) :
    ∃ all', collect references rounds other [⟨.draft7, documentUri name, schema⟩] = .ok all' ∧
      Follows name schema all all' := by
  have hself := hportable _ _ (.now get?_start) not_contains_rootUri
  have hqueue : [rootErrand schema].filterMap (Errand.transfer name) = [⟨.draft7, documentUri name, schema⟩] := by
    have hne : ¬ (rootErrand schema).base = documentUri name := fun heq => documentUri_ne hname heq.symm
    rw [List.filterMap_cons, Errand.transfer, if_neg hne]
    rfl
  rw [← hqueue]
  refine collect_transfer hname hschema hportable ?_ (fun d => contains_start) ?_ hfollows h
  · rw [List.forall_mem_singleton]
    exact isFrom_rootErrand hname
  · exact fun wanted next rest hwanted hnext => hasNamed_of_round hname hself hwanted hnext

end Collect

end Resources

end YamlSchema.Schema
