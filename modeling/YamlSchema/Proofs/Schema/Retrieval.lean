import YamlSchema.Proofs.Schema.Gathering
import YamlSchema.Proofs.Schema.Nameless

/-!
# Taking up documents

What taking up the document of a URI does: nothing if it is at hand (`retrieve_of_contains`); or else it adds the schema
that the URI ends in, and has it surveyed behind the part of it that the fragment points to (`retrieve_of_isNameless`).
Documents that are at hand stay as they are (`get?_of_retrieveAll`).
-/

namespace YamlSchema.Schema

namespace Resources

variable {references : References} {r next : Resources} {uri : Uri} {errands : List Errand}

/-- The document that a URI means. -/
def documentOf (uri : Uri) : Uri := (Uri.splitFragment uri).1

/-- Whether the document that a URI means is at hand. -/
def IsAtHand (r : Resources) (uri : Uri) : Prop := OrderedMap.contains r.documents (documentOf uri) = true

/-- What is surveyed of a nameless document that has been taken up. -/
def errandsOf (uri : Uri) (schema : Tree) : List Errand :=
  (((Uri.splitFragment uri).2.bind schema.pointer?).toList ++ [schema]).map fun t => ⟨.draft7, documentOf uri, t⟩

/-- What is surveyed behind a URI is the document, or what its fragment points to. -/
theorem exists_of_mem_errandsOf {uri : Uri} {schema : Tree} {e : Errand} (h : e ∈ errandsOf uri schema) :
    ∃ part, ⟨.draft7, documentOf uri, part⟩ = e ∧ (part = schema ∨ ∃ pointer,
      (Uri.splitFragment uri).2 = some pointer ∧ schema.pointer? pointer = some part) := by
  rw [errandsOf, List.mem_map] at h
  obtain ⟨part, hmem, rfl⟩ := h
  refine ⟨part, rfl, ?_⟩
  rcases List.mem_append.1 hmem with hmem | hmem
  · rw [Option.mem_toList, Option.bind_eq_some_iff] at hmem
    exact .inr hmem
  · exact .inl (List.mem_singleton.1 hmem)

/-- Resources with one more nameless document. -/
def withDocument (r : Resources) (d : Uri) (schema : Tree) : Resources :=
  { r with documents := OrderedMap.insert r.documents d ⟨.draft7, schema⟩ }

/-! ### One document -/

theorem retrieve_of_contains (h : r.IsAtHand uri) : retrieve references r uri = .ok (r, []) := by
  unfold retrieve
  exact if_pos h

theorem retrieve_of_isNameless (h : ¬ r.IsAtHand uri) {t : Tree}
    (ht : OrderedMap.get? references (Uri.lastSegment (documentOf uri)) = some t) (hname : IsNameless (lower t)) :
    retrieve references r uri = .ok (r.withDocument (documentOf uri) (lower t), errandsOf uri (lower t)) := by
  rw [IsAtHand, documentOf] at h
  rw [documentOf] at ht
  unfold retrieve
  dsimp only
  rw [if_neg h, ht]
  dsimp only
  rw [defaultDraft, hname.draftOf, errandsOf]
  cases hpart : (Uri.splitFragment uri).2.bind (lower t).pointer? with
  | none => rfl
  | some part =>
    obtain ⟨pointer, -, hpointer⟩ := Option.bind_eq_some_iff.1 hpart
    simp only [Option.toList_some, List.mapM_cons, List.mapM_nil, (hname.part (.of_pointer? hpointer)).draftOf]
    rfl

/-- What is taken up is the lowered tree of the identifier that the URI ends in. -/
theorem exists_of_retrieve (h : retrieve references r uri = .ok (next, errands)) (hnew : ¬ r.IsAtHand uri) :
    ∃ t draft, OrderedMap.get? references (Uri.lastSegment (documentOf uri)) = some t ∧
      OrderedMap.get? next.documents (documentOf uri) = some ⟨draft, lower t⟩ := by
  rcases retrieve_cases h with ⟨hhand, -⟩ | ⟨-, t, draft, -, ht, rfl, -⟩
  · exact absurd hhand hnew
  · exact ⟨t, draft, ht, OrderedMap.get?_insert_self ..⟩

theorem get?_of_retrieve (h : retrieve references r uri = .ok (next, errands)) {d : Uri} {resource : Resource}
    (hd : OrderedMap.get? r.documents d = some resource) : OrderedMap.get? next.documents d = some resource := by
  rcases retrieve_documents h with heq | ⟨other, hlooked, -, heq⟩
  · rw [heq, hd]
  · rw [heq, OrderedMap.get?_insert_of_ne, hd]
    rintro rfl
    rw [lookedUp, OrderedMap.contains, hd] at hlooked
    cases hlooked

theorem isAtHand_of_retrieve (h : retrieve references r uri = .ok (next, errands)) : next.IsAtHand uri := by
  by_cases hold : r.IsAtHand uri
  · rw [retrieve_of_contains hold] at h
    cases h
    exact hold
  · obtain ⟨t, draft, -, hget⟩ := exists_of_retrieve h hold
    rw [IsAtHand, OrderedMap.contains, hget]
    rfl

theorem IsAtHand.mono (h : ∀ d resource, OrderedMap.get? r.documents d = some resource →
    OrderedMap.get? next.documents d = some resource) (huri : r.IsAtHand uri) : next.IsAtHand uri := by
  obtain ⟨resource, hresource⟩ := Option.isSome_iff_exists.1 huri
  rw [IsAtHand, OrderedMap.contains, h _ resource hresource]
  rfl

/-! ### Several documents -/

theorem retrieveAll_append_eq_ok_iff {uris rest : List Uri} : ∀ {r : Resources} {errands : List Errand},
    retrieveAll references r (uris ++ rest) = .ok (next, errands) ↔
    ∃ middle first more, retrieveAll references r uris = .ok (middle, first) ∧
      retrieveAll references middle rest = .ok (next, more) ∧ errands = first ++ more := by
  induction uris with
  | nil =>
    intro r errands
    constructor
    · exact fun h => ⟨r, [], errands, rfl, h, rfl⟩
    · rintro ⟨middle, first, more, hone, hrest, rfl⟩
      cases hone
      exact hrest
  | cons uri uris ih =>
    intro r errands
    rw [List.cons_append, retrieveAll_cons_eq_ok_iff]
    constructor
    · rintro ⟨middle, first, more, hone, hmore, rfl⟩
      obtain ⟨last, second, third, htwo, hrest, rfl⟩ := ih.1 hmore
      exact ⟨last, first ++ second, third, retrieveAll_cons_eq_ok_iff.2 ⟨middle, first, second, hone, htwo, rfl⟩, hrest,
        (List.append_assoc ..).symm⟩
    · rintro ⟨last, front, third, hfront, hrest, rfl⟩
      obtain ⟨middle, first, second, hone, htwo, rfl⟩ := retrieveAll_cons_eq_ok_iff.1 hfront
      exact ⟨middle, first, second ++ third, hone, ih.2 ⟨last, second, third, htwo, hrest, rfl⟩,
        List.append_assoc ..⟩

theorem retrieveAll_of_contains {uris : List Uri} (h : ∀ uri ∈ uris, r.IsAtHand uri) :
    retrieveAll references r uris = .ok (r, []) := by
  induction uris with
  | nil => rfl
  | cons uri rest ih =>
    rw [List.forall_mem_cons] at h
    exact retrieveAll_cons_eq_ok_iff.2 ⟨r, [], [], retrieve_of_contains h.1, ih h.2, rfl⟩

theorem get?_of_retrieveAll {uris : List Uri} : ∀ {r : Resources} {errands : List Errand},
    retrieveAll references r uris = .ok (next, errands) → ∀ d resource,
    OrderedMap.get? r.documents d = some resource → OrderedMap.get? next.documents d = some resource := by
  induction uris with
  | nil => intro r errands h d resource hd; cases h; exact hd
  | cons uri rest ih =>
    intro r errands h d resource hd
    obtain ⟨middle, first, more, hone, hmore, -⟩ := retrieveAll_cons_eq_ok_iff.1 h
    exact ih hmore d resource (get?_of_retrieve hone hd)

theorem isAtHand_of_retrieveAll {uris : List Uri} : ∀ {r : Resources} {errands : List Errand},
    retrieveAll references r uris = .ok (next, errands) → ∀ uri ∈ uris, next.IsAtHand uri := by
  induction uris with
  | nil => intro r errands _ uri huri; cases huri
  | cons first rest ih =>
    intro r errands h uri huri
    obtain ⟨middle, first, more, hone, hmore, -⟩ := retrieveAll_cons_eq_ok_iff.1 h
    rcases List.mem_cons.1 huri with rfl | huri
    · exact (isAtHand_of_retrieve hone).mono (get?_of_retrieveAll hmore)
    · exact ih hmore uri huri

/-- The documents that have been taken up are nameless. -/
def AddsNameless (r next : Resources) : Prop := ∀ d resource, OrderedMap.get? next.documents d = some resource →
  OrderedMap.contains r.documents d = false → IsNameless resource.schema

theorem AddsNameless.front {middle : Resources} {uris : List Uri} (h : AddsNameless r next)
    (hrest : retrieveAll references middle uris = .ok (next, errands)) : AddsNameless r middle :=
  fun d resource hd => h d resource (get?_of_retrieveAll hrest d resource hd)

theorem AddsNameless.back {middle : Resources} (h : AddsNameless r next)
    (hkeep : ∀ d resource, OrderedMap.get? r.documents d = some resource →
      OrderedMap.get? middle.documents d = some resource) : AddsNameless middle next := by
  intro d resource hd hnew
  refine h d resource hd ?_
  rw [OrderedMap.contains, Option.isSome_eq_false_iff, Option.isNone_iff_eq_none] at hnew ⊢
  cases hold : OrderedMap.get? r.documents d with
  | none => rfl
  | some other =>
    rw [hkeep d other hold] at hnew
    cases hnew

/-- What is surveyed next are documents that have been taken up, and the parts of them to which their URIs pointed. -/
theorem exists_of_mem_errands {uris : List Uri} : ∀ {r : Resources} {errands : List Errand},
    retrieveAll references r uris = .ok (next, errands) → AddsNameless r next →
    ∀ e ∈ errands, ∃ uri ∈ uris, ∃ t, ¬ r.IsAtHand uri ∧
      OrderedMap.get? references (Uri.lastSegment (documentOf uri)) = some t ∧
      OrderedMap.get? next.documents (documentOf uri) = some ⟨.draft7, lower t⟩ ∧ e ∈ errandsOf uri (lower t) := by
  induction uris with
  | nil =>
    intro r errands h _ e he
    cases h
    cases he
  | cons uri rest ih =>
    intro r errands h hadds e he
    obtain ⟨middle, first, more, hone, hmore, rfl⟩ := retrieveAll_cons_eq_ok_iff.1 h
    have hkeep := get?_of_retrieveAll hmore
    rcases List.mem_append.1 he with he | he
    · by_cases hold : r.IsAtHand uri
      · rw [retrieve_of_contains hold] at hone
        cases hone
        cases he
      · obtain ⟨t, draft, ht, hget⟩ := exists_of_retrieve hone hold
        have hnew := hadds.front hmore _ _ hget (by rwa [IsAtHand, Bool.not_eq_true] at hold)
        rw [retrieve_of_isNameless hold ht hnew] at hone
        cases hone
        exact ⟨uri, List.mem_cons_self .., t, hold, ht, hkeep _ _ (OrderedMap.get?_insert_self ..), he⟩
    · obtain ⟨other, hother, t, hnew, hrest⟩ := ih hmore (hadds.back fun d resource => get?_of_retrieve hone) e he
      refine ⟨other, List.mem_cons_of_mem _ hother, t, fun hold => hnew ?_, hrest⟩
      exact hold.mono fun d resource => get?_of_retrieve hone

/-! ### Rounds -/

theorem length_le_insert {α : Type} (m : OrderedMap α) (key : String) (value : α) :
    m.length ≤ (OrderedMap.insert m key value).length := by
  induction m with
  | nil => exact Nat.zero_le _
  | cons e rest ih =>
    obtain ⟨k, v⟩ := e
    rw [OrderedMap.insert]
    split
    · exact Nat.le_refl _
    · exact Nat.succ_le_succ ih

theorem length_insert_le {α : Type} (m : OrderedMap α) (key : String) (value : α) :
    (OrderedMap.insert m key value).length ≤ m.length + 1 := by
  induction m with
  | nil => exact Nat.le_refl _
  | cons e rest ih =>
    obtain ⟨k, v⟩ := e
    rw [OrderedMap.insert]
    split
    · exact Nat.le_succ _
    · exact Nat.succ_le_succ ih

theorem length_le_foldl_enter (found : List Place) : ∀ r : Resources,
    r.documents.length ≤ (found.foldl enter r).documents.length := by
  induction found with
  | nil => exact fun r => Nat.le_refl _
  | cons p rest ih =>
    intro r
    refine Nat.le_trans ?_ (ih (r.enter p))
    rw [enter]
    dsimp only
    split
    · exact length_le_insert ..
    · exact Nat.le_refl _

/-- Whatever is surveyed next comes with a new document. -/
theorem length_retrieve (h : retrieve references r uri = .ok (next, errands)) :
    r.documents.length ≤ next.documents.length ∧ (errands ≠ [] → r.documents.length < next.documents.length) := by
  rcases retrieve_cases h with ⟨-, rfl, rfl⟩ | ⟨hnew, t, draft, -, -, rfl, -⟩
  · exact ⟨Nat.le_refl _, fun hne => absurd rfl hne⟩
  · rw [OrderedMap.contains, Option.not_isSome_iff_eq_none] at hnew
    have hlt : r.documents.length <
        (OrderedMap.insert r.documents (Uri.splitFragment uri).1 ⟨draft, lower t⟩).length := by
      rw [OrderedMap.insert_of_get?_eq_none _ hnew, List.length_append, List.length_singleton]
      exact Nat.lt_succ_self _
    exact ⟨Nat.le_of_lt hlt, fun _ => hlt⟩

theorem length_retrieveAll {uris : List Uri} : ∀ {r : Resources} {errands : List Errand},
    retrieveAll references r uris = .ok (next, errands) →
    r.documents.length ≤ next.documents.length ∧ (errands ≠ [] → r.documents.length < next.documents.length) := by
  induction uris with
  | nil =>
    intro r errands h
    cases h
    exact ⟨Nat.le_refl _, fun hne => absurd rfl hne⟩
  | cons uri rest ih =>
    intro r errands h
    obtain ⟨middle, first, more, hone, hmore, rfl⟩ := retrieveAll_cons_eq_ok_iff.1 h
    obtain ⟨hle, hlt⟩ := length_retrieve hone
    obtain ⟨hle', hlt'⟩ := ih hmore
    refine ⟨Nat.le_trans hle hle', fun hne => ?_⟩
    by_cases hfirst : first = []
    · rw [hfirst, List.nil_append] at hne
      exact Nat.lt_of_le_of_lt hle (hlt' hne)
    · exact Nat.lt_of_lt_of_le (hlt hfirst) hle'

/-- As many rounds are enough as there are new documents, and one more. -/
theorem collect_of_length_lt {rounds : Nat} {all : Resources} : ∀ {r : Resources} {queue : List Errand} (enough : Nat),
    collect references rounds r queue = .ok all → all.documents.length < r.documents.length + enough →
    r.documents.length ≤ all.documents.length ∧ collect references enough r queue = .ok all := by
  induction rounds with
  | zero => intro r queue enough h; cases h
  | succ rounds ih =>
    intro r queue enough h henough
    obtain ⟨wanted, next, rest, hwanted, hnext, hlast⟩ := collect_succ_eq_ok_iff.1 h
    have henter := length_le_foldl_enter (survey queue) r
    obtain ⟨hle, hlt⟩ := length_retrieveAll hnext
    rcases hlast with ⟨rfl, rfl⟩ | ⟨hne, hlater⟩
    · have hfar := Nat.le_trans henter hle
      obtain ⟨more, rfl⟩ : ∃ more, enough = more + 1 := Nat.exists_eq_succ_of_ne_zero (by omega)
      exact ⟨hfar, collect_succ_eq_ok_iff.2 ⟨wanted, all, [], hwanted, hnext, .inl ⟨rfl, rfl⟩⟩⟩
    · have hmore := hlt hne
      have hfar : next.documents.length ≤ all.documents.length :=
        (ih (all.documents.length + 1) hlater (by omega)).1
      obtain ⟨more, rfl⟩ : ∃ more, enough = more + 1 := Nat.exists_eq_succ_of_ne_zero (by omega)
      have hlast := (ih more hlater (by omega)).2
      exact ⟨by omega, collect_succ_eq_ok_iff.2 ⟨wanted, next, rest, hwanted, hnext, .inr ⟨hne, hlast⟩⟩⟩

end Resources

end YamlSchema.Schema
