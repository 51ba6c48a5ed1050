import YamlSchema.Proofs.Schema.Linking

/-!
# What a schema leads to

Compiling a schema looks other schemas up by their identifiers.  `LeadsTo` names those identifiers: the ones that the
schema's references name, and on from there.  Nothing else of the table of references matters: tables that agree on what
a schema leads to compile it to the same (`compile_congr`), a table with more in it too (`compile_mono`), and where one
of those identifiers is missing the schema is refused (`compile_ne_ok_of_missing`).
-/

namespace YamlSchema.Schema

namespace Resources

/-- The identifier under which the document of a URI is looked up, if it is not at hand. -/
def lookedUp (r : Resources) (uri : Uri) : Option String :=
  if OrderedMap.contains r.documents (Uri.splitFragment uri).1 then none
  else some (Uri.lastSegment (Uri.splitFragment uri).1)

/-- The identifiers that are looked up when something is surveyed with some resources at hand. -/
inductive LooksUp (references : References) : Resources → List Errand → String → Prop
  | now {r : Resources} {queue : List Errand} {wanted : List Uri} {uri : Uri} {id : String}
      (hwanted : (survey queue).flatMapM Place.outside = .ok wanted) (huri : uri ∈ wanted)
      (hid : lookedUp ((survey queue).foldl enter r) uri = some id) : LooksUp references r queue id
  | later {r next : Resources} {queue rest : List Errand} {wanted : List Uri} {id : String}
      (hwanted : (survey queue).flatMapM Place.outside = .ok wanted)
      (hnext : retrieveAll references ((survey queue).foldl enter r) wanted = .ok (next, rest))
      (hlater : LooksUp references next rest id) : LooksUp references r queue id

/-! ### One document -/

section Retrieve

variable {references other : References} {r next : Resources} {uri : Uri} {rest : List Errand}

/-- A table matters only for what its schemas are when they are lowered. -/
theorem retrieve_congr (h : ∀ id, lookedUp r uri = some id →
      (OrderedMap.get? other id).map lower = (OrderedMap.get? references id).map lower) :
    retrieve other r uri = retrieve references r uri := by
  unfold retrieve
  dsimp only
  split
  · rfl
  · rename_i habsent
    have hid := h _ (if_neg habsent)
    cases ht : OrderedMap.get? references (Uri.lastSegment (Uri.splitFragment uri).1) with
    | none =>
      rw [ht, Option.map_none, Option.map_eq_none_iff] at hid
      rw [hid]
    | some t =>
      rw [ht, Option.map_some, Option.map_eq_some_iff] at hid
      obtain ⟨u, hu, hlower⟩ := hid
      rw [hu]
      dsimp only
      rw [hlower]

/-- A retrieval that succeeds changes nothing where the document is at hand.  Or else it takes up the lowered schema of
the identifier, to be surveyed behind the part of it that the fragment points to. -/
theorem retrieve_cases (h : retrieve references r uri = .ok (next, rest)) :
    OrderedMap.contains r.documents (Uri.splitFragment uri).1 = true ∧ next = r ∧ rest = [] ∨
      ¬ OrderedMap.contains r.documents (Uri.splitFragment uri).1 = true ∧ ∃ t draft inner,
        OrderedMap.get? references (Uri.lastSegment (Uri.splitFragment uri).1) = some t ∧
        next = { r with documents := OrderedMap.insert r.documents (Uri.splitFragment uri).1 ⟨draft, lower t⟩ } ∧
        rest = inner ++ [⟨draft, (Uri.splitFragment uri).1, lower t⟩] ∧
        ∀ e ∈ inner, ∃ pointer, (Uri.splitFragment uri).2 = some pointer ∧ (lower t).pointer? pointer = some e.schema := by
  unfold retrieve at h
  dsimp only at h
  split at h
  · rename_i hhand
    cases h
    exact .inl ⟨hhand, rfl, rfl⟩
  · rename_i hnew
    split at h
    · cases h
    · rename_i t ht
      simp only [bind_eq_ok_iff, pure_eq_ok_iff, Prod.mk.injEq] at h
      obtain ⟨draft, -, inner, hinner, rfl, rfl⟩ := h
      refine .inr ⟨hnew, t, draft, inner, ht, rfl, rfl, fun e he => ?_⟩
      obtain ⟨part, hpart, hdrafted⟩ := exists_of_mem_mapM_eq_ok hinner he
      obtain ⟨d, -, rfl⟩ := by simpa only [bind_eq_ok_iff, pure_eq_ok_iff] using hdrafted
      exact Option.bind_eq_some_iff.1 (Option.mem_toList.1 hpart)

/-- A document that is at hand behind a retrieval was so before, or it is the one that was looked up. -/
theorem retrieve_documents (h : retrieve references r uri = .ok (next, rest)) :
    next.documents = r.documents ∨
      ∃ resource, lookedUp r uri = some (Uri.lastSegment (Uri.splitFragment uri).1) ∧
        (OrderedMap.get? references (Uri.lastSegment (Uri.splitFragment uri).1)).isSome ∧
        next.documents = OrderedMap.insert r.documents (Uri.splitFragment uri).1 resource := by
  rcases retrieve_cases h with ⟨-, rfl, -⟩ | ⟨hnew, t, draft, -, ht, rfl, -⟩
  · exact .inl rfl
  · exact .inr ⟨_, if_neg hnew, Option.isSome_of_eq_some ht, rfl⟩

private theorem contains_of_retrieve (h : retrieve references r uri = .ok (next, rest)) {document : Uri}
    (hd : OrderedMap.contains r.documents document = true) : OrderedMap.contains next.documents document = true := by
  rcases retrieve_documents h with heq | ⟨resource, -, -, heq⟩
  · rwa [heq]
  · rw [heq, OrderedMap.contains_iff, OrderedMap.mem_keys_insert]
    exact .inr (OrderedMap.contains_iff.1 hd)

private theorem lookedUp_of_retrieve (h : retrieve references r uri = .ok (next, rest)) {u : Uri} {id : String}
    (hid : lookedUp next u = some id) : lookedUp r u = some id := by
  unfold lookedUp at hid ⊢
  split at hid
  · cases hid
  · rename_i habsent
    rw [if_neg fun hd => habsent (contains_of_retrieve h hd)]
    exact hid

/-- What is looked up and not any more behind a retrieval has been found by it. -/
private theorem lookedUp_or_isSome (h : retrieve references r uri = .ok (next, rest)) {u : Uri} {id : String}
    (hid : lookedUp r u = some id) : lookedUp next u = some id ∨ (OrderedMap.get? references id).isSome := by
  rcases retrieve_documents h with heq | ⟨resource, -, hsome, heq⟩
  · left; unfold lookedUp at hid ⊢; rwa [heq]
  · unfold lookedUp at hid ⊢
    split at hid
    · cases hid
    · rename_i habsent
      -- only the document that has just been added can be what `u` means
      by_cases hd : (Uri.splitFragment u).1 = (Uri.splitFragment uri).1
      · right
        rw [← Option.some.inj hid, hd]
        exact hsome
      · left
        rw [if_neg, hid]
        rw [heq, OrderedMap.contains_iff, OrderedMap.mem_keys_insert]
        rw [OrderedMap.contains_iff] at habsent
        exact fun hmem => hmem.elim hd habsent

private theorem isSome_of_retrieve (h : retrieve references r uri = .ok (next, rest)) {id : String}
    (hid : lookedUp r uri = some id) : (OrderedMap.get? references id).isSome := by
  rcases retrieve_cases h with ⟨hhand, -⟩ | ⟨hnew, t, -, -, ht, -⟩
  · rw [lookedUp, if_pos hhand] at hid
    cases hid
  · rw [lookedUp, if_neg hnew, Option.some.injEq] at hid
    exact Option.isSome_of_eq_some (hid ▸ ht)

end Retrieve

/-! ### One round -/

theorem retrieveAll_cons_eq_ok_iff {references : References} {r next : Resources} {errands : List Errand} {uri : Uri}
    {rest : List Uri} : retrieveAll references r (uri :: rest) = .ok (next, errands) ↔
    ∃ middle first more, retrieve references r uri = .ok (middle, first) ∧
      retrieveAll references middle rest = .ok (next, more) ∧ errands = first ++ more := by
  simp only [retrieveAll, bind_eq_ok_iff, pure_eq_ok_iff, Prod.exists, Prod.mk.injEq]
  constructor
  · rintro ⟨middle, first, hone, _, more, hrest, rfl, rfl⟩
    exact ⟨middle, first, more, hone, hrest, rfl⟩
  · rintro ⟨middle, first, more, hone, hrest, rfl⟩
    exact ⟨middle, first, hone, next, more, hrest, rfl, rfl⟩

theorem retrieveAll_congr {references other : References} (uris : List Uri) : ∀ (r : Resources),
    (∀ uri ∈ uris, ∀ id, lookedUp r uri = some id →
      (OrderedMap.get? other id).map lower = (OrderedMap.get? references id).map lower) →
    retrieveAll other r uris = retrieveAll references r uris := by
  induction uris with
  | nil => intro r _; rfl
  | cons uri rest ih =>
    intro r h
    rw [retrieveAll, retrieveAll, retrieve_congr (h uri (by simp))]
    refine bind_congr_of_ok fun found hone => ?_
    obtain ⟨next, errands⟩ := found
    -- a retrieval only adds documents, so what is looked up behind it was looked up before it too
    have hrest := ih next fun u hu id hid => h u (by simp [hu]) id (lookedUp_of_retrieve hone hid)
    dsimp only
    rw [hrest]

/-- What a round that succeeds looks up is there. -/
theorem isSome_of_retrieveAll {references : References} (uris : List Uri) :
    ∀ {r next : Resources} {errands : List Errand},
    retrieveAll references r uris = .ok (next, errands) → ∀ uri ∈ uris, ∀ id, lookedUp r uri = some id →
    (OrderedMap.get? references id).isSome := by
  induction uris with
  | nil => intro _ _ _ _ uri huri; cases huri
  | cons uri rest ih =>
    intro r next errands h u hu id hid
    obtain ⟨middle, first, more, hone, hrest, -⟩ := retrieveAll_cons_eq_ok_iff.1 h
    rcases List.mem_cons.1 hu with rfl | hu
    · exact isSome_of_retrieve hone hid
    · rcases lookedUp_or_isSome hone hid with hid | hsome
      · exact ih hrest u hu id hid
      · exact hsome

/-! ### All rounds -/

private theorem wanted_nil {wanted : List Uri} (h : (survey []).flatMapM Place.outside = .ok wanted) : wanted = [] := by
  rw [survey, List.flatMap_nil, List.mergeSort_nil] at h
  exact (Except.ok.inj h).symm

theorem not_looksUp_nil {references : References} {r : Resources} {id : String} : ¬ LooksUp references r [] id := by
  intro h
  generalize hqueue : ([] : List Errand) = queue at h
  induction h with
  | now hwanted huri =>
    subst hqueue
    rw [wanted_nil hwanted] at huri
    cases huri
  | later hwanted hnext _ ih =>
    subst hqueue
    rw [wanted_nil hwanted] at hnext
    cases hnext
    exact ih rfl

/-- One round of a survey that succeeds. -/
theorem collect_succ_eq_ok_iff {references : References} {rounds : Nat} {r all : Resources} {queue : List Errand} :
    collect references (rounds + 1) r queue = .ok all ↔ ∃ wanted next rest,
      (survey queue).flatMapM Place.outside = .ok wanted ∧
      retrieveAll references ((survey queue).foldl enter r) wanted = .ok (next, rest) ∧
      (rest = [] ∧ all = next ∨ rest ≠ [] ∧ collect references rounds next rest = .ok all) := by
  simp only [collect, bind_eq_ok_iff, Prod.exists]
  constructor
  · rintro ⟨wanted, hwanted, next, rest, hnext, h⟩
    refine ⟨wanted, next, rest, hwanted, hnext, ?_⟩
    cases rest with
    | nil => exact .inl ⟨rfl, (pure_eq_ok_iff.1 h).symm⟩
    | cons e more => exact .inr ⟨List.cons_ne_nil _ _, h⟩
  · rintro ⟨wanted, next, rest, hwanted, hnext, hlast⟩
    refine ⟨wanted, hwanted, next, rest, hnext, ?_⟩
    rcases hlast with ⟨rfl, rfl⟩ | ⟨hne, hlater⟩
    · rfl
    · rwa [if_neg (mt List.isEmpty_iff.1 hne)]

theorem collect_congr {references other : References} (rounds : Nat) : ∀ {r : Resources} {queue : List Errand},
    (∀ id, LooksUp references r queue id →
      (OrderedMap.get? other id).map lower = (OrderedMap.get? references id).map lower) →
    collect other rounds r queue = collect references rounds r queue := by
  induction rounds with
  | zero => intro r queue _; rfl
  | succ rounds ih =>
    intro r queue h
    rw [collect, collect]
    refine bind_congr_of_ok fun wanted hwanted => ?_
    rw [retrieveAll_congr wanted _ fun uri huri id hid => h id (.now hwanted huri hid)]
    refine bind_congr_of_ok fun found hnext => ?_
    obtain ⟨next, rest⟩ := found
    dsimp only
    rw [ih fun id hid => h id (.later hwanted hnext hid)]

/-- A survey that succeeds finds what it looks up. -/
theorem isSome_of_looksUp {references : References} {r : Resources} {queue : List Errand} {id : String}
    (hid : LooksUp references r queue id) : ∀ {rounds : Nat} {all : Resources},
    collect references rounds r queue = .ok all → (OrderedMap.get? references id).isSome := by
  induction hid with
  | now hwanted huri hid =>
    intro rounds all h
    cases rounds with
    | zero => cases h
    | succ rounds =>
      obtain ⟨wanted, next, rest, hwanted', hnext, -⟩ := collect_succ_eq_ok_iff.1 h
      obtain rfl := Except.ok.inj (hwanted.symm.trans hwanted')
      exact isSome_of_retrieveAll _ hnext _ huri _ hid
  | @later r next queue rest wanted id hwanted hnext hlater ih =>
    intro rounds all h
    cases rounds with
    | zero => cases h
    | succ rounds =>
      obtain ⟨wanted', next', rest', hwanted', hnext', hlast⟩ := collect_succ_eq_ok_iff.1 h
      obtain rfl := Except.ok.inj (hwanted.symm.trans hwanted')
      obtain ⟨rfl, rfl⟩ := Prod.mk.inj (Except.ok.inj (hnext.symm.trans hnext'))
      rcases hlast with ⟨rfl, -⟩ | ⟨-, h⟩
      · -- the survey ends with the round before: nothing is left that could be looked up later
        exact absurd hlater not_looksUp_nil
      · exact ih h

/-- Tables that agree on what is looked up under one look up the same. -/
theorem LooksUp.congr {references other : References} {r : Resources} {queue : List Errand} {id : String}
    (hid : LooksUp other r queue id) :
    (∀ i, LooksUp references r queue i → OrderedMap.get? other i = OrderedMap.get? references i) →
    LooksUp references r queue id := by
  induction hid with
  | now hwanted huri hid => exact fun _ => .now hwanted huri hid
  | later hwanted hnext _ ih =>
    intro h
    rw [retrieveAll_congr _ _ fun uri huri i hi => congrArg _ (h i (.now hwanted huri hi))] at hnext
    exact .later hwanted hnext (ih fun i hi => h i (.later hwanted hnext hi))

end Resources

/-! ### Schemas -/

/-- The identifiers that the references of a schema lead to, at once or through other schemas. -/
def LeadsTo (references : References) (schema : Tree) (id : String) : Prop :=
  ∃ uri, Resources.uriOf (lower schema) = .ok uri ∧
    Resources.LooksUp references (Resources.start uri (lower schema))
      [⟨Resources.defaultDraft, uri, lower schema⟩] id

namespace Validator

variable {references other : References} {schema : Tree}

/-- Only what a schema leads to matters to its compilation, and only what that is when it is lowered. -/
theorem compile_congr_lower {schema' : Tree} (hschema : lower schema' = lower schema)
    (h : ∀ id, LeadsTo references schema id →
      (OrderedMap.get? other id).map lower = (OrderedMap.get? references id).map lower) :
    compile other schema' = compile references schema := by
  rw [compile, compile, hschema, compileLowered, compileLowered]
  refine bind_congr_of_ok fun uri huri => ?_
  have hgather : Resources.gather other uri (lower schema) = Resources.gather references uri (lower schema) :=
    Resources.collect_congr _ fun id hid => h id ⟨uri, huri, hid⟩
  rw [hgather]

theorem compile_congr
    (h : ∀ id, LeadsTo references schema id → OrderedMap.get? other id = OrderedMap.get? references id) :
    compile other schema = compile references schema :=
  compile_congr_lower rfl fun id hid => congrArg _ (h id hid)

/-- A schema that is compiled leads to nothing that is missing. -/
theorem isSome_of_leadsTo {c : Validator} (hc : compile references schema = .ok c) {id : String}
    (hid : LeadsTo references schema id) : (OrderedMap.get? references id).isSome := by
  obtain ⟨uri, huri, hid⟩ := hid
  obtain ⟨hschema, uri', all, huri', hgather, -⟩ := exists_of_compile hc
  rw [hschema] at huri' hgather
  obtain rfl := Except.ok.inj (huri.symm.trans huri')
  exact Resources.isSome_of_looksUp hid hgather

theorem leadsTo_congr
    (h : ∀ id, LeadsTo references schema id → OrderedMap.get? other id = OrderedMap.get? references id) {id : String}
    (hid : LeadsTo other schema id) : LeadsTo references schema id := by
  obtain ⟨uri, huri, hid⟩ := hid
  exact ⟨uri, huri, hid.congr fun i hi => h i ⟨uri, huri, hi⟩⟩

/-- A schema that is compiled comes out the same where more may be referred to. -/
theorem compile_mono {c : Validator} (hc : compile references schema = .ok c)
    (h : ∀ id t, OrderedMap.get? references id = some t → OrderedMap.get? other id = some t) :
    compile other schema = .ok c := by
  rw [compile_congr, hc]
  intro id hid
  obtain ⟨t, ht⟩ := Option.isSome_iff_exists.1 (isSome_of_leadsTo hc hid)
  rw [ht, h id t ht]

/-- Without one of the schemas that it leads to, a schema is not compiled. -/
theorem compile_ne_ok_of_missing
    (h : ∀ id t, OrderedMap.get? other id = some t → OrderedMap.get? references id = some t)
    {id : String} (hid : LeadsTo references schema id) (hmissing : OrderedMap.get? other id = none) (c : Validator) :
    compile other schema ≠ .ok c := by
  intro hc
  have hagree : ∀ i, LeadsTo other schema i → OrderedMap.get? references i = OrderedMap.get? other i := by
    intro i hi
    obtain ⟨t, ht⟩ := Option.isSome_iff_exists.1 (isSome_of_leadsTo hc hi)
    rw [ht, h i t ht]
  have hsome := isSome_of_leadsTo hc (leadsTo_congr hagree hid)
  rw [hmissing] at hsome
  cases hsome

end Validator

end YamlSchema.Schema
