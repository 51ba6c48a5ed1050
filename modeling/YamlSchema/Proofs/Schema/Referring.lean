import YamlSchema.Proofs.Schema.Rebuilding
import YamlSchema.Proofs.Schema.Standalone
import YamlSchema.Proofs.Schema.Transfer

/-!
# Referring to a schema by its identifier

A schema may do no more than have one member meet the schema of an identifier.  If that schema is `Movable`, this one is
compiled wherever that one is, and it accepts a mapping with the member just if the schema of the identifier accepts the
member (`Validator.exists_compile_referring`).  The documents that it leads to are those that the other schema leads to,
with this under its own URI (`Resources.gather_referring`), and so are its links (`Resources.exists_build_referring`).
-/

namespace YamlSchema.Schema

/-- A schema of mappings in which one member has to meet the schema of an identifier. -/
def referring (key name : String) : Tree :=
  .object [("type", .string "object"), ("properties", .object [(key, .object [("$ref", .string name)])])]

/-! ### What it is made of -/

section Shape

variable (key name : String)

theorem lower_referring : lower (referring key name) = referring key name := by
  simp [referring, lower, lowerMembers, lowerMember, lowerEach, dropPseudoType, isPseudoEnum, OrderedMap.get?,
    Shorthand.enumType, schemaKeywords, schemaMapKeywords]

theorem isNameless_reference : IsNameless (.object [("$ref", .string name)]) := by
  simp [isNameless_object_iff, isNameless_string]

theorem isNameless_referring : IsNameless (referring key name) := by
  simp [referring, isNameless_object_iff, isNameless_string, Tree.isString]

/-- Its places are itself and the one schema in it. -/
theorem places_referring : places 0 .draft7 rootUri (referring key name) =
    [⟨0, .draft7, rootUri,
        [("type", .string "object"), ("properties", .object [(key, .object [("$ref", .string name)])])]⟩,
      ⟨1, .draft7, rootUri, [("$ref", .string name)]⟩] := by
  have hproperties : Draft.draft7.holding? "properties" = some .named := by decide
  have hbase := (isNameless_referring key name).baseWithin rootUri
  simp [referring, places, placesOfMembers, placesOfMember, placesOfEach, hproperties, hbase,
    (isNameless_reference name).within]

private theorem outside_members (fuel : Nat) : outside fuel rootUri
    [("type", .string "object"), ("properties", .object [(key, .object [("$ref", .string name)])])] = .ok [] := by
  unfold outside
  rw [if_neg (by decide), List.filter_eq_nil_iff.2 (by simp)]
  cases fuel <;> rfl

variable {name : String} (hname : IsWord name)

include hname

private theorem outside_reference (fuel : Nat) :
    outside fuel rootUri [("$ref", .string name)] = .ok [documentUri name] := by
  have hnamed (within : OrderedMap Tree → Except Refusal (List Uri)) :
      namedBy rootUri [("$ref", .string name)] within ("$ref", .string name) = .ok [documentUri name] := by
    simp only [namedBy, namesPublished_of_isWord hname, startsWith_hash_of_isWord hname, resolve_of_isWord hname,
      Bool.false_eq_true, if_false]
  unfold outside
  rw [if_neg (by decide), List.filter_eq_self.2 (by simp)]
  cases fuel <;> exact flatMapM_cons_eq_ok_iff.2 ⟨_, [], hnamed _, rfl, rfl⟩

/-- It names the document of the identifier, and nothing else. -/
theorem outside_referring : (Resources.survey [Resources.rootErrand (referring key name)]).flatMapM Place.outside =
    .ok [documentUri name] := by
  have hplaces : places 0 .draft7 rootUri (referring key name) = _ := places_referring key name
  rw [Resources.survey_singleton, Resources.rootErrand, Resources.defaultDraft, hplaces]
  · refine flatMapM_cons_eq_ok_iff.2 ⟨[], [documentUri name], ?_, ?_, rfl⟩
    · rw [Place.outside_of_isNameless (p := ⟨0, .draft7, rootUri, _⟩) rfl (isNameless_referring key name)]
      exact outside_members key name _
    · refine flatMapM_cons_eq_ok_iff.2 ⟨[documentUri name], [], ?_, rfl, rfl⟩
      rw [Place.outside_of_isNameless (p := ⟨1, .draft7, rootUri, _⟩) rfl (isNameless_reference name)]
      exact outside_reference hname _
  · rw [Resources.rootErrand, Resources.defaultDraft, hplaces]
    simp

end Shape

/-! ### What it leads to -/

namespace Resources

variable {references : References} {key name : String} {first schema : Tree} {all : Resources}

/-- What is at hand behind a schema that names the one of an identifier, once this has been taken up. -/
def atHand (name : String) (first schema : Tree) : Resources :=
  (start rootUri first).withDocument (documentUri name) schema

theorem get?_start_of_ne {d : Uri} (h : d ≠ rootUri) (t : Tree) :
    OrderedMap.get? (start rootUri t).documents d = OrderedMap.get? bundled.documents d :=
  OrderedMap.get?_insert_of_ne _ _ h

theorem get?_bundled_documentUri (name : String) : OrderedMap.get? bundled.documents (documentUri name) = none := by
  have h := not_contains_bundled name
  rwa [OrderedMap.contains, Option.isSome_eq_false_iff, Option.isNone_iff_eq_none] at h

theorem get?_atHand :
    OrderedMap.get? (atHand name first schema).documents (documentUri name) = some ⟨.draft7, schema⟩ :=
  OrderedMap.get?_insert_self ..

/-- Nothing but the compiled schema is at hand at the start, apart from the drafts' documents. -/
theorem eq_of_get?_start {d : Uri} (hothers : OrderedMap.contains bundled.documents d = false) {resource : Resource}
    (hd : OrderedMap.get? (start rootUri schema).documents d = some resource) :
    d = rootUri ∧ resource = ⟨.draft7, schema⟩ := by
  by_cases hroot : d = rootUri
  · rw [hroot, get?_start] at hd
    exact ⟨hroot, (Option.some.inj hd).symm⟩
  · rw [get?_start_of_ne hroot] at hd
    rw [OrderedMap.contains, hd] at hothers
    cases hothers

theorem eq_of_get?_atHand {d : Uri} (hothers : OrderedMap.contains bundled.documents d = false) {resource : Resource}
    (hd : OrderedMap.get? (atHand name first schema).documents d = some resource) :
    d = rootUri ∧ resource = ⟨.draft7, first⟩ ∨ d = documentUri name ∧ resource = ⟨.draft7, schema⟩ := by
  by_cases hown : d = documentUri name
  · rw [hown, get?_atHand] at hd
    exact .inr ⟨hown, (Option.some.inj hd).symm⟩
  · rw [atHand, withDocument, OrderedMap.get?_insert_of_ne _ _ hown] at hd
    exact .inl (eq_of_get?_start hothers hd)

/-- There is room for many more documents. -/
theorem length_atHand_lt : (atHand name first schema).documents.length < maxRounds := by
  have hbundled : bundled.documents.length = MetaSchema.published.length := List.length_map _
  have hstart := length_insert_le bundled.documents rootUri ⟨defaultDraft, first⟩
  have hown := length_insert_le (start rootUri first).documents (documentUri name) ⟨.draft7, schema⟩
  have hpublished : MetaSchema.published.length < 100 := by decide
  change (OrderedMap.insert _ _ _).length < _
  change (start rootUri first).documents.length ≤ _ at hstart
  rw [maxRounds]
  omega

/-- A survey of a nameless schema adds nothing by itself. -/
theorem foldl_enter_survey_singleton (h : IsNameless schema) (d : Uri) (r : Resources) :
    (survey [⟨.draft7, d, schema⟩]).foldl enter r = r := by
  refine foldl_enter_of_isNameless (fun p hp => ?_) r
  obtain ⟨e, he, hp⟩ := mem_survey.1 hp
  cases List.mem_singleton.1 he
  exact ⟨(congrArg Place.draft (under_of_mem_places h hp)).symm, h.part (hasPart_of_mem_places _ _ _ _ hp)⟩

/-- A survey of a nameless schema that names nothing new is over. -/
theorem collect_of_isAtHand (h : IsNameless schema) {d : Uri} {wanted : List Uri}
    (hwanted : (survey [⟨.draft7, d, schema⟩]).flatMapM Place.outside = .ok wanted) {r : Resources}
    (hhand : ∀ uri ∈ wanted, r.IsAtHand uri) (rounds : Nat) :
    collect references (rounds + 1) r [⟨.draft7, d, schema⟩] = .ok r := by
  refine collect_succ_eq_ok_iff.2 ⟨wanted, r, [], hwanted, ?_, .inl ⟨rfl, rfl⟩⟩
  rw [foldl_enter_survey_singleton h]
  exact retrieveAll_of_contains hhand

variable (hname : IsWord name)

include hname

theorem get?_atHand_rootUri :
    OrderedMap.get? (atHand name first schema).documents rootUri = some ⟨.draft7, first⟩ := by
  rw [atHand, withDocument, OrderedMap.get?_insert_of_ne _ _ (documentUri_ne hname).symm]
  exact get?_start

theorem follows_atHand : Follows name schema (start rootUri schema) (atHand name (referring key name) schema) where
  anchors := rfl
  others := rfl
  root := get?_start
  own := by
    intro resource hresource
    rw [get?_start_of_ne (documentUri_ne hname), get?_bundled_documentUri] at hresource
    cases hresource
  home := get?_atHand
  fresh := by
    rw [hasRecursiveAnchor, get?_atHand_rootUri hname]
    simp [referring, Tree.member?, Tree.object?, OrderedMap.get?]
  drafts := fun d resource hd hothers => by rw [(eq_of_get?_start hothers hd).2]
  same := by
    intro d hroot hown
    rw [atHand, withDocument, OrderedMap.get?_insert_of_ne _ _ hown, get?_start_of_ne hroot, get?_start_of_ne hroot]

variable (hschema : (OrderedMap.get? references name).map lower = some schema) (hnameless : IsNameless schema)

include hschema hnameless

/-- The first round takes up the schema of the identifier. -/
theorem retrieveAll_documentUri : retrieveAll references (start rootUri first) [documentUri name] =
    .ok (atHand name first schema, [⟨.draft7, documentUri name, schema⟩]) := by
  obtain ⟨t, ht, rfl⟩ := Option.map_eq_some_iff.1 hschema
  have hnew : ¬ (start rootUri first).IsAtHand (documentUri name) := by
    rw [IsAtHand, documentOf_documentUri hname, OrderedMap.contains, get?_start_of_ne (documentUri_ne hname),
      get?_bundled_documentUri]
    exact Bool.false_ne_true
  have herrands : errandsOf (documentUri name) (lower t) = [⟨.draft7, documentUri name, lower t⟩] := by
    rw [errandsOf, documentOf, splitFragment_documentUri hname]
    rfl
  have hone : retrieve references (start rootUri first) (documentUri name) =
      .ok (atHand name first (lower t), [⟨.draft7, documentUri name, lower t⟩]) := by
    rw [← lastSegment_documentUri hname, ← documentOf_documentUri hname] at ht
    rw [retrieve_of_isNameless hnew ht hnameless, documentOf_documentUri hname, herrands, atHand]
  exact retrieveAll_cons_eq_ok_iff.2 ⟨_, _, [], hone, by rw [retrieveAll], by rw [List.append_nil]⟩

/-- A schema that names the one of an identifier leads to what this one leads to under its own URI. -/
theorem gather_of_outside (hfirst : IsNameless first)
    (hwanted : (survey [rootErrand first]).flatMapM Place.outside = .ok [documentUri name]) {rounds : Nat}
    (hrounds : maxRounds = rounds + 1)
    (h : collect references rounds (atHand name first schema) [⟨.draft7, documentUri name, schema⟩] = .ok all) :
    gather references rootUri first = .ok all := by
  rw [gather, hrounds]
  refine collect_succ_eq_ok_iff.2 ⟨_, _, _, hwanted, ?_, .inr ⟨List.cons_ne_nil _ _, h⟩⟩
  rw [defaultDraft, foldl_enter_survey_singleton hfirst]
  exact retrieveAll_documentUri hname hschema hnameless

section Two

variable (hfirst : IsNameless first)
variable (hwanted : (survey [rootErrand first]).flatMapM Place.outside = .ok [documentUri name]) {wanted : List Uri}
variable (hwanted' : (survey [⟨.draft7, documentUri name, schema⟩]).flatMapM Place.outside = .ok wanted)
variable (hhand : ∀ uri ∈ wanted, (atHand name first schema).IsAtHand uri)

include hfirst hwanted hwanted' hhand

/-- If the schema of the identifier names nothing new, the survey ends with the two schemas. -/
theorem gather_eq_atHand : gather references rootUri first = .ok (atHand name first schema) := by
  obtain ⟨rounds, hrounds⟩ : ∃ rounds, maxRounds = rounds + 1 + 1 := ⟨18446744073709551614, rfl⟩
  exact gather_of_outside hname hschema hnameless hfirst hwanted hrounds
    (collect_of_isAtHand hnameless hwanted' hhand rounds)

/-- Then just the two are gathered. -/
theorem eq_of_gathers {d : Uri} {t : Tree} (h : Gathers references (start rootUri first) [rootErrand first] d t)
    (hothers : OrderedMap.contains bundled.documents d = false) :
    d = rootUri ∧ t = first ∨ d = documentUri name ∧ t = schema := by
  have hone :
      retrieveAll references ((survey [rootErrand first]).foldl enter (start rootUri first)) [documentUri name] =
        .ok (atHand name first schema, [⟨.draft7, documentUri name, schema⟩]) := by
    rw [rootErrand, defaultDraft, foldl_enter_survey_singleton hfirst]
    exact retrieveAll_documentUri hname hschema hnameless
  have htwo : retrieveAll references ((survey [⟨.draft7, documentUri name, schema⟩]).foldl enter
      (atHand name first schema)) wanted = .ok (atHand name first schema, []) := by
    rw [foldl_enter_survey_singleton hnameless]
    exact retrieveAll_of_contains hhand
  have hboth : ∀ {draft : Draft}, OrderedMap.get? (atHand name first schema).documents d = some ⟨draft, t⟩ →
      d = rootUri ∧ t = first ∨ d = documentUri name ∧ t = schema := fun hd =>
    (eq_of_get?_atHand hothers hd).imp (And.imp_right (congrArg Resource.schema))
      (And.imp_right (congrArg Resource.schema))
  rcases h.of_round hwanted hone with ⟨draft, hd⟩ | h
  · exact .inl ((eq_of_get?_start hothers hd).imp_right (congrArg Resource.schema))
  · rcases h.of_round hwanted' htwo with ⟨draft, hd⟩ | h
    · exact hboth hd
    · obtain ⟨draft, hd⟩ := h.of_nil
      exact hboth hd

end Two

/-- A schema that refers to another one by its identifier leads to what this one leads to. -/
theorem gather_referring (key : String)
    (hportable : ArePortable references name schema (start rootUri schema) [rootErrand schema])
    (h : gather references rootUri schema = .ok all) (hroom : all.documents.length < maxRounds) :
    ∃ all', gather references rootUri (referring key name) = .ok all' ∧ Follows name schema all all' := by
  have hstart : 0 < (start rootUri schema).documents.length := by
    have hget : OrderedMap.get? (start rootUri schema).documents rootUri = some ⟨defaultDraft, schema⟩ := get?_start
    cases hdocuments : (start rootUri schema).documents with
    | nil =>
      rw [hdocuments] at hget
      cases hget
    | cons e rest => exact Nat.succ_pos _
  obtain ⟨rounds, hrounds⟩ : ∃ rounds, maxRounds = rounds + 1 := ⟨18446744073709551615, rfl⟩
  have hone := (collect_of_length_lt rounds h (by omega)).2
  have hstarts : Follows name schema (start rootUri schema) (atHand name (referring key name) schema) :=
    follows_atHand hname
  obtain ⟨all', hall', hfollows⟩ := collect_transfer_root hname hschema hportable hstarts hone
  exact ⟨all', gather_of_outside hname hschema hnameless (isNameless_referring key name) (outside_referring key hname)
    hrounds hall', hfollows⟩

end Resources

/-! ### Its program -/

/-- The reference from the compiled document to the document of an identifier. -/
def linkTo (name : String) : Link := ⟨rootUri, documentUri name, "", false, .empty⟩

theorem ofReference_of_isWord {name : String} (hname : IsWord name) :
    Link.ofReference rootPlace name = .ok (linkTo name) := by
  rw [ofReference_of_document (by simp [splitFragment_of_isWord hname]), splitFragment_of_isWord hname]
  change (Uri.resolve rootUri name).bind _ = _
  rw [resolve_of_isWord hname]
  change (Uri.resolve rootUri name).map _ = _
  rw [resolve_of_isWord hname]
  rfl

theorem node_referring (key : String) {name : String} (hname : IsWord name) :
    (read rootPlace (referring key name)).node =
      .rules [.assertion "type" (.type [.object] true), .property key (.rules [.reference "$ref" (linkTo name)])] := by
  rw [referring, node_of_mapping rfl, List.map_singleton, node_of_reference rfl (ofReference_of_isWord hname)]
  · exact isAnonymous_of_forall (List.forall_mem_singleton.2 rfl)
  · rw [List.forall_mem_singleton]
    exact (isNameless_reference name).isAnonymous

theorem isSchema_referring (key : String) {name : String} (hname : IsWord name) : IsSchema (referring key name) := by
  refine isSchema_mapping (List.forall_mem_singleton.2 (isSchema_reference ?_))
  change (UriReference.parse name).toOption.isSome = true
  rw [UriReference.parse_of_isWord hname]
  rfl

namespace Resources

variable {references : References} {name : String} {schema : Tree} {all all' : Resources}

section Find

variable {r : Resources} {source d : Uri} {t : Tree}

/-- Nothing comes back to a document without anchors. -/
theorem extend_empty (hanchors : r.anchors = bundled.anchors)
    (hsource : OrderedMap.contains bundled.documents source = false)
    (hfresh : r.hasRecursiveAnchor source = false) : r.extend .empty source = .empty := by
  have hstatic : (r.anchors.any fun a => a.document = source && a.anchor.dynamic) = false := by
    rw [List.any_eq_false]
    intro a ha
    have hne := anchors_of_not_contains hanchors hsource a ha
    simp [hne]
  unfold extend
  dsimp only
  rw [hstatic, hfresh]
  rfl

theorem extend_empty_of_get? (hanchors : r.anchors = bundled.anchors)
    (hd : OrderedMap.contains bundled.documents d = false)
    (hget : OrderedMap.get? r.documents d = some ⟨.draft7, t⟩) (hfresh : t.member? "$recursiveAnchor" = none) :
    r.extend .empty d = .empty := by
  refine extend_empty hanchors hd ?_
  rw [hasRecursiveAnchor, hget, Option.any_some, hfresh]
  rfl

variable (hsource : r.extend .empty source = .empty) (hget : OrderedMap.get? r.documents d = some ⟨.draft7, t⟩)
variable (ht : IsNameless t)

include hsource hget ht

/-- An empty fragment leads to the whole document. -/
theorem find_document : r.find ⟨source, d, "", false, .empty⟩ = .ok (⟨.draft7, .draft7, d, .empty⟩, t) := by
  unfold find
  simp only [hsource, Bool.false_and, hget]
  change Except.ok (placed .draft7 d .empty t) = _
  rw [placed, named_of_isAnonymous ht.isAnonymous]

/-- A pointer leads to a part of the document. -/
theorem find_part {fragment decoded : String} {pointer : List Char} (hfragment : fragment.toList = '/' :: pointer)
    (hdecoded : String.fromUTF8? ⟨(decodeEscapes pointer).toArray⟩ = some decoded) {part : Tree}
    (hwalk : walk fragment .draft7 d [] t (splitChars '/' decoded.toList) = .ok (d, part)) (hpart : t.HasPart part) :
    r.find ⟨source, d, fragment, false, .empty⟩ = .ok (⟨.draft7, .draft7, d, .empty⟩, part) := by
  unfold find
  simp only [hsource, Bool.false_and, hget, hfragment, hdecoded, hwalk]
  change Except.ok (placed .draft7 d .empty part) = _
  rw [placed, named_of_isAnonymous (ht.part hpart).isAnonymous]

end Find

/-- Where the schema itself is at hand under its own URI, the reference leads to it. -/
theorem Follows.find_linkTo (h : Follows name schema all all') (hnameless : IsNameless schema) :
    all'.find (linkTo name) = .ok (rootPlace.relocate (documentUri name), schema) := by
  have hsource : all'.extend .empty rootUri = .empty := extend_empty h.others not_contains_rootUri h.fresh
  rw [linkTo, find_document hsource h.home hnameless, rootPlace, Setting.relocate, relocate_rootUri]
  rfl

theorem relocated_of_follows (h : gather references rootUri schema = .ok all)
    (hportable : ArePortable references name schema (start rootUri schema) [rootErrand schema])
    (hfollows : Follows name schema all all') : Relocated (documentUri name) all all' where
  home := not_contains_bundled name
  anchors := hfollows.anchors
  others := hfollows.others
  nameless := fun d t ⟨hothers, draft, hd⟩ => (hportable d t (Gathers.of_collect h hd) hothers).nameless
  settled := fun d t ⟨hothers, draft, hd⟩ => (hportable d t (Gathers.of_collect h hd) hothers).settled
  documents := by
    rintro d t ⟨hothers, draft, hd⟩
    have hdraft : draft = .draft7 := hfollows.drafts d _ hd hothers
    subst hdraft
    refine ⟨hd, ?_⟩
    by_cases hroot : d = rootUri
    · rw [hroot, hfollows.root] at hd
      cases hd
      rw [hroot, relocate_rootUri]
      exact hfollows.home
    · rw [relocate_of_ne hroot]
      by_cases hown : d = documentUri name
      · cases hfollows.own _ (hown ▸ hd)
        rw [hown]
        exact hfollows.home
      · rw [hfollows.same d hroot hown, hd]

/-- The program of a schema that refers to another one. -/
def referringProgram (key name : String) (links : Links) : Program :=
  ⟨.rules [.assertion "type" (.type [.object] true), .property key (.rules [.reference "$ref" (linkTo name)])], links⟩

theorem build_referring (key : String) (hname : IsWord name) {links : Links}
    (hlinks : Links.settle all' Links.maxLinks [] [.resolve (linkTo name)] = .ok links) :
    Program.build all' rootUri (referring key name) = .ok (referringProgram key name links) := by
  have hnode := node_referring key hname
  have hsettle :
      Links.settle all' Links.maxLinks [] (read rootPlace (referring key name)).node.demands = .ok links := by
    rw [hnode]
    exact hlinks
  rw [Program.build_of_settle (isNameless_referring key name) hsettle, hnode]
  rfl

/-- The reference is followed once, and enough links are left behind it. -/
theorem exists_accepts_referring (key : String) {links : Links} {n : Node} (hn : links.node? (linkTo name) = some n)
    (v : Tree) : ∃ fuel, (referringProgram key name links).reach v ≤ fuel ∧
      (referringProgram key name links).accepts (.object [(key, v)]) =
        n.accepts ((referringProgram key name links).follow fuel).toBehind v := by
  have hdepth : (Tree.object [(key, v)]).depth = v.depth + 1 := by
    rw [Tree.depth, Tree.depthMembers, Tree.depthMembers, Nat.max_zero]
  have hreach : (referringProgram key name links).reach (.object [(key, v)]) =
      (referringProgram key name links).reach v + links.length + 1 := by
    rw [Program.reach, Program.reach, hdepth, Nat.succ_mul (v.depth + 1)]
    rfl
  have htype : (Assertion.type [.object] true).holds (.object [(key, v)]) = true := by
    simp [Assertion.holds, Assertion.causes, Assertion.when, TypeName.has]
  have hmember : OrderedMap.get? (membersOf (.object [(key, v)])) key = some v := by
    simp [membersOf, Tree.object?, OrderedMap.get?]
  have hfollow (fuel : Nat) : ((referringProgram key name links).follow (fuel + 1)).accepts (linkTo name) v =
      n.accepts ((referringProgram key name links).follow fuel).toBehind v := by
    simp only [Program.follow, referringProgram, hn]
  refine ⟨(referringProgram key name links).reach v + links.length, Nat.le_add_right _ _, ?_⟩
  rw [Program.accepts, hreach, ← hfollow]
  simp only [referringProgram, Node.accepts, acceptsAll, Rule.accepts, htype, hmember, Bool.true_and, Bool.and_true]

section Program

variable {key : String} {p : Program} {links : Links}
variable (hname : IsWord name) (h : Relocated (documentUri name) all all') (hfollows : Follows name schema all all')
variable (hroot : all.Holds rootUri schema) (hp : Program.build all rootUri schema = .ok p)

include hname h hfollows hroot hp

/-- There is room for the links behind the reference. -/
theorem exists_build_referring (key : String) (hroom : p.links.length < Links.maxLinks) :
    ∃ links, Links.settle all' Links.maxLinks [] [.resolve (linkTo name)] = .ok links ∧
      Program.build all' rootUri (referring key name) = .ok (referringProgram key name links) := by
  have hself := hfollows.find_linkTo (h.nameless _ _ hroot)
  obtain ⟨links, hlinks⟩ := h.exists_settle hname hroot hp hself hroom
  exact ⟨links, hlinks, build_referring key hname hlinks⟩

/-- Behind the reference stands the schema that is registered. -/
theorem accepts_referring (hdescends : p.Descends)
    (hlinks : Links.settle all' Links.maxLinks [] [.resolve (linkTo name)] = .ok links) (v : Tree) :
    (referringProgram key name links).accepts (.object [(key, v)]) = p.accepts v := by
  have hself := hfollows.find_linkTo (h.nameless _ _ hroot)
  have hsettled := h.isSettled_of_build hroot hp
  obtain ⟨hnode, hlinked, -⟩ := h.linked_of_build hroot hp
  obtain ⟨hclosed, hsettles, -⟩ := Links.settle_closed hlinks Links.pending_nil
  have hsimulates := h.simulates hname hroot hp hself hlinks (referringProgram key name links).root
  have hq : (referringProgram key name links).IsSettled :=
    ⟨hclosed, fun link n hn => h.plain_of_settle hname hroot hp hself hlinks hn⟩
  obtain ⟨n, hn⟩ := Option.isSome_iff_exists.1 (hsettles.isSome (List.mem_singleton_self _))
  obtain rfl := (Links.settle_sound hlinks Links.sound_nil).node_eq hn hself
  obtain ⟨fuel, hreach, hroundabout⟩ := exists_accepts_referring key hn v
  have hlike := h.like_relocate hname hlinked.isIn
  have hpreach := Nat.le_max_left (p.reach v) ((referringProgram key name links).reach v)
  have hqreach := Nat.le_max_right (p.reach v) ((referringProgram key name links).reach v)
  have hqdescends := hsimulates.descends hsettled hdescends
  calc (referringProgram key name links).accepts (.object [(key, v)])
    _ = (read (rootPlace.relocate (documentUri name)) schema).node.accepts
          ((referringProgram key name links).follow fuel).toBehind v := hroundabout
    _ = (read (rootPlace.relocate (documentUri name)) schema).node.accepts
          ((referringProgram key name links).follow (max (p.reach v)
            ((referringProgram key name links).reach v))).toBehind v :=
        Program.accepts_eq_of_reach_le hq hqdescends (hq.plain _ _ hn) hreach hqreach
    _ = (read rootPlace schema).node.accepts
          (p.follow (max (p.reach v) ((referringProgram key name links).reach v))).toBehind v :=
        (hsimulates.accepts_eq hsettled hlike hlinked.settles _ v).symm
    _ = (read rootPlace schema).node.accepts (p.follow (p.reach v)).toBehind v :=
        Program.accepts_eq_of_reach_le hsettled hdescends (h.plain_of_isIn hlinked.isIn) hpreach (Nat.le_refl _)
    _ = p.accepts v := by rw [Program.accepts, hnode]

end Program

end Resources

/-! ### Its validator -/

/-- A schema that is compiled means the same where another one refers to it by its identifier: every document that it
leads to is portable, no link comes back to itself without going into the instance, and there is room for one more
document and one more link. -/
structure Validator.Movable (references : References) (name : String) (c : Validator) : Prop where
  portable : Resources.ArePortable references name c.schema (Resources.start rootUri c.schema)
    [Resources.rootErrand c.schema]
  descends : c.program.Descends
  documents : ∀ all, Resources.gather references rootUri c.schema = .ok all → all.documents.length < Resources.maxRounds
  links : c.program.links.length < Links.maxLinks

namespace Validator

variable {references : References} {name : String} {schema : Tree} {c : Validator}

/-- What is behind a nameless schema that is compiled. -/
theorem compileLowered_eq_ok_iff (h : IsNameless schema) : compileLowered references schema = .ok c ↔
    c.schema = schema ∧ metaProgram.violations schema = [] ∧ ∃ all,
      Resources.gather references rootUri schema = .ok all ∧ Program.build all rootUri schema = .ok c.program := by
  have huri := uriOf_of_isAnonymous h.isAnonymous
  rw [compileLowered_eq_ok_iff_exists]
  constructor
  · rintro ⟨uri, all, huri', hall, hschema, hnone, hbuild⟩
    obtain rfl := Except.ok.inj (huri.symm.trans huri')
    exact ⟨hschema, hnone, all, hall, hbuild⟩
  · rintro ⟨hschema, hnone, all, hall, hbuild⟩
    exact ⟨rootUri, all, huri, hall, hschema, hnone, hbuild⟩

theorem schema_of_compile {canonical : Tree} (h : compile references canonical = .ok c) :
    c.schema = lower canonical :=
  (exists_of_compile h).1

/-- A schema may stand for itself or behind its identifier. -/
theorem exists_compile_referring (key : String) (hname : IsWord name) {canonical : Tree}
    (hget : OrderedMap.get? references name = some canonical) (hc : compile references canonical = .ok c)
    (hmovable : c.Movable references name) :
    ∃ c', compile references (referring key name) = .ok c' ∧ ∀ v, c'.isValid (.object [(key, v)]) = c.isValid v := by
  obtain ⟨hportable, hdescends, hdocuments, hlinks⟩ := hmovable
  have hschema : (OrderedMap.get? references name).map lower = some c.schema := by
    rw [hget, Option.map_some, schema_of_compile hc]
  have hnameless : IsNameless c.schema :=
    (hportable _ _ (.now Resources.get?_start) not_contains_rootUri).nameless
  rw [compile, ← schema_of_compile hc, compileLowered_eq_ok_iff hnameless] at hc
  obtain ⟨-, -, all, hgather, hbuild⟩ := hc
  obtain ⟨all', hgather', hfollows⟩ :=
    Resources.gather_referring hname hschema hnameless key hportable hgather (hdocuments all hgather)
  have hrelocated := Resources.relocated_of_follows hgather hportable hfollows
  have hroot : all.Holds rootUri c.schema := ⟨not_contains_rootUri, .draft7, hfollows.root⟩
  obtain ⟨links, hsettle, hbuild'⟩ :=
    Resources.exists_build_referring hname hrelocated hfollows hroot hbuild key hlinks
  refine ⟨⟨referring key name, Resources.referringProgram key name links⟩, ?_, fun v => ?_⟩
  · rw [compile, lower_referring, compileLowered_eq_ok_iff (isNameless_referring key name)]
    exact ⟨rfl, (isSchema_referring key hname).violations_eq_nil, all', hgather', hbuild'⟩
  · exact Resources.accepts_referring hname hrelocated hfollows hroot hbuild hdescends hsettle v

end Validator

end YamlSchema.Schema
