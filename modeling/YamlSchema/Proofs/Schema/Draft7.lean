import Mathlib.Data.List.Basic
import YamlSchema.Proofs.Traversal
import YamlSchema.Schema.MetaSchema.Draft7
import YamlSchema.Schema.Reading

/-!
# Schemas read by Draft 7

What becomes of the schemas that are made of a few keywords, when they are read by Draft 7: each keyword becomes the
rules that it stands for (`node_of_object`).  A tree that gives itself neither a draft nor an identifier is anonymous;
going inside it changes nothing (`entering_of_isAnonymous`).
-/

namespace YamlSchema.Schema

open Reading

/-- A tree gives itself neither a draft nor an identifier. -/
def isAnonymous (t : Tree) : Bool := ["$schema", "$id"].all fun key => !(t.member? key).any Tree.isString

/-! ### Anonymous trees -/

theorem isAnonymous_of_forall {ms : List (String × Tree)} (h : ∀ m ∈ ms, m.2.isString = false) :
    isAnonymous (.object ms) = true := by
  have hget : ∀ key, (OrderedMap.get? ms key).any Tree.isString = false := by
    intro key
    cases hm : OrderedMap.get? ms key with
    | none => rfl
    | some t => exact h _ (OrderedMap.mem_of_get? hm)
  simp [isAnonymous, Tree.member?, Tree.object?, hget]

theorem isAnonymous_of_keys {ms : List (String × Tree)} (h : ∀ key ∈ ["$schema", "$id"], key ∉ OrderedMap.keys ms) :
    isAnonymous (.object ms) = true := by
  have hget : ∀ key ∈ ["$schema", "$id"], OrderedMap.get? ms key = none :=
    fun key hkey => OrderedMap.get?_eq_none_iff.2 (h key hkey)
  rw [isAnonymous, List.all_eq_true]
  intro key hkey
  simp [Tree.member?, Tree.object?, hget key hkey]

theorem named_of_isAnonymous {t : Tree} (h : isAnonymous t = true) (d : Draft) : d.named t = .ok d := by
  simp only [isAnonymous, List.all_cons, Bool.and_eq_true] at h
  unfold Draft.named
  split
  · rename_i name heq
    simp [heq, Tree.isString] at h
  · rfl

theorem ownId?_of_isAnonymous {ms : List (String × Tree)} (h : isAnonymous (.object ms) = true) :
    Draft.ownId? .draft7 ms = none := by
  simp only [isAnonymous, List.all_cons, Bool.and_eq_true, Tree.member?, Tree.object?, Option.bind_some] at h
  unfold Draft.ownId?
  split
  · rfl
  · split
    · rename_i id heq
      simp only [Draft.idKeyword] at heq
      simp [heq, Tree.isString] at h
    · rfl

theorem baseWithin_of_isAnonymous {ms : List (String × Tree)} (h : isAnonymous (.object ms) = true) (base : Uri) :
    baseWithin .draft7 base ms = base := by
  rw [baseWithin, ownId?_of_isAnonymous h]

theorem entering_of_isAnonymous {s : Setting} (hs : s.draft = .draft7) {t : Tree} (h : isAnonymous t = true) :
    s.entering t = s := by
  obtain ⟨draft, vocabularies, base, scope⟩ := s
  dsimp only at hs
  subst hs
  rw [Setting.entering, Draft.within, named_of_isAnonymous h]
  cases t with
  | object ms => rw [Setting.inside, baseWithin_of_isAnonymous h]
  | _ => rfl

theorem entering_array {s : Setting} (hs : s.draft = .draft7) (ts : List Tree) : s.entering (.array ts) = s :=
  entering_of_isAnonymous hs rfl

/-! ### Keywords -/

theorem get?_readMembers (s : Setting) (ms : List (String × Tree)) (key : String) :
    OrderedMap.get? (readMembers s ms) key = (OrderedMap.get? ms key).map fun t => read (s.entering t) t := by
  induction ms with
  | nil => simp [readMembers]
  | cons m rest ih =>
    obtain ⟨k, t⟩ := m
    by_cases hk : k = key
    · simp [readMembers, OrderedMap.get?, hk]
    · simp [readMembers, OrderedMap.get?, hk, ih]

theorem readMembers_eq_map (s : Setting) (ms : List (String × Tree)) :
    readMembers s ms = ms.map fun m => (m.1, read (s.entering m.2) m.2) := by
  induction ms with
  | nil => simp [readMembers]
  | cons m rest ih => rw [readMembers, ih, List.map_cons]

theorem readItems_eq_map (s : Setting) (ts : List Tree) :
    readItems s ts = ts.map fun t => read (s.entering t) t := by
  induction ts with
  | nil => simp [readItems]
  | cons t rest ih => rw [readItems, ih, List.map_cons]

@[simp] theorem tree_read (s : Setting) (t : Tree) : (read s t).tree = t := by cases t <;> simp [read]

theorem entries_read (s : Setting) (ms : List (String × Tree)) :
    (read s (.object ms)).entries = ms.map fun m => (m.1, (read (s.entering m.2) m.2).node) := by
  rw [read, readMembers_eq_map, List.map_map]
  rfl

theorem elements_read (s : Setting) (ts : List Tree) :
    (read s (.array ts)).elements = ts.map fun t => (read (s.entering t) t).node := by
  rw [read, readItems_eq_map, List.map_map]
  rfl

section Keywords

attribute [local simp] readMembers knownRules keywordRules

variable {s : Setting} (hs : s.draft = .draft7)

include hs

theorem hasKeyword_eq (keyword : String) : s.hasKeyword keyword = Draft.draft7.hasKeyword .draft7 keyword := by
  have hhides : Draft.draft7.hidesSiblings = true := by decide
  rw [Setting.hasKeyword, hs, Draft.hasKeyword, Draft.hasKeyword, hhides, Bool.true_or, Bool.true_or, Bool.true_or,
    Bool.true_or]

private theorem hasKeyword_of_mem {keyword : String} (h : keyword ∈ ["$schema", "$id", "title", "definitions", "type",
    "enum", "items", "properties", "required", "default", "anyOf", "uniqueItems", "additionalProperties",
    "minItems", "format"]) : s.hasKeyword keyword = true := by
  rw [hasKeyword_eq hs]
  revert keyword
  decide

/-- Each keyword becomes the rules that it stands for, as long as no reference hides it. -/
theorem node_of_object {ms : List (String × Tree)} (h : OrderedMap.get? ms "$ref" = none) :
    (read s (.object ms)).node = .rules ((readMembers s ms).flatMap (knownRules s (readMembers s ms))) := by
  rw [read, assemble, get?_readMembers, h, Option.map_none]
  dsimp only
  -- Draft 7 has none of the keywords that ask what those beside them evaluate
  have hknown : ∀ e ∈ readMembers s ms, (isUnevaluated e.1 && s.hasKeyword e.1) = false := by
    intro e _
    by_cases hu : isUnevaluated e.1 = true
    · simp only [isUnevaluated, Bool.or_eq_true, decide_eq_true_eq] at hu
      rw [hasKeyword_eq hs]
      rcases hu with hu | hu <;> rw [hu] <;> decide
    · simp [hu]
  refine congrArg _ (List.flatMap_congr fun e he => ?_)
  rw [hknown e he]
  rfl

theorem node_of_reference {target : String} {link : Link} (h : Link.ofReference s target = .ok link) :
    (read s (.object [("$ref", .string target)])).node = .rules [.reference "$ref" link] := by
  have hhides : Draft.draft7.hidesSiblings = true := by decide
  rw [read, assemble, get?_readMembers, hs, hhides]
  simp [OrderedMap.get?, referenceRules, read, h]

private theorem typed_of_name {name : String} {t : TypeName} (h : TypeName.ofName? name = some t) :
    typed s (.string name) = [.assertion "type" (.type [t] true)] := by
  have hwhole : Draft.draft7.takesWholeDoubles = true := by decide
  simp [typed, h, hs, hwhole]

theorem node_of_typed {name : String} {t : TypeName} (h : TypeName.ofName? name = some t) :
    (read s (.object [("type", .string name)])).node = .rules [.assertion "type" (.type [t] true)] := by
  rw [node_of_object hs (by simp [OrderedMap.get?])]
  simp [hasKeyword_of_mem hs, typed_of_name hs h, read]

/-- A text in a format. -/
theorem node_of_formatted {name : String} {f : Format} (h : Format.ofName? .draft7 name = some f) :
    (read s (MetaSchema.formatted name)).node =
      .rules [.assertion "type" (.type [.string] true), .assertion "format" (.format f)] := by
  have hstring : TypeName.ofName? "string" = some .string := by decide
  have hchecks : Draft.draft7.checksFormats = true := by decide
  rw [MetaSchema.formatted, MetaSchema.word, node_of_object hs (by simp [OrderedMap.get?])]
  simp [hasKeyword_of_mem hs, typed_of_name hs hstring, formatRules, MetaSchema.word, hs, hchecks, h, read]

theorem node_of_enum (options : List Tree) :
    (read s (.object [("enum", .array options)])).node = .rules [.assertion "enum" (.enum options)] := by
  rw [node_of_object hs (by simp [OrderedMap.get?])]
  simp [hasKeyword_of_mem hs, read]

omit hs in
private theorem itemRules_of_object {all : Siblings} (h : OrderedMap.get? all "prefixItems" = none)
    (ms : List (String × Tree)) :
    itemRules s all (read s (.object ms)) = [.items (read s (.object ms)).node] := by
  simp [itemRules, tree?, h]

private theorem itemRules_of_true (all : Siblings) (other : Setting) :
    itemRules s all (read other (.bool true)) = [] := by
  have hlater : Draft.draft7.isSince .draft2019 = false := by decide
  simp [itemRules, tellsEvaluated, hs, hlater]

/-- A list whose items all meet a schema. -/
theorem node_of_items {ms : List (String × Tree)} (h : isAnonymous (.object ms) = true) :
    (read s (.object [("type", .string "array"), ("items", .object ms)])).node =
      .rules [.assertion "type" (.type [.array] true), .items (read s (.object ms)).node] := by
  have harray : TypeName.ofName? "array" = some .array := by decide
  rw [node_of_object hs (by simp [OrderedMap.get?])]
  simp [hasKeyword_of_mem hs, entering_of_isAnonymous hs h,
    itemRules_of_object, OrderedMap.get?, typed_of_name hs harray]

/-- A list of anything. -/
theorem node_of_list :
    (read s (.object [("type", .string "array"), ("items", .bool true)])).node =
      .rules [.assertion "type" (.type [.array] true)] := by
  have harray : TypeName.ofName? "array" = some .array := by decide
  rw [node_of_object hs (by simp [OrderedMap.get?])]
  simp [hasKeyword_of_mem hs, itemRules_of_true hs, typed_of_name hs harray]

/-- A list of different texts. -/
theorem node_of_distinctTexts :
    (read s MetaSchema.distinctTexts).node = .rules [.assertion "type" (.type [.array] true),
      .items (.rules [.assertion "type" (.type [.string] true)]), .assertion "uniqueItems" .uniqueItems] := by
  have harray : TypeName.ofName? "array" = some .array := by decide
  have htext : isAnonymous (MetaSchema.typed "string") = true := by decide
  have hstring := node_of_typed hs (show TypeName.ofName? "string" = some .string by decide)
  rw [MetaSchema.distinctTexts, node_of_object hs (by simp [OrderedMap.get?])]
  rw [MetaSchema.typed, MetaSchema.word] at *
  simp [hasKeyword_of_mem hs, entering_of_isAnonymous hs htext,
    itemRules_of_object, OrderedMap.get?, typed_of_name hs harray, hstring, MetaSchema.word]

/-- A mapping whose values all meet a schema. -/
theorem node_of_mapOf {ms : List (String × Tree)} (h : isAnonymous (.object ms) = true) :
    (read s (MetaSchema.mapOf (.object ms))).node = .rules [.assertion "type" (.type [.object] true),
      .members [] [] (some (read s (.object ms)).node)] := by
  have hobject : TypeName.ofName? "object" = some .object := by decide
  rw [MetaSchema.mapOf, node_of_object hs (by simp [OrderedMap.get?])]
  simp [hasKeyword_of_mem hs, entering_of_isAnonymous hs h,
    OrderedMap.get?, typed_of_name hs hobject, MetaSchema.word, closing, pure, Except.pure]

/-- A choice of schemas, with a default beside it or not. -/
theorem node_of_anyOf (schemas : List Tree) {rest : List (String × Tree)} (hrest : ∀ m ∈ rest, m.1 = "default") :
    (read s (.object (("anyOf", .array schemas) :: rest))).node =
      .rules [.anyOf (schemas.map fun t => (read (s.entering t) t).node)] := by
  have href : OrderedMap.get? (("anyOf", .array schemas) :: rest) "$ref" = none := by
    rw [OrderedMap.get?_eq_none_iff, OrderedMap.keys, List.map_cons]
    simp only [List.mem_cons, List.mem_map, not_or]
    refine ⟨by decide, ?_⟩
    rintro ⟨m, hm, heq⟩
    rw [hrest m hm] at heq
    exact absurd heq (by decide)
  rw [node_of_object hs href, readMembers, List.flatMap_cons, List.flatMap_eq_nil_iff.2, List.append_nil]
  · simp [hasKeyword_of_mem hs, elements_read, entering_array hs]
  · intro e he
    rw [readMembers_eq_map, List.mem_map] at he
    obtain ⟨m, hm, rfl⟩ := he
    simp [hrest m hm, hasKeyword_of_mem hs]

private theorem rules_of_properties {all : Siblings} (hall : OrderedMap.get? all "additionalProperties" = none)
    {ps : List (String × Tree)} (hps : ∀ p ∈ ps, isAnonymous p.2 = true) :
    keywordRules s all "properties" (read s (.object ps)) = ps.map fun p => .property p.1 (read s p.2).node := by
  have hopen : isClosed all = false := by simp [isClosed, tree?, hall]
  simp only [keywordRules, hopen, tree_read, entries_read, List.map_map, Bool.false_eq_true, if_false]
  exact List.map_congr_left fun p hp => by rw [Function.comp, entering_of_isAnonymous hs (hps p hp)]

omit hs in
private theorem texts?_map_string (names : List String) : texts? (names.map .string) = .ok names := by
  rw [texts?, mapM_eq_ok_iff, List.forall₂_map_left_iff, List.forall₂_same]
  exact fun _ _ => rfl

/-- A mapping some of whose members have to meet schemas. -/
theorem node_of_mapping {ps : List (String × Tree)} (h : isAnonymous (.object ps) = true)
    (hps : ∀ p ∈ ps, isAnonymous p.2 = true) :
    (read s (.object [("type", .string "object"), ("properties", .object ps)])).node =
      .rules (.assertion "type" (.type [.object] true) :: ps.map fun p => .property p.1 (read s p.2).node) := by
  have hobject : TypeName.ofName? "object" = some .object := by decide
  rw [node_of_object hs (by simp [OrderedMap.get?])]
  simp only [readMembers, knownRules, entering_of_isAnonymous hs h, List.flatMap_cons]
  rw [rules_of_properties hs (by simp [OrderedMap.get?]) hps]
  simp [hasKeyword_of_mem hs, typed_of_name hs hobject]

/-- A mapping with some properties. -/
theorem node_of_properties {ps : List (String × Tree)} (h : isAnonymous (.object ps) = true)
    (hps : ∀ p ∈ ps, isAnonymous p.2 = true) (names : List String) :
    (read s (.object [("type", .string "object"), ("properties", .object ps),
        ("required", .array (names.map .string))])).node =
      .rules (.assertion "type" (.type [.object] true) :: (ps.map fun p => .property p.1 (read s p.2).node) ++
        [.assertion "required" (.required names)]) := by
  have hobject : TypeName.ofName? "object" = some .object := by decide
  rw [node_of_object hs (by simp [OrderedMap.get?])]
  simp only [readMembers, knownRules, entering_of_isAnonymous hs h, List.flatMap_cons]
  rw [rules_of_properties hs (by simp [OrderedMap.get?]) hps]
  simp [hasKeyword_of_mem hs, typed_of_name hs hobject, named, texts?_map_string]

/-- A document that is a schema of schemas: the keywords are its properties. -/
theorem node_of_document {ps : List (String × Tree)} (h : isAnonymous (.object ps) = true)
    (hps : ∀ p ∈ ps, isAnonymous p.2 = true) (draft id title definitions default : Tree) :
    (read s (.object [("$schema", draft), ("$id", id), ("title", title), ("definitions", definitions),
        ("type", MetaSchema.schemaTypes), ("properties", .object ps), ("default", default)])).node =
      .rules (.assertion "type" (.type [.object, .boolean] true) ::
        ps.map fun p => .property p.1 (read s p.2).node) := by
  have htype : typed s MetaSchema.schemaTypes = [.assertion "type" (.type [.object, .boolean] true)] := by
    have hobject : TypeName.ofName? "object" = some .object := by decide
    have hboolean : TypeName.ofName? "boolean" = some .boolean := by decide
    have hwhole : Draft.draft7.takesWholeDoubles = true := by decide
    simp [typed, MetaSchema.schemaTypes, MetaSchema.words, MetaSchema.word, hobject, hboolean, hs, hwhole,
      List.mapM_cons, bind, Except.bind, pure, Except.pure]
  rw [node_of_object hs (by simp [OrderedMap.get?])]
  simp only [readMembers, knownRules, entering_of_isAnonymous hs h, List.flatMap_cons]
  rw [rules_of_properties hs (by simp [OrderedMap.get?]) hps]
  simp [hasKeyword_of_mem hs, htype]

end Keywords

end YamlSchema.Schema
