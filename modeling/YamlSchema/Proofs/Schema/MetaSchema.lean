import YamlSchema.Proofs.Schema.Agreement
import YamlSchema.Proofs.Schema.Draft7
import YamlSchema.Proofs.Schema.Linking

/-!
# What the schema of schemas accepts

A tree `IsSchema` if the schema of Draft 7 schemas finds nothing wrong with it, however many references it follows.
Truth values are schemas, and so are the mappings with a type, with a choice of literals, with items and with properties
that are made of schemas.
-/

namespace YamlSchema.Schema

open MetaSchema (reference)
open MetaSchema.Draft7 (document keywords)

/-! ### Its references -/

/-- The setting in which the schema of schemas is read. -/
def metaSetting : Setting := ⟨.draft7, .draft7, Draft.draft7.uri, .empty⟩

/-- A reference of the schema of schemas to one of its parts. -/
def metaLink (fragment : String) : Link := ⟨Draft.draft7.uri, Draft.draft7.uri, fragment, false, .empty⟩

/-- The rules of the schema of schemas. -/
def metaNode : Node := (read metaSetting document).node

private theorem ok_of_toOption {ε α : Type} {x : Except ε α} {a : α} (h : x.toOption = some a) : x = .ok a := by
  cases x with
  | ok b => exact congrArg _ (Option.some.inj h)
  | error _ => cases h

/-- What its links lead to is the whole document, or the part that their fragments point to. -/
private theorem find_metaLink :
    (Resources.bundled.find (metaLink "")).toOption = some (metaSetting, document) ∧
      (Resources.bundled.find (metaLink "/definitions/simpleTypes")).toOption =
        some (metaSetting, MetaSchema.typeNames) ∧
      (Resources.bundled.find (metaLink "/definitions/stringArray")).toOption =
        some (metaSetting, MetaSchema.distinctTexts) := by decide +kernel

theorem find_root : Resources.bundled.find (metaLink "") = .ok (metaSetting, document) :=
  ok_of_toOption find_metaLink.1

theorem find_simpleTypes :
    Resources.bundled.find (metaLink "/definitions/simpleTypes") = .ok (metaSetting, MetaSchema.typeNames) :=
  ok_of_toOption find_metaLink.2.1

theorem find_stringArray :
    Resources.bundled.find (metaLink "/definitions/stringArray") = .ok (metaSetting, MetaSchema.distinctTexts) :=
  ok_of_toOption find_metaLink.2.2

private theorem node_of_root : (read metaSetting (reference "#")).node = .rules [.reference "$ref" (metaLink "")] :=
  node_of_reference rfl rfl

private theorem node_of_simpleTypes : (read metaSetting (reference "#/definitions/simpleTypes")).node =
    .rules [.reference "$ref" (metaLink "/definitions/simpleTypes")] :=
  node_of_reference rfl rfl

private theorem node_of_stringArray : (read metaSetting (reference "#/definitions/stringArray")).node =
    .rules [.reference "$ref" (metaLink "/definitions/stringArray")] :=
  node_of_reference rfl rfl

/-- The program of the schema of schemas starts with its rules, and its links lead to what it has at hand. -/
theorem metaProgram_spec :
    (metaProgram.root = metaNode ∨ metaProgram.root = .always true) ∧ metaProgram.links.Sound .bundled := by
  unfold metaProgram
  split
  · rename_i p hp
    obtain ⟨hroot, hlinks⟩ := Program.build_sound hp
    have hsetting : Program.rootSetting Draft.draft7.uri document = metaSetting := rfl
    rw [hsetting] at hroot
    exact ⟨.inl hroot, hlinks⟩
  · exact ⟨.inr rfl, Links.sound_nil⟩

/-- Behind a link nothing is wrong with a tree if the node that is meant finds nothing. -/
theorem violations_metaLink_eq_nil {fragment : String} {part t : Tree}
    (hfind : Resources.bundled.find (metaLink fragment) = .ok (metaSetting, part))
    (h : ∀ fuel, (read metaSetting part).node.violations (metaProgram.follow fuel) t = []) (fuel : Nat) :
    (metaProgram.follow fuel).violations (metaLink fragment) t = [] := by
  refine Program.violations_follow_eq_nil (fun n hn => ?_) fuel
  rw [metaProgram_spec.2.node_eq hn hfind]
  exact h

/-! ### Its rules -/

private theorem keywords_spec : isAnonymous (.object (membersOf keywords)) = true ∧
    (∀ m ∈ membersOf keywords, isAnonymous m.2 = true) ∧ (OrderedMap.keys (membersOf keywords)).Nodup := by
  decide

/-- The schemas of the keywords by which shapes are described. -/
private theorem get?_keywords :
    OrderedMap.get? (membersOf keywords) "type" =
        some (MetaSchema.typeChoice (reference "#/definitions/simpleTypes")) ∧
      OrderedMap.get? (membersOf keywords) "enum" = some (MetaSchema.listOf (.bool true)) ∧
      OrderedMap.get? (membersOf keywords) "items" = some (.object
        [("anyOf", .array [reference "#", reference "#/definitions/schemaArray"]), ("default", .bool true)]) ∧
      OrderedMap.get? (membersOf keywords) "properties" = some (MetaSchema.mapOf (reference "#")) ∧
      OrderedMap.get? (membersOf keywords) "required" = some (reference "#/definitions/stringArray") :=
  ⟨rfl, rfl, rfl, rfl, rfl⟩

theorem metaNode_eq : metaNode = .rules (.assertion "type" (.type [.object, .boolean] true) ::
    (membersOf keywords).map fun m => .property m.1 (read metaSetting m.2).node) :=
  node_of_document rfl keywords_spec.1 keywords_spec.2.1 _ _ _ _ _

/-- The schema of schemas finds nothing wrong with a tree, however many references are followed. -/
def IsSchema (t : Tree) : Prop := ∀ fuel, metaNode.violations (metaProgram.follow fuel) t = []

theorem IsSchema.violations_eq_nil {t : Tree} (h : IsSchema t) : metaProgram.violations t = [] := by
  rw [Program.violations]
  rcases metaProgram_spec.1 with hroot | hroot
  · rw [hroot, h]
  · rw [hroot, Node.violations]

/-- The schema of a keyword finds nothing wrong with a value, however many references are followed. -/
private def Fits (key : String) (u : Tree) : Prop :=
  ∀ t, OrderedMap.get? (membersOf keywords) key = some t →
    ∀ fuel, (read metaSetting t).node.violations (metaProgram.follow fuel) u = []

theorem isSchema_bool (b : Bool) : IsSchema (.bool b) := by
  intro fuel
  rw [metaNode_eq, Node.violations_rules_eq_nil_iff, List.forall_mem_cons, List.forall_mem_map]
  refine ⟨?_, fun m _ => by simp [Rule.violations, membersOf, Tree.object?]⟩
  rw [Rule.violations_type_eq_nil_iff]
  exact ⟨.boolean, by simp, rfl⟩

/-- A mapping is a schema if each keyword in it has a value that fits. -/
private theorem isSchema_of_fits {ms : List (String × Tree)} (h : ∀ m ∈ ms, Fits m.1 m.2) : IsSchema (.object ms) := by
  intro fuel
  rw [metaNode_eq, Node.violations_rules_eq_nil_iff, List.forall_mem_cons, List.forall_mem_map]
  constructor
  · rw [Rule.violations_type_eq_nil_iff]
    exact ⟨.object, by simp, rfl⟩
  · intro m hm
    rw [Rule.violations_property_eq_nil_iff]
    intro u hu
    exact h _ (OrderedMap.mem_of_get? hu) m.2 (OrderedMap.get?_of_mem keywords_spec.2.2 hm) fuel

private theorem fits_of_get? {key : String} {t u : Tree} (ht : OrderedMap.get? (membersOf keywords) key = some t)
    (h : ∀ fuel, (read metaSetting t).node.violations (metaProgram.follow fuel) u = []) : Fits key u := by
  intro other hother
  rw [ht] at hother
  cases hother
  exact h

/-- A choice finds nothing if one of its schemas does. -/
private theorem violations_anyOf_eq_nil {p : Program} {fuel : Nat} {nodes : List Node} {n : Node} {u : Tree}
    (hn : n ∈ nodes) (h : n.violations (p.follow fuel) u = []) :
    (Rule.anyOf nodes).violations (p.follow fuel) u = [] := by
  rw [← Rule.accepts_iff (p.agrees_follow fuel), Rule.accepts]
  rw [← Node.accepts_iff (p.agrees_follow fuel)] at h
  have hcount : ∀ nodes : List Node, n ∈ nodes → 0 < countAccepting (p.follow fuel).toBehind nodes u := by
    intro nodes hn
    induction nodes with
    | nil => cases hn
    | cons first rest ih =>
      rw [countAccepting]
      rcases List.mem_cons.1 hn with rfl | hn
      · rw [if_pos h]; omega
      · have := ih hn; omega
  simpa using hcount nodes hn

private theorem violations_root_eq_nil {t : Tree} (h : IsSchema t) (fuel : Nat) :
    (Node.rules [.reference "$ref" (metaLink "")]).violations (metaProgram.follow fuel) t = [] := by
  rw [Node.violations_singleton_eq_nil_iff, Rule.violations_reference_eq_nil_iff]
  exact violations_metaLink_eq_nil find_root h fuel

/-! ### Values that fit their keywords -/

private theorem violations_typeNames_eq_nil {name : String} {t : TypeName} (h : TypeName.ofName? name = some t)
    (f : Follow) : (read metaSetting MetaSchema.typeNames).node.violations f (.string name) = [] := by
  rw [MetaSchema.typeNames, MetaSchema.words, node_of_enum rfl, Node.violations_singleton_eq_nil_iff,
    Rule.violations_assertion_eq_nil_iff, Assertion.causes_enum_eq_nil_iff]
  have htext : t.text = name := by simpa using List.find?_some h
  refine ⟨.string name, List.mem_map.2 ⟨name, ?_, rfl⟩, by simp [Tree.same]⟩
  rw [← htext]
  cases t <;> decide

private theorem fits_type {name : String} {t : TypeName} (h : TypeName.ofName? name = some t) :
    Fits "type" (.string name) := by
  have hsame : metaSetting.entering (reference "#/definitions/simpleTypes") = metaSetting :=
    entering_of_isAnonymous rfl rfl
  refine fits_of_get? get?_keywords.1 fun fuel => ?_
  rw [MetaSchema.typeChoice, MetaSchema.anyOf, node_of_anyOf rfl _ (by simp), Node.violations_singleton_eq_nil_iff,
    List.map_cons, hsame, node_of_simpleTypes]
  refine violations_anyOf_eq_nil (List.mem_cons_self ..) ?_
  rw [Node.violations_singleton_eq_nil_iff, Rule.violations_reference_eq_nil_iff]
  exact violations_metaLink_eq_nil find_simpleTypes (fun _ => violations_typeNames_eq_nil h _) fuel

private theorem fits_enum (literals : List Tree) : Fits "enum" (.array literals) := by
  refine fits_of_get? get?_keywords.2.1 fun fuel => ?_
  rw [MetaSchema.listOf, MetaSchema.word, node_of_list rfl, Node.violations_singleton_eq_nil_iff,
    Rule.violations_type_eq_nil_iff]
  exact ⟨.array, by simp, rfl⟩

private theorem fits_items {t : Tree} (h : IsSchema t) : Fits "items" t := by
  have hsame : metaSetting.entering (reference "#") = metaSetting := entering_of_isAnonymous rfl rfl
  -- items are one schema or a list of schemas; the first of the two is the schema of schemas itself
  refine fits_of_get? get?_keywords.2.2.1 fun fuel => ?_
  rw [node_of_anyOf rfl _ (by simp), Node.violations_singleton_eq_nil_iff, List.map_cons, hsame,
    node_of_root]
  exact violations_anyOf_eq_nil (List.mem_cons_self ..) (violations_root_eq_nil h fuel)

private theorem fits_properties {ps : List (String × Tree)} (h : ∀ p ∈ ps, IsSchema p.2) :
    Fits "properties" (.object ps) := by
  refine fits_of_get? get?_keywords.2.2.2.1 fun fuel => ?_
  rw [reference, node_of_mapOf rfl rfl, Node.violations_rules_eq_nil_iff, List.forall_mem_cons,
    List.forall_mem_singleton, Rule.violations_type_eq_nil_iff, Rule.violations_members_eq_nil_iff]
  refine ⟨⟨.object, by simp, rfl⟩, fun p hp => ?_⟩
  have hroot := violations_root_eq_nil (h p hp) fuel
  rw [← node_of_root, reference] at hroot
  simpa [violationsNamed, violationsMatching, violationsIfAny] using hroot

private theorem hasRepeats_map_string {names : List String} (h : names.Nodup) :
    hasRepeats (names.map .string) = false := by
  induction names with
  | nil => rfl
  | cons name rest ih =>
    obtain ⟨hname, hrest⟩ := List.nodup_cons.1 h
    rw [List.map_cons, hasRepeats, ih hrest, Bool.or_false, List.any_eq_false, List.forall_mem_map]
    intro other hother
    rw [Tree.same, decide_eq_true_eq]
    rintro rfl
    exact hname hother

private theorem violations_distinctTexts_eq_nil {names : List String} (h : names.Nodup) (f : Follow) :
    (read metaSetting MetaSchema.distinctTexts).node.violations f (.array (names.map .string)) = [] := by
  rw [node_of_distinctTexts rfl, Node.violations_rules_eq_nil_iff, List.forall_mem_cons, List.forall_mem_cons,
    List.forall_mem_singleton, Rule.violations_type_eq_nil_iff, Rule.violations_items_eq_nil_iff,
    Rule.violations_assertion_eq_nil_iff, Assertion.causes_uniqueItems_eq_nil_iff]
  refine ⟨⟨.array, by simp, rfl⟩, ?_, hasRepeats_map_string h⟩
  intro t ht
  obtain ⟨name, -, rfl⟩ := List.mem_map.1 ht
  rw [Node.violations_singleton_eq_nil_iff, Rule.violations_type_eq_nil_iff]
  exact ⟨.string, by simp, rfl⟩

private theorem fits_reference {target : String} (h : Format.uriReference.accepts target = true) :
    Fits "$ref" (.string target) := by
  have hformat : Format.ofName? .draft7 "uri-reference" = some .uriReference := by decide
  have hget : OrderedMap.get? (membersOf keywords) "$ref" = some (MetaSchema.formatted "uri-reference") := rfl
  refine fits_of_get? hget fun fuel => ?_
  rw [node_of_formatted rfl hformat, Node.violations_rules_eq_nil_iff, List.forall_mem_cons,
    List.forall_mem_singleton, Rule.violations_type_eq_nil_iff, Rule.violations_assertion_eq_nil_iff]
  refine ⟨⟨.string, by simp, rfl⟩, ?_⟩
  simp [Assertion.causes, Assertion.when, h]

private theorem fits_required {names : List String} (h : names.Nodup) :
    Fits "required" (.array (names.map .string)) := by
  refine fits_of_get? get?_keywords.2.2.2.2 fun fuel => ?_
  rw [node_of_stringArray, Node.violations_singleton_eq_nil_iff, Rule.violations_reference_eq_nil_iff]
  exact violations_metaLink_eq_nil find_stringArray (fun _ => violations_distinctTexts_eq_nil h _) fuel

/-! ### Schemas -/

theorem isSchema_typed {name : String} {t : TypeName} (h : TypeName.ofName? name = some t) :
    IsSchema (.object [("type", .string name)]) :=
  isSchema_of_fits (List.forall_mem_singleton.2 (fits_type h))

theorem isSchema_enum (literals : List Tree) : IsSchema (.object [("enum", .array literals)]) :=
  isSchema_of_fits (List.forall_mem_singleton.2 (fits_enum literals))

theorem isSchema_items {t : Tree} (h : IsSchema t) : IsSchema (.object [("type", .string "array"), ("items", t)]) := by
  have harray : TypeName.ofName? "array" = some .array := by decide
  refine isSchema_of_fits ?_
  rw [List.forall_mem_cons, List.forall_mem_singleton]
  exact ⟨fits_type harray, fits_items h⟩

theorem isSchema_reference {target : String} (h : Format.uriReference.accepts target = true) :
    IsSchema (.object [("$ref", .string target)]) :=
  isSchema_of_fits (List.forall_mem_singleton.2 (fits_reference h))

theorem isSchema_mapping {ps : List (String × Tree)} (h : ∀ p ∈ ps, IsSchema p.2) :
    IsSchema (.object [("type", .string "object"), ("properties", .object ps)]) := by
  have hobject : TypeName.ofName? "object" = some .object := by decide
  refine isSchema_of_fits ?_
  rw [List.forall_mem_cons, List.forall_mem_singleton]
  exact ⟨fits_type hobject, fits_properties h⟩

theorem isSchema_properties {ps : List (String × Tree)} {names : List String} (h : ∀ p ∈ ps, IsSchema p.2)
    (hnames : names.Nodup) : IsSchema (.object [("type", .string "object"), ("properties", .object ps),
      ("required", .array (names.map .string))]) := by
  have hobject : TypeName.ofName? "object" = some .object := by decide
  refine isSchema_of_fits ?_
  rw [List.forall_mem_cons, List.forall_mem_cons, List.forall_mem_singleton]
  exact ⟨fits_type hobject, fits_properties h, fits_required hnames⟩

end YamlSchema.Schema
