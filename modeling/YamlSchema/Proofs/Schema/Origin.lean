import YamlSchema.Proofs.Schema.Draft7
import YamlSchema.Schema.Evaluate

/-!
# Where rules come from

A rule of a schema `StemsFrom` its members: what it asks by itself it asks for a keyword that the schema `Owns`, and the
schemas in it are those that its keywords hold, at the way that the rule puts in front of their violations (`Carries`).
So all that reading can make of a mapping is known (`stemsFrom_of_read`), whatever its draft is.
-/

namespace YamlSchema.Schema

/-! ### Keywords -/

/-- The keywords that a violation can be of in each draft that has them. -/
def reportedAlways : List String :=
  ["$ref", "additionalItems", "additionalProperties", "anyOf", "const", "contains", "contentEncoding",
    "contentMediaType", "dependencies", "else", "enum", "exclusiveMaximum", "exclusiveMinimum", "format", "items",
    "maxItems", "maxLength", "maxProperties", "maximum", "minItems", "minLength", "minProperties", "minimum",
    "multipleOf", "not", "oneOf", "pattern", "propertyNames", "required", "then", "type", "uniqueItems"]

/-- Those that are no keywords before 2019. -/
def reportedLater : List String :=
  ["$dynamicRef", "$recursiveRef", "dependentRequired", "maxContains", "minContains", "unevaluatedItems",
    "unevaluatedProperties"]

/-- The keywords of a draft that a violation can be of. -/
def Draft.reported (d : Draft) : List String :=
  reportedAlways ++ if d.isSince .draft2019 then reportedLater else []

/-- The keywords whose schema has to be met. -/
def soleKeywords : List String := ["additionalItems", "additionalProperties", "else", "items", "propertyNames", "then"]

/-- The keywords that hold a list of schemas each of which has to be met. -/
def listKeywords : List String := ["allOf", "items", "prefixItems"]

/-- The keywords that hold a mapping of names to schemas each of which has to be met. -/
def mapKeywords : List String := ["dependencies", "dependentSchemas", "patternProperties", "properties"]

/-- The keyword of a schema that a violation is of, seen from the schema, if it is not one of a schema inside.  The
bounds of `contains` are reported below it, and to be false is nothing that a keyword says. -/
inductive Owns (s : Setting) : Tree → Pointer → Prop
  | member {members : OrderedMap Tree} {keyword : String} {operand : Tree} (hmember : (keyword, operand) ∈ members)
      (hkeyword : keyword ∈ s.draft.reported) : Owns s (.object members) [.key keyword]
  | bound {members : OrderedMap Tree} {keyword : String} {test operand : Tree} (htest : ("contains", test) ∈ members)
      (hmember : (keyword, operand) ∈ members) (hkeyword : keyword ∈ s.draft.reported)
      (hbound : keyword ∈ ["maxContains", "minContains"]) : Owns s (.object members) [.key "contains", .key keyword]
  | never : Owns s (.bool false) []

variable {s : Setting} {members : OrderedMap Tree}

/-- The schemas that a mapping asks a value to meet, or a part of the value, and the ways to them. -/
inductive Embeds (s : Setting) (members : OrderedMap Tree) : Pointer → Setting → Tree → Prop
  | sole {keyword : String} {t : Tree} (hkeyword : keyword ∈ soleKeywords) (ht : (keyword, t) ∈ members) :
      Embeds s members [.key keyword] (s.entering t) t
  | listed {keyword : String} {items : List Tree} {i : Nat} {t : Tree} (hkeyword : keyword ∈ listKeywords)
      (hitems : (keyword, .array items) ∈ members) (ht : items[i]? = some t) :
      Embeds s members [.key keyword, .index i] ((s.entering (.array items)).entering t) t
  | named {keyword name : String} {entries : OrderedMap Tree} {t : Tree} (hkeyword : keyword ∈ mapKeywords)
      (hentries : (keyword, .object entries) ∈ members) (ht : (name, t) ∈ entries) :
      Embeds s members [.key keyword, .key name] ((s.entering (.object entries)).entering t) t

/-- A reference of a mapping, and the link that it is. -/
inductive PointsAt (s : Setting) (members : OrderedMap Tree) : String → Tree → Link → Prop
  | reference {keyword target : String} {link : Link} (hkeyword : keyword ∈ ["$ref", "$dynamicRef"])
      (hreported : keyword ∈ s.draft.reported) (hmember : (keyword, .string target) ∈ members)
      (hlink : Link.ofReference s target = .ok link) : PointsAt s members keyword (.string target) link
  | recursion {operand : Tree} (hreported : "$recursiveRef" ∈ s.draft.reported)
      (hmember : ("$recursiveRef", operand) ∈ members) : PointsAt s members "$recursiveRef" operand (.recursion s)

/-- A node is one that a mapping asks for at a way. -/
def Carries (s : Setting) (members : OrderedMap Tree) (way : Pointer) (node : Node) : Prop :=
  ∃ s' t, Embeds s members way s' t ∧ node = (read s' t).node

/-- A rule asks what the members of a schema ask. -/
inductive StemsFrom (s : Setting) (members : OrderedMap Tree) : Rule → Prop
  | assertion {keyword : String} {a : Assertion} (h : Owns s (.object members) [.key keyword]) :
      StemsFrom s members (.assertion keyword a)
  | reference {keyword : String} {operand : Tree} {link : Link} (h : PointsAt s members keyword operand link) :
      StemsFrom s members (.reference keyword link)
  | property {name : String} {node : Node} (h : Carries s members [.key "properties", .key name] node) :
      StemsFrom s members (.property name node)
  | patternProperty {pattern : Pattern} {node : Node}
      (h : Carries s members [.key "patternProperties", .key pattern.text] node) :
      StemsFrom s members (.patternProperty pattern node)
  | members {named : List (String × Node)} {patterned : List (Pattern × Node)} {others : Option Node}
      (hclosing : Owns s (.object members) [.key "additionalProperties"])
      (hnamed : ∀ e ∈ named, Carries s members [.key "properties", .key e.1] e.2)
      (hpatterned : ∀ e ∈ patterned, Carries s members [.key "patternProperties", .key e.1.text] e.2)
      (hothers : ∀ node ∈ others, Carries s members [.key "additionalProperties"] node) :
      StemsFrom s members (.members named patterned others)
  | items {node : Node} (h : Carries s members [.key "items"] node) : StemsFrom s members (.items node)
  | itemAt {keyword : String} {i : Nat} {node : Node} (h : Carries s members [.key keyword, .index i] node) :
      StemsFrom s members (.itemAt keyword i node)
  | itemsFrom {keyword : String} {count : Nat} {node : Node} (h : Carries s members [.key keyword] node) :
      StemsFrom s members (.itemsFrom keyword count node)
  | contains {node : Node} (h : Owns s (.object members) [.key "contains"]) : StemsFrom s members (.contains node)
  | containsWithin {low high : Option Nat} {evaluates : Bool} {node : Node}
      (h : ∀ count way, brokenBound low high count = some way → Owns s (.object members) way) :
      StemsFrom s members (.containsWithin low high evaluates node)
  | names {node : Node} (h : Carries s members [.key "propertyNames"] node) : StemsFrom s members (.names node)
  | dependency {keyword name : String} {node : Node} (h : Carries s members [.key keyword, .key name] node) :
      StemsFrom s members (.dependency keyword name node)
  | allOf {i : Nat} {node : Node} (h : Carries s members [.key "allOf", .index i] node) :
      StemsFrom s members (.allOf i node)
  | anyOf {nodes : List Node} (h : Owns s (.object members) [.key "anyOf"]) : StemsFrom s members (.anyOf nodes)
  | oneOf {nodes : List Node} (h : Owns s (.object members) [.key "oneOf"]) : StemsFrom s members (.oneOf nodes)
  | not {node : Node} {schema : Tree} (h : Owns s (.object members) [.key "not"]) :
      StemsFrom s members (.not node schema)
  | conditional {test : Node} {yes no : Option Node} (hyes : ∀ node ∈ yes, Carries s members [.key "then"] node)
      (hno : ∀ node ∈ no, Carries s members [.key "else"] node) : StemsFrom s members (.conditional test yes no)
  | unevaluatedMembers {beside : List Rule} {node : Node} (h : Owns s (.object members) [.key "unevaluatedProperties"]) :
      StemsFrom s members (.unevaluatedMembers beside node)
  | unevaluatedItems {beside : List Rule} {node : Node} (h : Owns s (.object members) [.key "unevaluatedItems"]) :
      StemsFrom s members (.unevaluatedItems beside node)
  | refused (why : Refusal) : StemsFrom s members (.refused why)

/-! ### Owned keywords -/

theorem reported_of_mem {keyword : String} (h : keyword ∈ reportedAlways) (d : Draft) : keyword ∈ d.reported :=
  List.mem_append_left _ h

theorem reported_of_isSince {keyword : String} {d : Draft} (hd : d.isSince .draft2019 = true)
    (h : keyword ∈ reportedLater) : keyword ∈ d.reported := by
  rw [Draft.reported, hd, if_pos rfl]
  exact List.mem_append_right _ h

/-- A keyword of the later drafts is known in these only. -/
theorem reported_of_hasKeyword {keyword : String} (hlater : keyword ∈ ["$dynamicRef", "$recursiveRef",
    "dependentRequired", "unevaluatedItems", "unevaluatedProperties"]) (h : s.hasKeyword keyword = true) :
    keyword ∈ s.draft.reported := by
  have hsince : ∀ d vocabularies : Draft, ∀ keyword ∈ ["$dynamicRef", "$recursiveRef", "dependentRequired",
      "unevaluatedItems", "unevaluatedProperties"], d.hasKeyword vocabularies keyword = true →
      d.isSince .draft2019 = true := by
    intro d vocabularies
    cases d <;> cases vocabularies <;> decide
  have hnames : ∀ keyword ∈ ["$dynamicRef", "$recursiveRef", "dependentRequired", "unevaluatedItems",
      "unevaluatedProperties"], keyword ∈ reportedLater := by decide
  exact reported_of_isSince (hsince _ _ keyword hlater h) (hnames keyword hlater)

theorem PointsAt.mem {keyword : String} {operand : Tree} {link : Link} (h : PointsAt s members keyword operand link) :
    (keyword, operand) ∈ members ∧ keyword ∈ s.draft.reported := by
  cases h with
  | reference _ hreported hmember _ => exact ⟨hmember, hreported⟩
  | recursion hreported hmember => exact ⟨hmember, hreported⟩

@[simp] theorem stemsFrom_refused (why : Refusal) : StemsFrom s members (.refused why) := .refused why

@[simp] theorem stemsFrom_assertion_iff {keyword : String} {a : Assertion} :
    StemsFrom s members (.assertion keyword a) ↔ Owns s (.object members) [.key keyword] := by
  constructor
  · rintro ⟨h⟩
    exact h
  · exact .assertion

namespace Reading

section Siblings

variable {keyword : String}

theorem exists_of_get?_readMembers {r : Reading} (h : OrderedMap.get? (readMembers s members) keyword = some r) :
    ∃ t, (keyword, t) ∈ members ∧ r = read (s.entering t) t := by
  rw [get?_readMembers, Option.map_eq_some_iff] at h
  obtain ⟨t, ht, rfl⟩ := h
  exact ⟨t, OrderedMap.mem_of_get? ht, rfl⟩

theorem mem_of_tree?_readMembers {t : Tree} (h : tree? (readMembers s members) keyword = some t) :
    (keyword, t) ∈ members := by
  rw [tree?, Option.map_eq_some_iff] at h
  obtain ⟨r, hr, rfl⟩ := h
  obtain ⟨t, ht, rfl⟩ := exists_of_get?_readMembers hr
  rwa [tree_read]

theorem carries_of_node?_readMembers {n : Node} (hkeyword : keyword ∈ soleKeywords)
    (h : node? (readMembers s members) keyword = some n) : Carries s members [.key keyword] n := by
  rw [node?, Option.map_eq_some_iff] at h
  obtain ⟨r, hr, rfl⟩ := h
  obtain ⟨t, ht, rfl⟩ := exists_of_get?_readMembers hr
  exact ⟨_, _, .sole hkeyword ht, rfl⟩

end Siblings

/-! ### Rules without schemas -/

section Flat

variable {keyword : String} {value : Tree} (h : Owns s (.object members) [.key keyword])

include h

theorem stemsFrom_counted (a : Nat → Assertion) : ∀ r ∈ counted s keyword value a, StemsFrom s members r := by
  unfold counted
  split <;> simp [h]

theorem stemsFrom_numeric (a : Number → Assertion) : ∀ r ∈ numeric keyword value a, StemsFrom s members r := by
  unfold numeric
  split <;> simp [refuse, h]

theorem stemsFrom_named (a : List String → Assertion) :
    ∀ r ∈ named value fun names => [.assertion keyword (a names)], StemsFrom s members r := by
  unfold named
  split
  · split <;> simp [refuse, h]
  · simp [refuse]

omit h in
theorem stemsFrom_typed (h : Owns s (.object members) [.key "type"]) : ∀ r ∈ typed s value, StemsFrom s members r := by
  unfold typed
  dsimp only
  split
  · split <;> simp [h]
  · split <;> simp [h]
  · split <;> simp [h]
  · simp [refuse]

theorem stemsFrom_requiredRules (r : Reading) : ∀ rule ∈ requiredRules keyword r, StemsFrom s members rule := by
  unfold requiredRules
  split
  · rw [List.forall_mem_flatMap]
    intro e _
    split
    · split
      · simp
      · exact stemsFrom_named h _
    · simp [refuse]
  · simp [refuse]

theorem stemsFrom_formatRules (r : Reading) : ∀ rule ∈ formatRules s keyword r, StemsFrom s members rule := by
  unfold formatRules
  split
  · simp
  · split
    · cases Format.ofName? s.draft _ <;> simp [h]
    · simp [refuse]

omit h in
theorem stemsFrom_bound {exclusive : String} (h : Owns s (.object members) [.key keyword])
    (hexclusive : exclusive ∈ reportedAlways) (a exclusively : Number → Assertion) :
    ∀ r ∈ bound s (readMembers s members) keyword exclusive value a exclusively, StemsFrom s members r := by
  unfold bound
  split
  · rename_i hflag
    rw [Bool.and_eq_true, decide_eq_true_eq, decide_eq_true_eq] at hflag
    exact stemsFrom_numeric (.member (mem_of_tree?_readMembers hflag.2) (reported_of_mem hexclusive _)) exclusively
  · exact stemsFrom_numeric h a

omit h in
theorem stemsFrom_content (h : Owns s (.object members) [.key "contentMediaType"]) (mediaType : String) :
    ∀ r ∈ content (readMembers s members) mediaType, StemsFrom s members r := by
  unfold content
  split
  · simp
  · split
    · simp [h]
    · rename_i hencoding
      have hencoded : Owns s (.object members) [.key "contentEncoding"] :=
        .member (mem_of_tree?_readMembers hencoding) (reported_of_mem (by decide) _)
      split <;> simp [h, hencoded]
    · simp [refuse]

end Flat

/-! ### Rules with schemas -/

theorem carries_of_mem_entries {keyword : String} {entries : OrderedMap Tree} (hkeyword : keyword ∈ mapKeywords)
    (hentries : (keyword, .object entries) ∈ members) {e : String × Node}
    (he : e ∈ (read (s.entering (.object entries)) (.object entries)).entries) :
    Carries s members [.key keyword, .key e.1] e.2 := by
  rw [entries_read, List.mem_map] at he
  obtain ⟨m, hm, rfl⟩ := he
  exact ⟨_, _, .named hkeyword hentries hm, rfl⟩

theorem carries_of_getElem?_elements {keyword : String} {items : List Tree} (hkeyword : keyword ∈ listKeywords)
    (hitems : (keyword, .array items) ∈ members) {i : Nat} {n : Node}
    (hn : (read (s.entering (.array items)) (.array items)).elements[i]? = some n) :
    Carries s members [.key keyword, .index i] n := by
  rw [elements_read, List.getElem?_map, Option.map_eq_some_iff] at hn
  obtain ⟨t, ht, rfl⟩ := hn
  exact ⟨_, _, .listed hkeyword hitems ht, rfl⟩

/-- The rules of a list of schemas. -/
theorem stemsFrom_mapIdx {keyword : String} {items : List Tree} (hkeyword : keyword ∈ listKeywords)
    (hitems : (keyword, .array items) ∈ members) {rule : Nat → Node → Rule}
    (hrule : ∀ i n, Carries s members [.key keyword, .index i] n → StemsFrom s members (rule i n)) :
    ∀ r ∈ (read (s.entering (.array items)) (.array items)).elements.mapIdx rule, StemsFrom s members r := by
  intro r hr
  rw [List.mem_mapIdx] at hr
  obtain ⟨i, hi, rfl⟩ := hr
  exact hrule _ _ (carries_of_getElem?_elements hkeyword hitems (List.getElem?_eq_getElem hi))

/-- The rules of a mapping of names to schemas. -/
theorem stemsFrom_map {keyword : String} {entries : OrderedMap Tree} (hkeyword : keyword ∈ mapKeywords)
    (hentries : (keyword, .object entries) ∈ members) {rule : String → Node → Rule}
    (hrule : ∀ name n, Carries s members [.key keyword, .key name] n → StemsFrom s members (rule name n)) :
    ∀ r ∈ (read (s.entering (.object entries)) (.object entries)).entries.map fun e => rule e.1 e.2,
      StemsFrom s members r := by
  intro r hr
  obtain ⟨e, he, rfl⟩ := List.mem_map.1 hr
  exact hrule _ _ (carries_of_mem_entries hkeyword hentries he)

theorem text_of_read? {text : String} {p : Pattern} (h : Pattern.read? text = some p) : p.text = text := by
  simp only [Pattern.read?, Option.bind_eq_bind, Option.bind_eq_some_iff] at h
  obtain ⟨_, -, ⟨e, used⟩, -, h⟩ := h
  dsimp only at h
  split at h
  · obtain ⟨_, -, h⟩ := Option.bind_eq_some_iff.1 h
    cases h
    rfl
  · obtain ⟨_, -, h⟩ := Option.bind_eq_some_iff.1 h
    cases h
    rfl

theorem carries_of_mem_patterned {entries : OrderedMap Tree}
    (hentries : ("patternProperties", .object entries) ∈ members) {e : Pattern × Node}
    (he : .ok e ∈ patterned (read (s.entering (.object entries)) (.object entries))) :
    Carries s members [.key "patternProperties", .key e.1.text] e.2 := by
  obtain ⟨⟨entry, m⟩, hentry, heq⟩ := List.mem_map.1 he
  have hmem := (List.of_mem_zip hentry).1
  dsimp only at heq
  split at heq
  · rename_i p hp
    cases heq
    dsimp only
    rw [text_of_read? hp]
    exact carries_of_mem_entries (by decide) hentries hmem
  · cases heq

theorem stemsFrom_patternRules {entries : List (Except Refusal (Pattern × Node))}
    (h : ∀ e, .ok e ∈ entries → Carries s members [.key "patternProperties", .key e.1.text] e.2) :
    ∀ r ∈ patternRules entries, StemsFrom s members r := by
  intro r hr
  obtain ⟨e, he, rfl⟩ := List.mem_map.1 hr
  cases e with
  | ok e => exact .patternProperty (h e he)
  | error why => exact .refused why

/-- The readings of a mapping among the siblings, if it is one. -/
private theorem mem_of_isObject {keyword : String}
    (h : ((OrderedMap.get? (readMembers s members) keyword).all fun r => r.tree.object?.isSome) = true) {r : Reading}
    (hr : OrderedMap.get? (readMembers s members) keyword = some r) :
    ∃ entries, (keyword, .object entries) ∈ members ∧ r = read (s.entering (.object entries)) (.object entries) := by
  obtain ⟨t, ht, rfl⟩ := exists_of_get?_readMembers hr
  rw [hr, Option.all_some, tree_read] at h
  cases t with
  | object entries => exact ⟨entries, ht, rfl⟩
  | _ => cases h

theorem stemsFrom_closing {t : Tree} (ht : ("additionalProperties", t) ∈ members) :
    ∀ r ∈ closing s (readMembers s members) (read (s.entering t) t), StemsFrom s members r := by
  have howns : Owns s (.object members) [.key "additionalProperties"] := .member ht (reported_of_mem (by decide) _)
  have hcarries : Carries s members [.key "additionalProperties"] (read (s.entering t) t).node :=
    ⟨_, _, .sole (by decide) ht, rfl⟩
  unfold closing
  rw [tree_read]
  dsimp only
  split
  · simp [refuse]
  rename_i hpatterns
  rw [Bool.not_eq_true, Bool.not_eq_false'] at hpatterns
  split
  · split
    · simp only [List.mem_singleton, forall_eq]
      exact .members howns (by simp) (by simp) (by simpa using hcarries)
    · simp
  split
  · simp
  rename_i hproperties
  rw [Bool.not_eq_true, Bool.not_eq_false'] at hproperties
  have hnamed : ∀ e ∈ ((OrderedMap.get? (readMembers s members) "properties").map Reading.entries).getD [],
      Carries s members [.key "properties", .key e.1] e.2 := by
    cases hget : OrderedMap.get? (readMembers s members) "properties" with
    | none => simp
    | some r =>
      obtain ⟨entries, hentries, rfl⟩ := mem_of_isObject hproperties hget
      exact fun e he => carries_of_mem_entries (by decide) hentries he
  have hpatterned : ∀ e,
      .ok e ∈ ((OrderedMap.get? (readMembers s members) "patternProperties").map patterned).getD [] →
        Carries s members [.key "patternProperties", .key e.1.text] e.2 := by
    cases hget : OrderedMap.get? (readMembers s members) "patternProperties" with
    | none => simp
    | some r =>
      obtain ⟨entries, hentries, rfl⟩ := mem_of_isObject hpatterns hget
      exact fun e he => carries_of_mem_patterned hentries he
  generalize ((OrderedMap.get? (readMembers s members) "patternProperties").map patterned).getD [] = entries
    at hpatterned ⊢
  split
  · simp [howns]
  · rename_i ps hps _
    simp only [List.mem_singleton, forall_eq]
    refine .members howns hnamed (fun e he => hpatterned e ?_) ?_
    · obtain ⟨entry, hentry, heq⟩ := exists_of_mem_mapM_eq_ok hps he
      rwa [← heq]
    · split
      · simp
      · simpa using hcarries
  · exact stemsFrom_patternRules hpatterned

theorem stemsFrom_itemRules {t : Tree} (ht : ("items", t) ∈ members) :
    ∀ r ∈ itemRules s (readMembers s members) (read (s.entering t) t), StemsFrom s members r := by
  have hcarries : Carries s members [.key "items"] (read (s.entering t) t).node := ⟨_, _, .sole (by decide) ht, rfl⟩
  have hall : StemsFrom s members (.items (read (s.entering t) t).node) := .items hcarries
  have hrest (count : Nat) : StemsFrom s members (.itemsFrom "items" count (read (s.entering t) t).node) :=
    .itemsFrom hcarries
  unfold itemRules
  rw [tree_read]
  dsimp only
  split
  · exact stemsFrom_mapIdx (by decide) ht fun i n => .itemAt
  · split <;> simp [hall, hrest]
  · split <;> simp [hall, hrest]
  · split
    · split <;> simp [hall, hrest]
    · simp
  · simp

theorem stemsFrom_additionalItemRules {t : Tree} (ht : ("additionalItems", t) ∈ members) :
    ∀ r ∈ additionalItemRules s (readMembers s members) "additionalItems" (read (s.entering t) t),
      StemsFrom s members r := by
  have howns : Owns s (.object members) [.key "additionalItems"] := .member ht (reported_of_mem (by decide) _)
  have hcarries : Carries s members [.key "additionalItems"] (read (s.entering t) t).node :=
    ⟨_, _, .sole (by decide) ht, rfl⟩
  unfold additionalItemRules
  rw [tree_read]
  split
  · split
    · simpa using .itemsFrom hcarries
    · simp [howns]
    · split
      · simpa using .itemsFrom hcarries
      · simp
    · simp
  · simp [howns]
  · simp
  · simp
  · simp
  · simp [refuse]

/-- The limits for `contains` stand beside it. -/
private theorem exists_mem_of_containsLimit {keyword : String} {n : Nat}
    (h : containsLimit (readMembers s members) keyword = .ok (some n)) : ∃ operand, (keyword, operand) ∈ members := by
  unfold containsLimit at h
  cases hget : tree? (readMembers s members) keyword with
  | none =>
    rw [hget] at h
    cases h
  | some t => exact ⟨t, mem_of_tree?_readMembers hget⟩

theorem stemsFrom_containing {t : Tree} (ht : ("contains", t) ∈ members) :
    ∀ r ∈ containing s (readMembers s members) (read (s.entering t) t), StemsFrom s members r := by
  unfold containing
  split
  · simpa using .contains (.member ht (reported_of_mem (by decide) _))
  rename_i hlater
  rw [Bool.not_eq_true, Bool.not_eq_false', tellsEvaluated] at hlater
  have hreported : ∀ keyword ∈ ["maxContains", "minContains"], keyword ∈ s.draft.reported := fun keyword hkeyword =>
    reported_of_isSince hlater ((by decide : ∀ k ∈ ["maxContains", "minContains"], k ∈ reportedLater) _ hkeyword)
  split
  · simp
  · simp
  rename_i low high hlow hhigh
  simp only [List.mem_singleton, forall_eq]
  refine .containsWithin fun count way hway => ?_
  unfold brokenBound at hway
  split at hway
  · split at hway <;> cases hway
    exact .member ht (reported_of_mem (by decide) _)
  · obtain ⟨_, hmin⟩ := exists_mem_of_containsLimit hlow
    split at hway <;> cases hway
    exact .member hmin (hreported _ (by decide))
  · obtain ⟨_, hmax⟩ := exists_mem_of_containsLimit hhigh
    split at hway <;> cases hway
    exact .member hmax (hreported _ (by decide))
  · obtain ⟨_, hmin⟩ := exists_mem_of_containsLimit hlow
    obtain ⟨_, hmax⟩ := exists_mem_of_containsLimit hhigh
    split at hway
    · cases hway
      exact .bound ht hmax (hreported _ (by decide)) (by decide)
    · split at hway <;> cases hway
      exact .bound ht hmin (hreported _ (by decide)) (by decide)

theorem stemsFrom_dependencyRules {t : Tree} (ht : ("dependencies", t) ∈ members) :
    ∀ r ∈ dependencyRules "dependencies" (read (s.entering t) t), StemsFrom s members r := by
  unfold dependencyRules
  rw [tree_read]
  split
  · rename_i entries
    rw [List.forall_mem_flatMap]
    intro e _
    split
    · exact stemsFrom_named (.member ht (reported_of_mem (by decide) _)) _
    · cases hfind : (read (s.entering (.object entries)) (.object entries)).entries.find? fun n => n.1 = e.1 with
      | none => simp
      | some n => simpa using .dependency (carries_of_mem_entries (by decide) ht (List.mem_of_find?_eq_some hfind))
  · simp [refuse]

theorem stemsFrom_referenceRules {keyword : String} {t : Tree} (hkeyword : keyword ∈ ["$ref", "$dynamicRef"])
    (hreported : keyword ∈ s.draft.reported) (ht : (keyword, t) ∈ members) :
    ∀ r ∈ referenceRules s keyword (read (s.entering t) t), StemsFrom s members r := by
  unfold referenceRules
  rw [tree_read]
  split
  · split
    · rename_i hlink
      simpa using .reference (.reference hkeyword hreported ht hlink)
    · simp
  · simp [refuse]

/-! ### All rules -/

theorem stemsFrom_keywordRules {keyword : String} {t : Tree} (ht : (keyword, t) ∈ members)
    (hknown : s.hasKeyword keyword = true) :
    ∀ r ∈ keywordRules s (readMembers s members) keyword (read (s.entering t) t), StemsFrom s members r := by
  have howns : keyword ∈ reportedAlways → Owns s (.object members) [.key keyword] := fun h =>
    .member ht (reported_of_mem h _)
  unfold keywordRules
  simp only [tree_read]
  split
  -- references
  · exact stemsFrom_referenceRules (by decide) (reported_of_mem (by decide) _) ht
  · exact stemsFrom_referenceRules (by decide) (reported_of_hasKeyword (by decide) hknown) ht
  · simpa using .reference (.recursion (reported_of_hasKeyword (by decide) hknown) ht)
  -- keywords with no schema in them
  · exact stemsFrom_typed (howns (by decide))
  · split
    · simpa using howns (by decide)
    · simp [refuse]
  · simpa using howns (by decide)
  · exact stemsFrom_numeric (howns (by decide)) _
  · exact stemsFrom_bound (howns (by decide)) (by decide) _ _
  · exact stemsFrom_numeric (howns (by decide)) _
  · exact stemsFrom_bound (howns (by decide)) (by decide) _ _
  · exact stemsFrom_numeric (howns (by decide)) _
  iterate 6
    · exact stemsFrom_counted (howns (by decide)) _
  · split
    · split
      · simpa using howns (by decide)
      · simp
    · simp [refuse]
  · split
    · simpa using howns (by decide)
    · simp
  · exact stemsFrom_named (howns (by decide)) _
  · exact stemsFrom_requiredRules (.member ht (reported_of_hasKeyword (by decide) hknown)) _
  · exact stemsFrom_formatRules (howns (by decide)) _
  · split
    · simp
    · split
      · simpa using howns (by decide)
      · simp
      · simp [refuse]
  · split
    · exact stemsFrom_content (howns (by decide)) _
    · simp [refuse]
  -- members
  · split
    · simp
    · split
      · exact stemsFrom_map (by decide) ht fun name n => .property
      · simp [refuse]
  · split
    · simp
    · split
      · exact stemsFrom_patternRules fun e => carries_of_mem_patterned ht
      · simp [refuse]
  · exact stemsFrom_closing ht
  -- items
  · split
    · exact stemsFrom_mapIdx (by decide) ht fun i n => .itemAt
    · simp [refuse]
  · exact stemsFrom_itemRules ht
  · exact stemsFrom_additionalItemRules ht
  · exact stemsFrom_containing ht
  · split
    · simpa using .names ⟨_, _, .sole (by decide) ht, rfl⟩
    · simpa using howns (by decide)
    · simp
  · exact stemsFrom_dependencyRules ht
  · split
    · exact stemsFrom_map (by decide) ht fun name n => .dependency
    · simp [refuse]
  -- applicators
  · split
    · exact stemsFrom_mapIdx (by decide) ht fun i n => .allOf
    · simp [refuse]
  · split
    · simpa using .anyOf (howns (by decide))
    · simp [refuse]
  · split
    · simpa using .oneOf (howns (by decide))
    · simp [refuse]
  · simpa using .not (howns (by decide))
  · split
    · simp
    · simp only [List.mem_singleton, forall_eq]
      exact .conditional (fun n => carries_of_node?_readMembers (by decide))
        fun n => carries_of_node?_readMembers (by decide)
  · simp

/-- A mapping is read to rules, -/
theorem exists_rules_of_read (s : Setting) (members : OrderedMap Tree) :
    ∃ all, (read s (.object members)).node = .rules all := by
  rw [read, assemble]
  dsimp only
  split <;> exact ⟨_, rfl⟩

/-- each of which stems from its members. -/
theorem stemsFrom_of_read {all : List Rule} (h : (read s (.object members)).node = .rules all) :
    ∀ r ∈ all, StemsFrom s members r := by
  have hknown : ∀ e ∈ readMembers s members, ∀ r ∈ knownRules s (readMembers s members) e, StemsFrom s members r := by
    intro e he
    rw [readMembers_eq_map, List.mem_map] at he
    obtain ⟨m, hm, rfl⟩ := he
    unfold knownRules
    split
    · rename_i hkeyword
      exact stemsFrom_keywordRules hm hkeyword
    · simp
  rw [read, assemble] at h
  dsimp only at h
  split at h
  · rename_i r href _
    cases h
    obtain ⟨t, ht, rfl⟩ := exists_of_get?_readMembers href
    exact stemsFrom_referenceRules (by decide) (reported_of_mem (by decide) _) ht
  · cases h
    rw [List.forall_mem_flatMap]
    intro e he
    split
    · rename_i hlater
      rw [Bool.and_eq_true] at hlater
      rw [readMembers_eq_map, List.mem_map] at he
      obtain ⟨m, hm, rfl⟩ := he
      dsimp only at hlater ⊢
      split
      · rename_i hitems
        rw [hitems] at hlater
        have hmember : ("unevaluatedItems", m.2) ∈ members := by rwa [← hitems]
        rw [List.forall_mem_singleton]
        exact .unevaluatedItems (.member hmember (reported_of_hasKeyword (by decide) hlater.2))
      · rename_i hitems
        have hproperties : m.1 = "unevaluatedProperties" := by simpa [isUnevaluated, hitems] using hlater.1
        rw [hproperties] at hlater
        have hmember : ("unevaluatedProperties", m.2) ∈ members := by rwa [← hproperties]
        rw [List.forall_mem_singleton]
        exact .unevaluatedMembers (.member hmember (reported_of_hasKeyword (by decide) hlater.2))
    · exact hknown e he

end Reading

end YamlSchema.Schema
