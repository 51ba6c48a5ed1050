import YamlSchema.Proofs.Registry.Stale
import YamlSchema.Proofs.Registry.Success
import YamlSchema.Proofs.Schema.Referring

/-!
# References by identifier are transparent

A registry is `Built` by calls that succeed.  Every schema in it has a word for its identifier and comes out the same
when it is compiled again (`Built.compile_eq`), so another schema may refer to it by its identifier and accepts there
what it accepts itself (`referring_accepts`), as long as it is `Movable`.
-/

namespace YamlSchema

open Schema

/-- The values of the directives of a text are words. -/
theorem Document.isWord_of_mem_values {path text : String} {d : Document} (h : Document.parse path text = .ok d)
    {key value : String} (hvalue : value ∈ d.values key) : IsWord value := by
  unfold Document.parse at h
  split at h
  · cases h
  · cases h
    obtain ⟨directive, hmem, rfl⟩ := List.mem_map.1 hvalue
    have hmem : directive ∈ extractDirectives text := (List.mem_filter.1 hmem).1
    rw [extractDirectives, Directive.scan_eq_map_standing (fun j hj => absurd hj (Nat.not_lt_zero j)) 0,
      List.mem_map] at hmem
    obtain ⟨place, hplace, rfl⟩ := hmem
    obtain ⟨-, -, hword, -⟩ := Directive.mem_standing_iff.1 hplace
    exact hword

namespace Registry

/-- A document that is registered has been read from a text. -/
def Call.IsRead : Call → Prop
  | .registerDocument d => ∃ path text, Document.parse path text = .ok d
  | .register _ _ | .load _ _ => True

/-- A call is answered without a failure. -/
def Succeeds (r : Registry) : Call → Prop
  | .register fs path => ∃ id, (r.register fs path).2 = .ok id
  | .registerDocument d => ∃ id, (r.registerDocument d).2 = .ok id
  | .load fs paths => ∃ n, (r.load fs paths).2 = .ok n

/-- A registry that is reached by calls that all succeed. -/
inductive Built : Registry → Prop
  | empty : Built empty
  | step {r : Registry} (h : Built r) (call : Call) (hread : call.IsRead) (hok : r.Succeeds call) : Built (r.step call)

variable {r : Registry}

/-! ### Identifiers -/

/-- Every schema stands under a word. -/
def HasWords (r : Registry) : Prop := ∀ id s, r.get? id = some s → IsWord id

theorem HasWords.registerDocument (h : HasWords r) {path text : String} {d : Document}
    (hd : Document.parse path text = .ok d) : HasWords (r.registerDocument d).1 := by
  intro id t ht
  rcases get?_registerDocument_cases ht with hold | ⟨hids, -⟩
  · exact h id t hold
  · have hmem : id ∈ d.values Directive.idKey := by
      rw [hids]
      exact List.mem_singleton_self _
    exact Document.isWord_of_mem_values hd hmem

/-- A file that is read holds a text. -/
theorem exists_parse_of_load {fs : FileSystem} {path : String} {d : Document} (h : Document.load fs path = .ok d) :
    ∃ text, Document.parse path text = .ok d := by
  unfold Document.load at h
  split at h
  · cases h
  · exact ⟨_, h⟩

theorem HasWords.load (h : HasWords r) (fs : FileSystem) (paths : List String) : HasWords (r.load fs paths).1 := by
  obtain ⟨-, -, done, new, hext, hend⟩ := load_spec r fs paths
  intro id s hs
  rcases hext.get?_eq_some hs with hold | ⟨hnew, rfl⟩
  · exact h id s hold
  · obtain ⟨d, hd, -, hids, -⟩ := exists_of_mem_stageAll paths (hext.mem_stagedOf hend hnew)
    obtain ⟨text, hparse⟩ := exists_parse_of_load hd
    have hmem : s.id ∈ d.values Directive.idKey := by
      rw [hids]
      exact List.mem_singleton_self _
    exact Document.isWord_of_mem_values hparse hmem

theorem HasWords.step (h : HasWords r) {call : Call} (hread : call.IsRead) : HasWords (r.step call) := by
  cases call with
  | register fs path =>
    rw [Registry.step, register]
    split
    · rename_i d hd
      obtain ⟨text, hparse⟩ := exists_parse_of_load hd
      exact h.registerDocument hparse
    · exact h
  | registerDocument d =>
    obtain ⟨path, text, hd⟩ := hread
    exact h.registerDocument hd
  | load fs paths => exact h.load fs paths

/-! ### Registries that are built -/

namespace Built

theorem hasWords (h : Built r) : HasWords r := by
  induction h with
  | empty => exact fun _ _ hs => by cases hs
  | step _ call hread _ ih => exact ih.step hread

theorem mirrors (h : Built r) : Mirrors r := by
  induction h with
  | empty => exact .empty
  | step _ call _ _ ih => exact ih.step call

/-- A call that succeeds strands no schema. -/
theorem isCurrent (h : Built r) : IsCurrent r := by
  induction h with
  | empty => exact .empty
  | @step r hr call _ hok ih =>
    refine ih.step hr.mirrors fun hstrands => ?_
    cases call with
    | register | registerDocument => exact hstrands
    | load fs paths =>
      obtain ⟨id, path, why, hfailed⟩ := hstrands.refused hr.mirrors
      obtain ⟨n, hn⟩ := hok
      rw [hfailed] at hn
      cases hn

/-- Every schema is compiled to its validator again. -/
theorem compile_eq (h : Built r) {id : String} {s : Registered} (hs : r.get? id = some s) :
    Validator.compile r.references s.canonical = .ok s.validator := by
  obtain ⟨table, hc, hleads⟩ := (h.isCurrent id s hs).settled
  rw [Validator.compile_congr, hc]
  intro i hi
  obtain ⟨t, ht, htable⟩ := hleads i hi
  rw [h.mirrors.get?_references ht, htable]

end Built

/-- Behind calls that succeed, a schema that has a member meet a registered one by its identifier is compiled, and it
accepts a mapping with this member just if the registered schema accepts the member. -/
theorem referring_accepts (h : Built r) {id : String} {s : Registered} (hs : r.get? id = some s)
    (hmovable : s.validator.Movable r.references id) (key : String) :
    ∃ c, Validator.compile r.references (referring key id) = .ok c ∧
      ∀ v, c.isValid (.object [(key, v)]) = s.validator.isValid v :=
  Validator.exists_compile_referring key (h.hasWords id s hs) (h.mirrors.get?_references hs) (h.compile_eq hs) hmovable

/-! ### A schema that refers to itself -/

/-- A registry with the schema of one document. -/
theorem built_of_compile {path text : String} {d : Document} (hd : Document.parse path text = .ok d) {s : Staged}
    (hs : empty.stage [] d = .ok s) {c : Validator}
    (hc : Validator.compile [(s.id, s.canonical)] s.canonical = .ok c) :
    Built (empty.registerDocument d).1 ∧ (empty.registerDocument d).1.references = [(s.id, s.canonical)] ∧
      (empty.registerDocument d).1.get? s.id = some ⟨s.id, s.path, s.canonical, c⟩ := by
  have hregister : empty.registerDocument d =
      (⟨[(s.id, ⟨s.id, s.path, s.canonical, c⟩)], [(s.id, s.canonical)], []⟩, .ok s.id) := by
    have hannounce : (empty.announce s).references = [(s.id, s.canonical)] := rfl
    simp only [registerDocument, hs, commit, hannounce, hc]
    rfl
  refine ⟨.step .empty (.registerDocument d) ⟨path, text, hd⟩ ⟨s.id, by rw [hregister]⟩, by rw [hregister], ?_⟩
  rw [hregister, get?, OrderedMap.get?, if_pos rfl]

theorem isWord_r : IsWord "r" := ⟨List.cons_ne_nil _ _, List.forall_mem_singleton.2 rfl⟩

/-- A schema in which a member has to meet the schema itself, and another one what a third one has to meet. -/
def chainSchema (kind : List (String × Tree)) : Tree :=
  .object [("type", .string "object"), ("properties", .object [("next", .object [("$ref", .string "r")]),
    ("kind", .object (kind ++ [("enum", .array [.string "a", .string "b"])])),
    ("alias", .object [("$ref", .string "#/properties/kind")])])]

/-- The schema as it is registered. -/
def chainCanonical : Tree := chainSchema [("type", .string "enum")]

def chainDocument : Document := ⟨"r.yml", chainCanonical, [⟨"id", "r"⟩]⟩

theorem parse_chainDocument : Document.parse "r.yml" ("## id: r\ntype: object\nproperties:\n  next:\n    $ref: r\n" ++
    "  kind:\n    type: enum\n    enum: [a, b]\n  alias:\n    $ref: '#/properties/kind'\n") = .ok chainDocument := by
  decide +kernel

theorem lower_chainCanonical : lower chainCanonical = chainSchema [] := rfl

theorem isNameless_chainSchema : IsNameless (chainSchema []) := by
  simp [chainSchema, isNameless_object_iff, isNameless_array_iff, isNameless_string, Tree.isString]

/-- Where the schema stands. -/
def IsHome (d : Uri) : Prop := d = rootUri ∨ d = documentUri "r"

theorem IsHome.not_contains {d : Uri} (hd : IsHome d) : OrderedMap.contains Resources.bundled.documents d = false := by
  rcases hd with rfl | rfl
  · exact not_contains_rootUri
  · exact not_contains_bundled "r"

/-- What is at hand once it has been compiled. -/
def chainResources : Resources := .atHand "r" (chainSchema []) (chainSchema [])

theorem get?_chainResources {d : Uri} (hd : IsHome d) :
    OrderedMap.get? chainResources.documents d = some ⟨.draft7, chainSchema []⟩ := by
  rcases hd with rfl | rfl
  · exact Resources.get?_atHand_rootUri isWord_r
  · exact Resources.get?_atHand

theorem outside_chainSchema {d : Uri} (hd : IsHome d) :
    (Resources.survey [⟨.draft7, d, chainSchema []⟩]).flatMapM Place.outside = .ok [documentUri "r"] := by
  have hlevel : (places 0 .draft7 d (chainSchema [])).Pairwise fun p q => p.level ≤ q.level := by
    rcases hd with rfl | rfl <;> decide +kernel
  rw [Resources.survey_singleton hlevel]
  rcases hd with rfl | rfl <;> rfl

theorem isAtHand_chainResources : ∀ uri ∈ [documentUri "r"], chainResources.IsAtHand uri := by
  rw [List.forall_mem_singleton, Resources.IsAtHand, Resources.documentOf_documentUri isWord_r, OrderedMap.contains,
    get?_chainResources (.inr rfl)]
  rfl

section Links

variable {d : Uri} (hd : IsHome d)

include hd

theorem extend_chainResources : chainResources.extend .empty d = .empty :=
  Resources.extend_empty_of_get? rfl hd.not_contains (get?_chainResources hd) rfl

theorem find_next : chainResources.find ⟨d, documentUri "r", "", false, .empty⟩ =
    .ok (⟨.draft7, .draft7, documentUri "r", .empty⟩, chainSchema []) :=
  Resources.find_document (extend_chainResources hd) (get?_chainResources (.inr rfl)) isNameless_chainSchema

def kindSchema : Tree := .object [("enum", .array [.string "a", .string "b"])]

theorem find_alias : chainResources.find ⟨d, d, "/properties/kind", false, .empty⟩ =
    .ok (⟨.draft7, .draft7, d, .empty⟩, kindSchema) := by
  have hpart : (chainSchema []).pointer? "/properties/kind" = some kindSchema := by decide +kernel
  have hfragment : "/properties/kind".toList = '/' :: "properties/kind".toList := by decide
  have hdecoded : String.fromUTF8? ⟨(Resources.decodeEscapes "properties/kind".toList).toArray⟩ =
      some "properties/kind" := by decide +kernel
  have htokens : splitChars '/' "properties/kind".toList = ["properties".toList, "kind".toList] := by decide
  have hwalk : Resources.walk "/properties/kind" .draft7 d [] (chainSchema [])
      (splitChars '/' "properties/kind".toList) = .ok (d, kindSchema) := by
    rw [htokens]
    rcases hd with rfl | rfl <;> rfl
  exact Resources.find_part (extend_chainResources hd) (get?_chainResources hd) isNameless_chainSchema hfragment
    hdecoded hwalk (.of_pointer? hpart)

theorem demands_chainSchema : (read ⟨.draft7, .draft7, d, .empty⟩ (chainSchema [])).node.demands =
    [.resolve ⟨d, documentUri "r", "", false, .empty⟩, .resolve ⟨d, d, "/properties/kind", false, .empty⟩] := by
  rcases hd with rfl | rfl <;> rfl

end Links

def chainNode (d : Uri) : Node := (read ⟨.draft7, .draft7, d, .empty⟩ (chainSchema [])).node

def kindNode (d : Uri) : Node := (read ⟨.draft7, .draft7, d, .empty⟩ kindSchema).node

/-- The program: the links of the compiled document, and those of the document of its identifier. -/
def chainProgram : Program where
  root := chainNode rootUri
  links := [(⟨rootUri, documentUri "r", "", false, .empty⟩, chainNode (documentUri "r")),
    (⟨documentUri "r", documentUri "r", "", false, .empty⟩, chainNode (documentUri "r")),
    (⟨documentUri "r", documentUri "r", "/properties/kind", false, .empty⟩, kindNode (documentUri "r")),
    (⟨rootUri, rootUri, "/properties/kind", false, .empty⟩, kindNode rootUri)]

theorem build_chainSchema : Program.build chainResources rootUri (chainSchema []) = .ok chainProgram := by
  have hroot : IsHome rootUri := .inl rfl
  have hown : IsHome (documentUri "r") := .inr rfl
  have hne : rootUri ≠ documentUri "r" := (documentUri_ne isWord_r).symm
  have hkind (d : Uri) : (read ⟨.draft7, .draft7, d, .empty⟩ kindSchema).node.demands = [] := rfl
  obtain ⟨fuel, hfuel⟩ : ∃ fuel, Links.maxLinks = fuel + 1 + 1 + 1 + 1 := ⟨18446744073709551612, rfl⟩
  have hsettle : Links.settle chainResources Links.maxLinks [] chainProgram.root.demands = .ok chainProgram.links := by
    rw [hfuel, chainProgram, chainNode, demands_chainSchema hroot, Links.settle_resolve rfl (find_next hroot)]
    simp only [demands_chainSchema hown, List.nil_append, List.cons_append]
    rw [Links.settle_resolve (by simp [Links.node?, hne]) (find_next hown)]
    simp only [demands_chainSchema hown, List.nil_append, List.cons_append]
    rw [Links.settle_resolve_of_isSome (by simp [Links.node?, hne]),
      Links.settle_resolve (by simp [Links.node?, hne]) (find_alias hown)]
    simp only [hkind, List.nil_append, List.cons_append]
    rw [Links.settle_resolve_of_isSome (by simp [Links.node?]),
      Links.settle_resolve (by simp [Links.node?, hne.symm]) (find_alias hroot)]
    simp only [hkind, List.nil_append, List.cons_append]
    rw [Links.settle]
    rfl
  exact Program.build_of_settle isNameless_chainSchema hsettle

def chainReferences : References := [("r", chainCanonical)]

def chainValidator : Validator := ⟨chainSchema [], chainProgram⟩

theorem compile_chainCanonical : Validator.compile chainReferences chainCanonical = .ok chainValidator := by
  have hschema : IsSchema (chainSchema []) := by
    refine isSchema_mapping ?_
    rw [List.forall_mem_cons, List.forall_mem_cons, List.forall_mem_singleton]
    exact ⟨isSchema_reference (by decide +kernel), isSchema_enum _, isSchema_reference (by decide +kernel)⟩
  rw [Validator.compile, lower_chainCanonical, Validator.compileLowered_eq_ok_iff isNameless_chainSchema]
  exact ⟨rfl, hschema.violations_eq_nil, _, Resources.gather_eq_atHand isWord_r rfl isNameless_chainSchema
    isNameless_chainSchema (outside_chainSchema (.inl rfl)) (outside_chainSchema (.inr rfl)) isAtHand_chainResources,
    build_chainSchema⟩

/-- Its references stay in the document or mean the document of its identifier. -/
theorem isSettled_chainSchema {d : Uri} (hd : IsHome d) {w : String} (hw : Refers (chainSchema []) w) :
    IsSettled d w ∧ (startsWith w "#" = true ∨ Uri.resolve d w = .ok (documentUri "r")) := by
  have hrefers : w = "r" ∨ w = "#/properties/kind" := by
    simpa [chainSchema, refers_object_iff, refers_array_iff, not_refers_string] using hw
  rcases hrefers with rfl | rfl
  · have hresolve : Uri.resolve d "r" = .ok (documentUri "r") := by
      rcases hd with rfl | rfl <;> rfl
    have helsewhere : IsElsewhere (documentUri "r") := by
      refine ⟨by unfold IsRoot; decide, ?_⟩
      rw [splitFragment_documentUri isWord_r]
      exact not_contains_bundled "r"
    refine ⟨.inr (.inr ?_), .inr hresolve⟩
    rw [splitFragment_of_isWord isWord_r, List.forall_mem_cons, List.forall_mem_singleton, and_self]
    intro uri huri
    rw [hresolve] at huri
    cases huri
    exact helsewhere
  · exact ⟨.inl rfl, .inl rfl⟩

theorem isPortable_chainSchema {d : Uri} (hd : IsHome d) :
    Resources.IsPortable "r" (chainSchema []) d (chainSchema []) where
  nameless := isNameless_chainSchema
  settled := fun w hw => (isSettled_chainSchema hd hw).1
  covered := by
    intro w hw hhash uri pointer part huri hsplit
    rcases (isSettled_chainSchema hd hw).2 with h | h
    · rw [hhash] at h
      cases h
    · rw [huri] at h
      cases h
      rw [splitFragment_documentUri isWord_r] at hsplit
      cases hsplit

theorem movable_chainValidator : chainValidator.Movable chainReferences "r" where
  portable := by
    intro d t h hothers
    rcases Resources.eq_of_gathers isWord_r rfl isNameless_chainSchema isNameless_chainSchema
      (outside_chainSchema (.inl rfl)) (outside_chainSchema (.inr rfl)) isAtHand_chainResources h hothers with
      ⟨hd, rfl⟩ | ⟨hd, rfl⟩
    · exact isPortable_chainSchema (.inl hd)
    · exact isPortable_chainSchema (.inr hd)
  descends := by
    refine Program.descends_of_inPlace ?_
    simp only [chainValidator, chainProgram, List.forall_mem_cons]
    exact ⟨rfl, rfl, rfl, rfl, nofun⟩
  documents := by
    intro all h
    have hall : Resources.gather chainReferences rootUri (chainSchema []) = .ok chainResources :=
      Resources.gather_eq_atHand isWord_r rfl isNameless_chainSchema isNameless_chainSchema
        (outside_chainSchema (.inl rfl)) (outside_chainSchema (.inr rfl)) isAtHand_chainResources
    rw [chainValidator, hall] at h
    cases h
    exact Resources.length_atHand_lt
  links := by decide

/-- The schema that has a member meet this one accepts a chain of two, and no chain that ends in another kind. -/
theorem referring_accepts_chain : Built (empty.registerDocument chainDocument).1 ∧
    (empty.registerDocument chainDocument).1.get? "r" = some ⟨"r", "r.yml", chainCanonical, chainValidator⟩ ∧
    chainValidator.Movable (empty.registerDocument chainDocument).1.references "r" ∧
    ∃ c, Validator.compile (empty.registerDocument chainDocument).1.references (referring "x" "r") = .ok c ∧
      c.isValid (.object [("x", .object [("next", .object [("kind", .string "a")]), ("alias", .string "b")])]) = true ∧
      c.isValid (.object [("x", .object [("next", .object [("kind", .string "c")])])]) = false := by
  have hstage : empty.stage [] chainDocument = .ok ⟨"r", "r.yml", chainCanonical⟩ := rfl
  obtain ⟨hbuilt, hreferences, hget⟩ := built_of_compile parse_chainDocument hstage compile_chainCanonical
  have hmovable : chainValidator.Movable (empty.registerDocument chainDocument).1.references "r" := by
    rw [hreferences]
    exact movable_chainValidator
  obtain ⟨c, hc, haccepts⟩ := referring_accepts hbuilt hget hmovable "x"
  refine ⟨hbuilt, hget, hmovable, c, hc, ?_, ?_⟩
  · rw [haccepts]
    decide +kernel
  · rw [haccepts]
    decide +kernel

/-! ### A schema that refers to whatever is compiled -/

/-- A schema in which a member has to meet the schema that is compiled. -/
def rootedSchema : Tree :=
  .object [("type", .string "object"), ("properties", .object [("y", .object [("$ref", .string "/")])])]

def rootedDocument : Document := ⟨"r.yml", rootedSchema, [⟨"id", "r"⟩]⟩

theorem parse_rootedDocument : Document.parse "r.yml"
    "## id: r\ntype: object\nproperties:\n  y:\n    $ref: /\n" = .ok rootedDocument := by
  decide +kernel

theorem lower_rootedSchema : lower rootedSchema = rootedSchema := rfl

theorem isNameless_rootedSchema : IsNameless rootedSchema := by
  simp [rootedSchema, isNameless_object_iff, isNameless_string, Tree.isString]

theorem outside_rootedSchema {d : Uri} (hd : IsHome d) :
    (Resources.survey [⟨.draft7, d, rootedSchema⟩]).flatMapM Place.outside = .ok [rootUri] := by
  have hlevel : (places 0 .draft7 d rootedSchema).Pairwise fun p q => p.level ≤ q.level := by
    rcases hd with rfl | rfl <;> decide +kernel
  rw [Resources.survey_singleton hlevel]
  rcases hd with rfl | rfl <;> rfl

/-- Its reference, from where it stands. -/
def toRoot (d : Uri) : Link := ⟨d, rootUri, "", false, .empty⟩

theorem demands_rootedSchema {d : Uri} (hd : IsHome d) :
    (read ⟨.draft7, .draft7, d, .empty⟩ rootedSchema).node.demands = [.resolve (toRoot d)] := by
  rcases hd with rfl | rfl <;> rfl

theorem isAtHand_rootUri {r : Resources} {t : Tree} (h : OrderedMap.get? r.documents rootUri = some ⟨.draft7, t⟩) :
    ∀ uri ∈ [rootUri], r.IsAtHand uri := by
  have hdocument : Resources.documentOf rootUri = rootUri := rfl
  rw [List.forall_mem_singleton, Resources.IsAtHand, hdocument, OrderedMap.contains, h]
  rfl

/-- It leads to nothing but itself. -/
theorem not_leadsTo_rootedSchema (references : References) (id : String) : ¬ LeadsTo references rootedSchema id := by
  have hwanted := outside_rootedSchema (.inl rfl)
  have hget : OrderedMap.get? (Resources.start rootUri rootedSchema).documents rootUri = some ⟨.draft7, rootedSchema⟩ :=
    Resources.get?_start
  have hhand := isAtHand_rootUri hget
  rintro ⟨uri, huri, hid⟩
  rw [lower_rootedSchema, uriOf_of_isAnonymous isNameless_rootedSchema.isAnonymous] at huri
  cases huri
  rw [lower_rootedSchema, Resources.defaultDraft] at hid
  cases hid with
  | now hwanted' huri hid =>
    rw [hwanted] at hwanted'
    cases hwanted'
    have hfound := hhand _ huri
    rw [Resources.IsAtHand, Resources.documentOf] at hfound
    rw [Resources.foldl_enter_survey_singleton isNameless_rootedSchema, Resources.lookedUp, if_pos hfound] at hid
    cases hid
  | later hwanted' hnext hlater =>
    rw [hwanted] at hwanted'
    cases hwanted'
    rw [Resources.foldl_enter_survey_singleton isNameless_rootedSchema,
      Resources.retrieveAll_of_contains hhand] at hnext
    cases hnext
    exact Resources.not_looksUp_nil hlater

/-- By itself its reference leads to itself. -/
def rootedProgram : Program where
  root := (read rootPlace rootedSchema).node
  links := [(toRoot rootUri, (read rootPlace rootedSchema).node)]

theorem build_rootedSchema :
    Program.build (Resources.start rootUri rootedSchema) rootUri rootedSchema = .ok rootedProgram := by
  have hsource : (Resources.start rootUri rootedSchema).extend .empty rootUri = .empty :=
    Resources.extend_empty_of_get? rfl not_contains_rootUri Resources.get?_start rfl
  have hfind := Resources.find_document hsource Resources.get?_start isNameless_rootedSchema
  have hdemands := demands_rootedSchema (.inl rfl)
  obtain ⟨fuel, hfuel⟩ : ∃ fuel, Links.maxLinks = fuel + 1 := ⟨18446744073709551615, rfl⟩
  have hsettle : Links.settle (Resources.start rootUri rootedSchema) Links.maxLinks [] rootedProgram.root.demands =
      .ok rootedProgram.links := by
    rw [hfuel, rootedProgram, rootPlace, hdemands, toRoot, Links.settle_resolve rfl hfind, hdemands, List.nil_append,
      List.append_nil, toRoot, Links.settle_resolve_of_isSome (by simp [Links.node?]), Links.settle]
  exact Program.build_of_settle isNameless_rootedSchema hsettle

def rootedReferences : References := [("r", rootedSchema)]

def rootedValidator : Validator := ⟨rootedSchema, rootedProgram⟩

theorem compile_rootedSchema : Validator.compile rootedReferences rootedSchema = .ok rootedValidator := by
  have hschema : IsSchema rootedSchema :=
    isSchema_mapping (List.forall_mem_singleton.2 (isSchema_reference (by decide +kernel)))
  obtain ⟨rounds, hrounds⟩ : ∃ rounds, Resources.maxRounds = rounds + 1 := ⟨18446744073709551615, rfl⟩
  rw [Validator.compile, lower_rootedSchema, Validator.compileLowered_eq_ok_iff isNameless_rootedSchema]
  refine ⟨rfl, hschema.violations_eq_nil, _, ?_, build_rootedSchema⟩
  rw [Resources.gather, hrounds]
  exact Resources.collect_of_isAtHand isNameless_rootedSchema (outside_rootedSchema (.inl rfl))
    (isAtHand_rootUri Resources.get?_start) rounds

/-- Where another schema refers to it, its reference leads to that schema. -/
def rootedLinks : Links := [(linkTo "r", (read ⟨.draft7, .draft7, documentUri "r", .empty⟩ rootedSchema).node),
  (toRoot (documentUri "r"), (read rootPlace (referring "x" "r")).node)]

theorem settle_referring_rootedSchema : Links.settle (Resources.atHand "r" (referring "x" "r") rootedSchema)
    Links.maxLinks [] [.resolve (linkTo "r")] = .ok rootedLinks := by
  have hroot : OrderedMap.get? (Resources.atHand "r" (referring "x" "r") rootedSchema).documents rootUri = _ :=
    Resources.get?_atHand_rootUri isWord_r
  have hown : OrderedMap.get? (Resources.atHand "r" (referring "x" "r") rootedSchema).documents (documentUri "r") = _ :=
    Resources.get?_atHand
  have hanchors : (Resources.atHand "r" (referring "x" "r") rootedSchema).anchors = Resources.bundled.anchors := rfl
  generalize Resources.atHand "r" (referring "x" "r") rootedSchema = r at hroot hown hanchors ⊢
  have hsource := Resources.extend_empty_of_get? hanchors not_contains_rootUri hroot rfl
  have hsource' := Resources.extend_empty_of_get? hanchors (IsHome.not_contains (.inr rfl)) hown rfl
  have hne : rootUri ≠ documentUri "r" := (documentUri_ne isWord_r).symm
  have hfind := Resources.find_document hsource hown isNameless_rootedSchema
  have hfind' := Resources.find_document hsource' hroot (isNameless_referring "x" "r")
  have hdemands : (read rootPlace (referring "x" "r")).node.demands = [.resolve (linkTo "r")] := by
    rw [node_referring "x" isWord_r]
    rfl
  obtain ⟨fuel, hfuel⟩ : ∃ fuel, Links.maxLinks = fuel + 1 + 1 := ⟨18446744073709551614, rfl⟩
  rw [hfuel, linkTo, Links.settle_resolve rfl hfind, demands_rootedSchema (.inr rfl), List.nil_append, List.append_nil,
    toRoot, Links.settle_resolve (by simp [Links.node?, hne]) hfind', ← rootPlace, hdemands, List.append_nil, linkTo,
    Links.settle_resolve_of_isSome (by simp [Links.node?]), Links.settle]
  rfl

theorem compile_referring_rootedSchema : Validator.compile rootedReferences (referring "x" "r") =
    .ok ⟨referring "x" "r", Resources.referringProgram "x" "r" rootedLinks⟩ := by
  rw [Validator.compile, lower_referring, Validator.compileLowered_eq_ok_iff (isNameless_referring "x" "r")]
  exact ⟨rfl, (isSchema_referring "x" isWord_r).violations_eq_nil, _, Resources.gather_eq_atHand isWord_r rfl
    isNameless_rootedSchema (isNameless_referring "x" "r") (outside_referring "x" isWord_r)
    (outside_rootedSchema (.inr rfl)) (isAtHand_rootUri (Resources.get?_atHand_rootUri isWord_r)),
    Resources.build_referring "x" isWord_r settle_referring_rootedSchema⟩

/-- A schema that refers to whatever is compiled accepts a mapping with a member that it refuses where another schema
refers to it, though it leads to no other schema, and its reference goes into the instance. -/
theorem not_referring_accepts : ∃ (r : Registry) (s : Registered) (c : Validator) (v : Tree), Built r ∧
    r.get? "r" = some s ∧ IsNameless s.canonical ∧ (∀ id, ¬ LeadsTo r.references s.canonical id) ∧
    s.validator.program.Descends ∧ Validator.compile r.references (referring "x" "r") = .ok c ∧
    s.validator.isValid v = true ∧ c.isValid (.object [("x", v)]) = false := by
  have hstage : empty.stage [] rootedDocument = .ok ⟨"r", "r.yml", rootedSchema⟩ := rfl
  obtain ⟨hbuilt, hreferences, hget⟩ := built_of_compile parse_rootedDocument hstage compile_rootedSchema
  refine ⟨_, _, ⟨referring "x" "r", Resources.referringProgram "x" "r" rootedLinks⟩,
    .object [("y", .object [("x", .number (.int 5))])], hbuilt, hget, isNameless_rootedSchema,
    not_leadsTo_rootedSchema _, ?_, ?_, ?_, ?_⟩
  · refine Program.descends_of_inPlace ?_
    simp only [rootedValidator, rootedProgram, List.forall_mem_singleton]
    rfl
  · rw [hreferences]
    exact compile_referring_rootedSchema
  · decide +kernel
  · decide +kernel

end Registry

end YamlSchema
