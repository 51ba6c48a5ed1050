import YamlSchema.Proofs.Schema.PseudoType
import YamlSchema.Proofs.Schema.Referring

/-!
# Schemas that are evaluated

To evaluate a schema is to evaluate those in its rules too (`Rule.Holds`), and those behind its references; `Evaluates`
follows both.  What they all demand is settled when the schema is compiled (`Evaluates.settles`), so none of them may
still have the pseudo type.  Where lowering meets the pseudo type it makes no difference at all, and where it is met only
in evaluation it is refused (`Validator.compile_shed`).
-/

namespace YamlSchema.Schema

/-! ### Demands -/

theorem demandsOfAll_eq_flatMap (rules : List Rule) : demandsOfAll rules = rules.flatMap Rule.demands := by
  induction rules with
  | nil => rw [demandsOfAll, List.flatMap_nil]
  | cons r rest ih => rw [demandsOfAll, ih, List.flatMap_cons]

theorem demandsOfNodes_eq_flatMap (nodes : List Node) : demandsOfNodes nodes = nodes.flatMap Node.demands := by
  induction nodes with
  | nil => rw [demandsOfNodes, List.flatMap_nil]
  | cons n rest ih => rw [demandsOfNodes, ih, List.flatMap_cons]

theorem demandsOfNamed_eq_flatMap (named : List (String × Node)) :
    demandsOfNamed named = named.flatMap fun e => e.2.demands := by
  induction named with
  | nil => rw [demandsOfNamed, List.flatMap_nil]
  | cons e rest ih => rw [demandsOfNamed, ih, List.flatMap_cons]

theorem demandsOfPatterned_eq_flatMap (patterned : List (Pattern × Node)) :
    demandsOfPatterned patterned = patterned.flatMap fun e => e.2.demands := by
  induction patterned with
  | nil => rw [demandsOfPatterned, List.flatMap_nil]
  | cons e rest ih => rw [demandsOfPatterned, ih, List.flatMap_cons]

/-- The schemas that a rule is made of. -/
inductive Rule.Holds : Rule → Node → Prop
  | property (name : String) (node : Node) : Holds (.property name node) node
  | patternProperty (pattern : Pattern) (node : Node) : Holds (.patternProperty pattern node) node
  | named {named : List (String × Node)} {e : String × Node} (h : e ∈ named) (patterned : List (Pattern × Node))
      (others : Option Node) : Holds (.members named patterned others) e.2
  | patterned (named : List (String × Node)) {patterned : List (Pattern × Node)} {e : Pattern × Node}
      (h : e ∈ patterned) (others : Option Node) : Holds (.members named patterned others) e.2
  | others (named : List (String × Node)) (patterned : List (Pattern × Node)) (node : Node) :
      Holds (.members named patterned (some node)) node
  | items (node : Node) : Holds (.items node) node
  | itemAt (keyword : String) (i : Nat) (node : Node) : Holds (.itemAt keyword i node) node
  | itemsFrom (keyword : String) (count : Nat) (node : Node) : Holds (.itemsFrom keyword count node) node
  | contains (node : Node) : Holds (.contains node) node
  | containsWithin (low high : Option Nat) (evaluates : Bool) (node : Node) :
      Holds (.containsWithin low high evaluates node) node
  | names (node : Node) : Holds (.names node) node
  | dependency (keyword name : String) (node : Node) : Holds (.dependency keyword name node) node
  | allOf (i : Nat) (node : Node) : Holds (.allOf i node) node
  | anyOf {nodes : List Node} {node : Node} (h : node ∈ nodes) : Holds (.anyOf nodes) node
  | oneOf {nodes : List Node} {node : Node} (h : node ∈ nodes) : Holds (.oneOf nodes) node
  | not (node : Node) (schema : Tree) : Holds (.not node schema) node
  | test (node : Node) (yes no : Option Node) : Holds (.conditional node yes no) node
  | yes (test node : Node) (no : Option Node) : Holds (.conditional test (some node) no) node
  | no (test : Node) (yes : Option Node) (node : Node) : Holds (.conditional test yes (some node)) node
  | unevaluatedMembers (beside : List Rule) (node : Node) : Holds (.unevaluatedMembers beside node) node
  | unevaluatedItems (beside : List Rule) (node : Node) : Holds (.unevaluatedItems beside node) node

/-- A rule demands what the schemas in it demand. -/
theorem Rule.Holds.mem_demands {r : Rule} {n : Node} (h : r.Holds n) {d : Demand} (hd : d ∈ n.demands) :
    d ∈ r.demands := by
  cases h with
  | named h =>
    rw [demands_members, demandsOfNamed_eq_flatMap]
    exact List.mem_append_left _ (List.mem_append_right _ (List.mem_flatMap.2 ⟨_, h, hd⟩))
  | patterned _ h =>
    rw [demands_members, demandsOfPatterned_eq_flatMap]
    exact List.mem_append_left _ (List.mem_append_left _ (List.mem_flatMap.2 ⟨_, h, hd⟩))
  | others =>
    rw [demands_members]
    exact List.mem_append_right _ hd
  | anyOf h | oneOf h =>
    rw [Rule.demands, demandsOfNodes_eq_flatMap]
    exact List.mem_flatMap.2 ⟨_, h, hd⟩
  | test =>
    rw [demands_conditional]
    exact List.mem_append_left _ (List.mem_append_left _ hd)
  | yes =>
    rw [demands_conditional]
    exact List.mem_append_left _ (List.mem_append_right _ hd)
  | no =>
    rw [demands_conditional]
    exact List.mem_append_right _ hd
  | _ => rwa [Rule.demands]

/-! ### Evaluation -/

/-- The schemas that are evaluated with a schema: itself, those in the rules of one that is evaluated, and those behind
its references. -/
inductive Evaluates (resources : Resources) (root : Node) : Node → Prop
  | root : Evaluates resources root root
  | inside {all : List Rule} {r : Rule} {n : Node} (h : Evaluates resources root (.rules all)) (hr : r ∈ all)
      (hn : r.Holds n) : Evaluates resources root n
  | behind {all : List Rule} {keyword : String} {link : Link} {s : Setting} {t : Tree}
      (h : Evaluates resources root (.rules all)) (hr : .reference keyword link ∈ all)
      (hfind : resources.find link = .ok (s, t)) : Evaluates resources root (read s t).node

theorem mem_demands_of_mem {all : List Rule} {r : Rule} (hr : r ∈ all) {d : Demand} (hd : d ∈ r.demands) :
    d ∈ (Node.rules all).demands := by
  rw [Node.demands, demandsOfAll_eq_flatMap]
  exact List.mem_flatMap.2 ⟨r, hr, hd⟩

/-- A closed table settles all that is evaluated, if it settles where that begins. -/
theorem Evaluates.settles {resources : Resources} {links : Links} {root n : Node} (h : Evaluates resources root n)
    (hsound : links.Sound resources) (hclosed : links.Closed) (hroot : links.Settles root.demands) :
    links.Settles n.demands := by
  induction h with
  | root => exact hroot
  | inside _ hr hn ih => exact fun d hd => ih d (mem_demands_of_mem hr (hn.mem_demands hd))
  | @behind all keyword link s t _ hr hfind ih =>
    have hdemand : Demand.resolve link ∈ (Rule.reference keyword link).demands := by
      rw [Rule.demands]
      exact List.mem_singleton_self _
    obtain ⟨n, hn⟩ := Option.isSome_iff_exists.1 (ih.isSome (mem_demands_of_mem hr hdemand))
    obtain rfl := hsound.node_eq hn hfind
    exact hclosed link _ hn

/-- What is refused is not evaluated with a schema that is compiled. -/
theorem Validator.exists_error_of_evaluates {references : References} {schema : Tree} {uri : Uri}
    {resources : Resources} (huri : Resources.uriOf (lower schema) = .ok uri)
    (hgather : Resources.gather references uri (lower schema) = .ok resources) {n : Node} {why : Refusal}
    (hn : Evaluates resources (read (Program.rootSetting uri (lower schema)) (lower schema)).node n)
    (hwhy : .fail why ∈ n.demands) : ∃ refusal, Validator.compile references schema = .error refusal := by
  cases hc : Validator.compile references schema with
  | error refusal => exact ⟨refusal, rfl⟩
  | ok c =>
    obtain ⟨hschema, uri', resources', huri', hgather', hbuild⟩ := Validator.exists_of_compile hc
    rw [hschema, huri, Except.ok.injEq] at huri'
    subst huri'
    rw [hschema, hgather, Except.ok.injEq] at hgather'
    subst hgather'
    obtain ⟨hroot, hsettle⟩ := Program.build_eq_ok_iff.1 hbuild
    obtain ⟨hclosed, hsettles, -⟩ := Links.settle_closed hsettle Links.pending_nil
    rw [hschema] at hroot
    rw [← hroot] at hn
    obtain ⟨link, heq, -⟩ := hn.settles (Program.build_sound hbuild).2 hclosed hsettles _ hwhy
    cases heq

/-! ### The pseudo type -/

/-- A mapping in whose setting the type counts, and is the pseudo type. -/
structure KeepsPseudoType (s : Setting) (members : OrderedMap Tree) : Prop where
  type : OrderedMap.get? members "type" = some (.string Shorthand.enumType)
  hasKeyword : s.hasKeyword "type" = true
  shown : s.draft.hidesSiblings = true → OrderedMap.get? members "$ref" = none

/-- The validator knows no such type. -/
theorem KeepsPseudoType.fail_mem_demands {s : Setting} {members : OrderedMap Tree} (h : KeepsPseudoType s members) :
    .fail .unexpectedType ∈ (read s (.object members)).node.demands := by
  have hmem : ("type", read (s.entering (.string Shorthand.enumType)) (.string Shorthand.enumType)) ∈
      readMembers s members := by
    rw [readMembers_eq_map]
    exact List.mem_map.2 ⟨_, OrderedMap.mem_of_get? h.type, rfl⟩
  have hrule : Rule.refused .unexpectedType ∈ Reading.knownRules s (readMembers s members)
      ("type", read (s.entering (.string Shorthand.enumType)) (.string Shorthand.enumType)) := by
    have hunknown : TypeName.ofName? Shorthand.enumType = none := by decide
    rw [Reading.knownRules, if_pos h.hasKeyword]
    simp [Reading.keywordRules, Reading.typed, hunknown]
  have hnode : ∃ all, (read s (.object members)).node = .rules all ∧ Rule.refused .unexpectedType ∈ all := by
    rw [read, Reading.assemble, get?_readMembers]
    split
    · rename_i hr hhides
      rw [h.shown hhides] at hr
      cases hr
    · exact ⟨_, rfl, List.mem_flatMap.2 ⟨_, hmem, hrule⟩⟩
  obtain ⟨all, hall, hmem⟩ := hnode
  rw [hall]
  refine mem_demands_of_mem hmem ?_
  rw [Rule.demands]
  exact List.mem_singleton_self _

/-- The pseudo type does not matter where schemas stand: whatever schemas have shed it there, also those that are
referred to, the schema is compiled to the same.  Anywhere else it stays when they are lowered, and if such a mapping is
evaluated, behind a reference or a keyword of another draft, the schema is refused. -/
theorem Validator.compile_shed {references : References} {schema : Tree} (hkeys : schema.HasDistinctKeys)
    (hreferences : ∀ id t, OrderedMap.get? references id = some t → t.HasDistinctKeys) :
    (∀ (gone : Pointer → Bool) (elsewhere : String → Pointer → Bool) (other : References),
      (∀ p, gone p = true → IsSchemaPosition p) → (∀ id p, elsewhere id p = true → IsSchemaPosition p) →
      (∀ id, OrderedMap.get? other id = (OrderedMap.get? references id).map (shed (elsewhere id))) →
        Validator.compile other (shed gone schema) = Validator.compile references schema) ∧
    (∀ t p members, t = schema ∨ (∃ id, OrderedMap.get? references id = some t) → ¬ IsSchemaPosition p →
      t.follow? p = some (.object members) → HasPseudoType members →
        ∃ lowered, (lower t).follow? p = some (.object lowered) ∧ HasPseudoType lowered) ∧
    ∀ uri resources, Resources.uriOf (lower schema) = .ok uri →
      Resources.gather references uri (lower schema) = .ok resources → ∀ s members,
        Evaluates resources (read (Program.rootSetting uri (lower schema)) (lower schema)).node
          (read s (.object members)).node → KeepsPseudoType s members →
        ∃ refusal, Validator.compile references schema = .error refusal := by
  refine ⟨?_, ?_, ?_⟩
  · intro gone elsewhere other hgone helsewhere hother
    refine compile_congr_lower (lower_shed hkeys hgone) fun id _ => ?_
    rw [hother id, Option.map_map]
    cases ht : OrderedMap.get? references id with
    | none => rfl
    | some t => exact congrArg some (lower_shed (hreferences id t ht) (helsewhere id))
  · intro t p members ht hp hmembers hpseudo
    have hdistinct : t.HasDistinctKeys := by
      rcases ht with rfl | ⟨id, hid⟩
      · exact hkeys
      · exact hreferences id t hid
    exact exists_hasPseudoType_of_follow? hdistinct hp hmembers hpseudo
  · intro uri resources huri hgather s members hn hpseudo
    exact exists_error_of_evaluates huri hgather hn hpseudo.fail_mem_demands

/-- A mapping whose member `x` has to be one of the literals that stand below a keyword. -/
def choosing (keyword : String) (literals : OrderedMap Tree) : Tree :=
  .object [("properties", .object [("x", .object [("$ref", .string ("#/" ++ keyword ++ "/b"))])]),
    (keyword, .object [("b", .object literals)])]

/-- The pseudo type with a literal. -/
def pseudoLiterals : OrderedMap Tree := [("type", .string "enum"), ("enum", .array [.string "p"])]

private theorem hasDistinctKeys_choosing {keyword : String} (h : "properties" ≠ keyword) :
    (choosing keyword pseudoLiterals).HasDistinctKeys := by
  simp [choosing, pseudoLiterals, Tree.hasDistinctKeys_object_iff, Tree.hasDistinctKeys_array_iff,
    Tree.HasDistinctKeys.string, OrderedMap.keys, h]

/-- The link to the literals. -/
private def toLiterals : Link := ⟨rootUri, rootUri, "/a/b", false, .empty⟩

private theorem isNameless_choosing : IsNameless (choosing "a" pseudoLiterals) := by
  simp [choosing, pseudoLiterals, isNameless_object_iff, isNameless_array_iff, isNameless_string, Tree.isString]

private theorem node_choosing : (read rootPlace (choosing "a" pseudoLiterals)).node =
    .rules [.property "x" (.rules [.reference "$ref" toLiterals])] := by
  rfl

private theorem gather_choosing : Resources.gather [] rootUri (choosing "a" pseudoLiterals) =
    .ok (Resources.start rootUri (choosing "a" pseudoLiterals)) := by
  have hlevel : (places 0 .draft7 rootUri (choosing "a" pseudoLiterals)).Pairwise fun p q => p.level ≤ q.level := by
    decide +kernel
  have hwanted : (Resources.survey [⟨.draft7, rootUri, choosing "a" pseudoLiterals⟩]).flatMapM Place.outside =
      .ok [] := by
    rw [Resources.survey_singleton hlevel]
    rfl
  obtain ⟨rounds, hrounds⟩ : ∃ rounds, Resources.maxRounds = rounds + 1 := ⟨18446744073709551615, rfl⟩
  rw [Resources.gather, hrounds]
  exact Resources.collect_of_isAtHand isNameless_choosing hwanted (by simp) rounds

private theorem find_toLiterals : (Resources.start rootUri (choosing "a" pseudoLiterals)).find toLiterals =
    .ok (rootPlace, .object pseudoLiterals) := by
  have hsource : (Resources.start rootUri (choosing "a" pseudoLiterals)).extend .empty rootUri = .empty :=
    Resources.extend_empty_of_get? rfl not_contains_rootUri Resources.get?_start rfl
  have hpart : (choosing "a" pseudoLiterals).pointer? "/a/b" = some (.object pseudoLiterals) := by decide +kernel
  have hfragment : "/a/b".toList = '/' :: "a/b".toList := by decide
  have hdecoded : String.fromUTF8? ⟨(Resources.decodeEscapes "a/b".toList).toArray⟩ = some "a/b" := by decide +kernel
  have htokens : splitChars '/' "a/b".toList = ["a".toList, "b".toList] := by decide
  have hwalk : Resources.walk "/a/b" .draft7 rootUri [] (choosing "a" pseudoLiterals) (splitChars '/' "a/b".toList) =
      .ok (rootUri, .object pseudoLiterals) := by
    rw [htokens]
    rfl
  exact Resources.find_part hsource Resources.get?_start isNameless_choosing hfragment hdecoded hwalk
    (.of_pointer? hpart)

/-- Below `definitions` the pseudo type does not matter.  Below a word that is no keyword it stays, and is refused. -/
theorem compile_shed_choosing : Validator.compile [] (choosing "definitions" [("enum", .array [.string "p"])]) =
      Validator.compile [] (choosing "definitions" pseudoLiterals) ∧
    (∃ lowered, (lower (choosing "a" pseudoLiterals)).follow? [.key "a", .key "b"] = some (.object lowered) ∧
      HasPseudoType lowered) ∧
    ∃ refusal, Validator.compile [] (choosing "a" pseudoLiterals) = .error refusal := by
  have hreferences : ∀ id t, OrderedMap.get? ([] : References) id = some t → t.HasDistinctKeys := by simp
  have hkeys : (choosing "a" pseudoLiterals).HasDistinctKeys := hasDistinctKeys_choosing (by decide)
  have hkeys' : (choosing "definitions" pseudoLiterals).HasDistinctKeys := hasDistinctKeys_choosing (by decide)
  obtain ⟨hshed, -⟩ := Validator.compile_shed hkeys' hreferences
  obtain ⟨-, hstays, hrefused⟩ := Validator.compile_shed hkeys hreferences
  refine ⟨?_, ?_, ?_⟩
  · have hgone : ∀ p, decide (p = [Step.key "definitions", Step.key "b"]) = true → IsSchemaPosition p := by
      intro p hp
      rw [of_decide_eq_true hp]
      exact .entry (p := []) .root (by decide) "b"
    exact hshed _ (fun _ _ => false) [] hgone (by simp) (by simp)
  · have hword : ¬ IsSchemaPosition [.key "a", .key "b"] := fun h => absurd h.isSchema (by decide)
    exact hstays _ _ pseudoLiterals (.inl rfl) hword rfl ⟨rfl, _, rfl⟩
  · have hroot : Program.rootSetting rootUri (choosing "a" pseudoLiterals) = rootPlace :=
      rootSetting_of_isNameless isNameless_choosing
    have hlower : lower (choosing "a" pseudoLiterals) = choosing "a" pseudoLiterals := rfl
    refine hrefused rootUri _ (uriOf_of_isAnonymous isNameless_choosing.isAnonymous) gather_choosing rootPlace
      pseudoLiterals ?_ ⟨rfl, rfl, fun _ => rfl⟩
    rw [hlower, hroot, node_choosing]
    exact .behind (.inside .root (List.mem_singleton_self _) (.property ..)) (List.mem_singleton_self _) find_toLiterals

end YamlSchema.Schema
