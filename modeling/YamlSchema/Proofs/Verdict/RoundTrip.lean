import YamlSchema.Proofs.Traversal
import YamlSchema.Proofs.Tree.Reading
import YamlSchema.Verdict

/-!
# Verdicts that are written and read

The text of a verdict is read as that verdict exactly if the parameters of its errors are read back from their text
(`Verdict.parse?_text_iff`).  For values as they are held that leaves the depth of the parameters and their doubles, and
for a verdict that was itself read the doubles alone (`Verdict.parse?_toTree_text`).
-/

namespace YamlSchema

open Schema (ErrorReport)

namespace Json

theorem ofItems_map {α : Type} (f : α → Tree) (items : List α) :
    ofItems (items.map f) = items.map fun a => ofTree (f a) := by
  induction items with
  | nil => rfl
  | cons a rest ih => rw [List.map_cons, ofItems, ih, List.map_cons]

theorem list?_map_iff {α : Type} {item? : Json → Option α} {f : α → Json} {items : List α} :
    list? item? (.array (items.map f)) = some items ↔ ∀ a ∈ items, item? (f a) = some a := by
  rw [list?, mapM_eq_some_iff, List.forall₂_map_left_iff, List.forall₂_same]

end Json

/-! ### Reading what is written -/

/-- A tree is read back from its own text where parameters stand. -/
def Schema.ErrorReport.IsReadBack (params : Tree) : Prop :=
  Json.toTree? (Json.maxNesting - ErrorReport.nesting) (Json.ofTree params) = some params

theorem Schema.ErrorReport.ofJson?_ofTree_iff (e : ErrorReport) :
    ErrorReport.ofJson? (Json.ofTree e.toTree) = some e ↔ IsReadBack e.params := by
  have hfields : (Json.ofTree e.toTree).fields? ["keyword", "path", "schemaPath", "params", "message"] =
      some [.string (some e.keyword), .string (some e.path), .string (some e.schemaPath), Json.ofTree e.params,
        .string (some e.message)] := rfl
  rw [ofJson?, hfields]
  cases e
  simp [Json.text?, IsReadBack, bind, Option.bind_eq_some_iff]

theorem Pass.ofJson?_ofTree (p : Pass) : Pass.ofJson? (Json.ofTree p.toTree) = some p := rfl

theorem Breach.ofJson?_ofTree_iff (b : Breach) :
    Breach.ofJson? (Json.ofTree b.toTree) = some b ↔ ∀ e ∈ b.errors, ErrorReport.IsReadBack e.params := by
  have hfields : (Json.ofTree b.toTree).fields? ["schemaId", "errors"] =
      some [.string (some b.schemaId), .array (Json.ofItems (b.errors.map ErrorReport.toTree))] := rfl
  have hiff : Json.list? ErrorReport.ofJson? (.array (b.errors.map fun e => Json.ofTree e.toTree)) = some b.errors ↔
      ∀ e ∈ b.errors, ErrorReport.IsReadBack e.params := by
    simp only [Json.list?_map_iff, ErrorReport.ofJson?_ofTree_iff]
  rw [ofJson?, hfields, Json.ofItems_map, ← hiff]
  cases b
  simp [Json.text?, bind, Option.bind_eq_some_iff]

namespace Verdict

/-- The parameters of all errors. -/
def params (v : Verdict) : List Tree := v.failures.flatMap fun b => b.errors.map fun e => e.params

theorem mem_params_iff {v : Verdict} {t : Tree} :
    t ∈ v.params ↔ ∃ b ∈ v.failures, ∃ e ∈ b.errors, e.params = t := by
  simp [params]

theorem ofJson?_ofTree_iff (v : Verdict) :
    ofJson? (Json.ofTree v.toTree) = some v ↔ ∀ t ∈ v.params, ErrorReport.IsReadBack t := by
  have hfields : (Json.ofTree v.toTree).fields? ["isValid", "passes", "failures"] =
      some [.bool v.isValid, .array (Json.ofItems (v.passes.map Pass.toTree)),
        .array (Json.ofItems (v.failures.map Breach.toTree))] := rfl
  have hpasses := Json.list?_map_iff.2 fun p (_ : p ∈ v.passes) => Pass.ofJson?_ofTree p
  have hiff : Json.list? Breach.ofJson? (.array (v.failures.map fun b => Json.ofTree b.toTree)) = some v.failures ↔
      ∀ b ∈ v.failures, ∀ e ∈ b.errors, ErrorReport.IsReadBack e.params := by
    simp only [Json.list?_map_iff, Breach.ofJson?_ofTree_iff]
  have hparams : (∀ t ∈ v.params, ErrorReport.IsReadBack t) ↔
      ∀ b ∈ v.failures, ∀ e ∈ b.errors, ErrorReport.IsReadBack e.params := by
    simp only [mem_params_iff]
    exact ⟨fun h b hb e he => h _ ⟨b, hb, e, he, rfl⟩, fun h _ ⟨b, hb, e, he, heq⟩ => heq ▸ h b hb e he⟩
  rw [ofJson?, hfields, Json.ofItems_map, Json.ofItems_map, hparams, ← hiff]
  simp only [hpasses]
  cases v
  simp [Json.flag?, bind, Option.bind_eq_some_iff]

/-- A verdict is read back from its text exactly if the parameters of all its errors are. -/
theorem parse?_text_iff (v : Verdict) :
    parse? v.toTree.text = some v ↔ ∀ t ∈ v.params, t.HasDistinctKeys ∧
      t.nesting ≤ Json.maxNesting - ErrorReport.nesting ∧ ∀ n ∈ t.numbers, n.readBack = some n := by
  simp only [parse?, Json.parse?_text, Option.bind_some, ofJson?_ofTree_iff, ErrorReport.IsReadBack,
    Json.toTree?_ofTree_iff]

end Verdict

/-! ### What is read -/

namespace Json

/-- The numbers of a field stand in the value that has it. -/
theorem numbers_fields? {names : List String} {j : Json} {fields : List Json} (h : j.fields? names = some fields)
    {k : Json} (hk : k ∈ fields) {n : Number} (hn : n ∈ k.numbers) : n ∈ j.numbers := by
  cases j with
  | array items =>
    rw [fields?] at h
    split at h
    · cases h
      exact mem_numbersOfItems_iff.2 ⟨k, hk, hn⟩
    · cases h
  | object members =>
    rw [fields?] at h
    split at h
    · obtain ⟨name, -, hname⟩ := exists_of_mem_mapM_eq_some h hk
      split at hname
      · rename_i m hm
        cases hname
        exact mem_numbersOfMembers_iff.2 ⟨m, (List.mem_filter.1 (hm ▸ List.mem_singleton_self m)).1, hn⟩
      · cases hname
    · cases h
  | _ => cases h

/-- Each item of a list that is read is what some item of the text gives. -/
theorem exists_of_mem_list? {α : Type} {item? : Json → Option α} {j : Json} {found : List α}
    (h : j.list? item? = some found) {a : α} (ha : a ∈ found) :
    ∃ k, item? k = some a ∧ ∀ n ∈ k.numbers, n ∈ j.numbers := by
  cases j with
  | array items =>
    obtain ⟨k, hk, heq⟩ := exists_of_mem_mapM_eq_some h ha
    exact ⟨k, heq, fun n hn => mem_numbersOfItems_iff.2 ⟨k, hk, hn⟩⟩
  | _ => cases h

end Json

theorem Schema.ErrorReport.params_ofJson? {j : Json} {e : ErrorReport} (h : ErrorReport.ofJson? j = some e) :
    e.params.HasDistinctKeys ∧ e.params.nesting ≤ Json.maxNesting - ErrorReport.nesting ∧
      ∀ n ∈ e.params.numbers, n ∈ j.numbers := by
  rw [ofJson?] at h
  split at h
  · rename_i hfields
    simp only [bind, Option.bind_eq_some_iff, pure, Option.some.injEq] at h
    obtain ⟨keyword, -, path, -, schemaPath, -, params, hparams, message, -, rfl⟩ := h
    obtain ⟨hkeys, hnesting, hnumbers⟩ := Json.toTree?_sound hparams
    exact ⟨hkeys, hnesting, fun n hn => Json.numbers_fields? hfields (by simp) (hnumbers n hn)⟩
  · cases h

theorem Breach.exists_of_mem_errors {j : Json} {b : Breach} (h : Breach.ofJson? j = some b) {e : ErrorReport}
    (he : e ∈ b.errors) : ∃ k, ErrorReport.ofJson? k = some e ∧ ∀ n ∈ k.numbers, n ∈ j.numbers := by
  rw [ofJson?] at h
  split at h
  · rename_i hfields
    simp only [bind, Option.bind_eq_some_iff, pure, Option.some.injEq] at h
    obtain ⟨id, -, errors, herrors, rfl⟩ := h
    obtain ⟨k, hk, hnumbers⟩ := Json.exists_of_mem_list? herrors he
    exact ⟨k, hk, fun n hn => Json.numbers_fields? hfields (by simp) (hnumbers n hn)⟩
  · cases h

theorem Verdict.exists_of_mem_failures {j : Json} {v : Verdict} (h : Verdict.ofJson? j = some v) {b : Breach}
    (hb : b ∈ v.failures) : ∃ k, Breach.ofJson? k = some b ∧ ∀ n ∈ k.numbers, n ∈ j.numbers := by
  rw [ofJson?] at h
  split at h
  · rename_i hfields
    simp only [bind, Option.bind_eq_some_iff, pure, Option.some.injEq] at h
    obtain ⟨isValid, -, passes, -, failures, hfailures, rfl⟩ := h
    obtain ⟨k, hk, hnumbers⟩ := Json.exists_of_mem_list? hfailures hb
    exact ⟨k, hk, fun n hn => Json.numbers_fields? hfields (by simp) (hnumbers n hn)⟩
  · cases h

/-- What is known of the parameters of a verdict that is read. -/
theorem Verdict.params_of_parse? {text : String} {v : Verdict} (h : Verdict.parse? text = some v) {t : Tree}
    (ht : t ∈ v.params) : t.HasDistinctKeys ∧ t.nesting ≤ Json.maxNesting - ErrorReport.nesting ∧
      ∀ i, .int i ∈ t.numbers → Number.fits i = true := by
  obtain ⟨j, hj, hv⟩ := Option.bind_eq_some_iff.1 h
  obtain ⟨b, hb, e, he, rfl⟩ := mem_params_iff.1 ht
  obtain ⟨jb, hjb, hnumbers⟩ := Verdict.exists_of_mem_failures hv hb
  obtain ⟨je, hje, hnumbers'⟩ := Breach.exists_of_mem_errors hjb he
  obtain ⟨hkeys, hnesting, hparams⟩ := ErrorReport.params_ofJson? hje
  exact ⟨hkeys, hnesting, fun i hi => Json.fits_of_parse? hj (hnumbers _ (hnumbers' _ (hparams _ hi)))⟩

/-! ### Round trips -/

/-- A tree as values are held: no mapping has a key twice and integers have 64 bits. -/
structure Tree.IsHeld (t : Tree) : Prop where
  distinctKeys : t.HasDistinctKeys
  fits : ∀ i, .int i ∈ t.numbers → Number.fits i = true

/-- Each double is the one that is read where it is written. -/
def Tree.HasStableDoubles (t : Tree) : Prop :=
  ∀ x, .real x ∈ t.numbers → (Number.real x).readBack = some (.real x)

theorem Tree.readBack_iff {t : Tree} (h : ∀ i, .int i ∈ t.numbers → Number.fits i = true) :
    (∀ n ∈ t.numbers, n.readBack = some n) ↔ t.HasStableDoubles := by
  refine ⟨fun hnumbers x hx => hnumbers _ hx, fun hreals n hn => ?_⟩
  cases n with
  | int i => exact Number.readBack_int (h i hn)
  | real x => exact hreals x hn

namespace Verdict

/-- A verdict is read back from its own text exactly if the parameters of its errors nest at most 122 collections and
their doubles are read back; a verdict that was read, in whatever form, is read back exactly if its doubles are. -/
theorem parse?_toTree_text :
    (∀ v : Verdict, (∀ t ∈ v.params, t.IsHeld) → (parse? v.toTree.text = some v ↔
      ∀ t ∈ v.params, t.nesting ≤ Json.maxNesting - ErrorReport.nesting ∧ t.HasStableDoubles)) ∧
    ∀ (text : String) (v : Verdict), parse? text = some v →
      (parse? v.toTree.text = some v ↔ ∀ t ∈ v.params, t.HasStableDoubles) := by
  constructor
  · intro v h
    rw [parse?_text_iff]
    refine forall₂_congr fun t ht => ?_
    rw [Tree.readBack_iff (h t ht).fits]
    exact and_iff_right (h t ht).distinctKeys
  · intro text v h
    rw [parse?_text_iff]
    refine forall₂_congr fun t ht => ?_
    obtain ⟨hkeys, hnesting, hfits⟩ := params_of_parse? h ht
    rw [Tree.readBack_iff hfits]
    exact (and_iff_right hkeys).trans (and_iff_right hnesting)

/-- Parameters with keys out of order, the ends of the range of integers and a double. -/
def ranging : Verdict where
  isValid := false
  passes := [⟨"q\"s"⟩]
  failures := [⟨"é\\\x01", [⟨"k", "/a~1b", "#/k",
    .object [("z", .array [.number (.int 18446744073709551615), .number (.int (-9223372036854775808))]),
      ("a", .number (.real ⟨false, 4503599627370496, -53⟩))], "\n\t\x7f"⟩]⟩]

/-- The same verdict with its fields in another order, an unknown one, lists for mappings and escapes. -/
def rangingText : String :=
  "\x7b\"failures\":[[\"\\u00e9\\\\\\u0001\",[[\"k\",\"\\/a~1b\",\"#/k\",\x7b\"z\": " ++
    "[18446744073709551615,-9223372036854775808],\"a\":5e-1\x7d,\"\\n\\t\x7f\"]]]]," ++
    "\"new\":[],\"passes\":[[\"q\\\"s\"]],\"isValid\":false\x7d "

theorem parse?_toTree_text_ranging : (∀ t ∈ ranging.params, t.IsHeld) ∧ parse? rangingText = some ranging ∧
    parse? ranging.toTree.text = some ranging := by
  have hheld : ∀ t ∈ ranging.params, t.IsHeld := by
    intro t ht
    cases List.mem_singleton.1 ht
    refine ⟨.object (by decide) ?_, ?_⟩
    · simp only [List.forall_mem_cons, List.not_mem_nil, false_imp_iff, implies_true, and_true]
      refine ⟨.array ?_, .number _⟩
      simp only [List.forall_mem_cons, List.not_mem_nil, false_imp_iff, implies_true, and_true]
      exact ⟨.number _, .number _⟩
    · intro i hi
      simp only [Tree.numbers, Tree.numbersOfMembers, Tree.numbersOfItems, List.append_nil, List.cons_append,
        List.nil_append, List.mem_cons, Number.int.injEq, List.not_mem_nil, or_false, reduceCtorEq] at hi
      rcases hi with rfl | rfl <;> decide
  have hstable : ∀ t ∈ ranging.params, t.HasStableDoubles := by
    intro t ht x hx
    cases List.mem_singleton.1 ht
    simp only [Tree.numbers, Tree.numbersOfMembers, Tree.numbersOfItems, List.append_nil, List.cons_append,
      List.nil_append, List.mem_cons, Number.real.injEq, List.not_mem_nil, or_false, reduceCtorEq, false_or] at hx
    rw [hx]
    decide +kernel
  have hread : parse? rangingText = some ranging := by decide +kernel
  have hagain := (parse?_toTree_text.2 rangingText ranging hread).2 hstable
  have hnesting := (parse?_toTree_text.1 ranging hheld).1 hagain
  exact ⟨hheld, hread, (parse?_toTree_text.1 ranging hheld).2 hnesting⟩

/-- A verdict with one error, with some parameters. -/
def withParams (params : Tree) : Verdict := ⟨false, [], [⟨"a", [⟨"k", "", "/k", params, "m"⟩]⟩]⟩

/-- A list in a list, and so on. -/
def nested : Nat → Tree
  | 0 => .array []
  | n + 1 => .array [nested n]

theorem nesting_nested (n : Nat) : (nested n).nesting = n + 1 := by
  induction n with
  | zero => rfl
  | succ n ih => rw [nested, Tree.nesting, Tree.nestingOfItems, ih, Tree.nestingOfItems, Nat.max_zero]

/-- Parameters in which 123 lists stand within each other are written and not read, and a double that is read is read
as another one where it is written. -/
theorem not_parse?_toTree_text :
    parse? (withParams (nested 122)).toTree.text ≠ some (withParams (nested 122)) ∧
    ∃ v, parse? ("\x7b\"isValid\":false,\"passes\":[],\"failures\":[[\"a\",[[\"k\",\"\",\"/k\",5e32," ++
        "\"m\"]]]]\x7d") = some v ∧ parse? v.toTree.text ≠ some v := by
  constructor
  · intro h
    have hnesting := (params_of_parse? h (List.mem_singleton_self (nested 122))).2.1
    rw [nesting_nested] at hnesting
    exact absurd hnesting (by decide)
  · have hdouble : (Number.real ⟨false, 6938893903907229, 56⟩).readBack ≠
        some (.real ⟨false, 6938893903907229, 56⟩) := by decide +kernel
    refine ⟨withParams (.number (.real ⟨false, 6938893903907229, 56⟩)), by decide +kernel, fun h => ?_⟩
    have hparams := (parse?_text_iff _).1 h _ (List.mem_singleton_self _)
    exact hdouble (hparams.2.2 _ (List.mem_singleton_self _))

end Verdict

end YamlSchema
