import YamlSchema.Proofs.Schema.Reports
import YamlSchema.Proofs.Shorthand.Errors

/-!
# What reports tell

A report of what is wrong by a shorthand schema `Tells` the place in the instance and the keyword in the lowered schema,
both as pointers that lead there, and the parameters of the keyword.  So the reports of an instance are those of all that
is wrong with it, each once (`check_inflate_tells`).
-/

namespace YamlSchema.Shorthand

open Schema

/-- The keyword that a cause belongs to, with what it has as its value and what a report has as its parameters. -/
inductive Concerns : Cause → String → Tree → Tree → Prop
  | type (t : TypeName) :
      Concerns (.wrongType [t]) "type" (.string t.text) (.object [("type", .string t.text)])
  | choice (literals : List Tree) :
      Concerns (.notInEnum literals) "enum" (.array literals) (.object [("allowedValues", .array literals)])
  | missing {key : String} {keys : List String} (h : key ∈ keys) :
      Concerns (.required key) "required" (.array (keys.map .string)) (.object [("missingProperty", .string key)])

/-- A report tells where a violation of a schema by an instance is, and what it is about. -/
structure Tells (schema v : Tree) (e : Violation) (r : ErrorReport) : Prop where
  path_eq : r.path = e.at_.text
  /-- The way to the value leads there, -/
  leads : v.Leads e.at_ e.value
  /-- and so does its pointer, unless a sequence has more items than can be counted. -/
  found : e.at_.IsNarrow → v.pointer? r.path = some e.value
  schemaPath_eq : r.schemaPath = "#" ++ e.keyword.text
  /-- The way to the keyword and its pointer lead to what the keyword has in the schema. -/
  concerns : ∃ way operand, e.keyword = way ++ [.key r.keyword] ∧ schema.Leads e.keyword operand ∧
    schema.pointer? e.keyword.text = some operand ∧ Concerns e.cause r.keyword operand r.params

/-! ### The ways of a violation -/

section Ways

variable {t v : Tree} {e : Violation}

/-- What is wrong is wrong with the value at its place. -/
theorem Flawed.leads (h : Flawed t v e) : v.Leads e.at_ e.value := by
  induction h with
  | item hu _ ih => exact .item hu ih
  | member _ hu _ ih => exact .member hu ih
  | _ => exact .here _

private theorem get?_outline {ms : List (String × Tree)} (hkeys : (OrderedMap.keys ms).Nodup) {m : String × Tree}
    (hm : m ∈ ms) : OrderedMap.get? (ms.map fun m => (m.1, outline m.2)) m.1 = some (outline m.2) := by
  have hget := OrderedMap.get?_mapValues outline ms m.1
  rw [OrderedMap.get?_of_mem hkeys hm, Option.map_some] at hget
  exact hget

/-- The way to a keyword leads to its value in the outline. -/
theorem Flawed.leads_outline (h : Flawed t v e) (ht : IsPlain t) : ∃ way keyword operand params,
    e.keyword = way ++ [.key keyword] ∧ (∀ i, .index i ∉ e.keyword) ∧ (outline t).Leads e.keyword operand ∧
      Concerns e.cause keyword operand params := by
  induction h with
  | @primitive name type v hname htype h =>
    obtain rfl : type.text = name := by simpa [TypeName.ofName?] using List.find?_some htype
    refine ⟨[], "type", _, _, rfl, by simp, ?_, .type type⟩
    rw [outline_primitive hname]
    exact .member rfl (.here _)
  | literal hbase hname =>
    refine ⟨[], "enum", _, _, rfl, by simp, ?_, .choice _⟩
    rw [outline_literal hbase hname]
    exact .member rfl (.here _)
  | noSequence =>
    refine ⟨[], "type", _, _, rfl, by simp, ?_, .type .array⟩
    rw [outline_append]
    exact .member rfl (.here _)
  | item _ _ ih =>
    obtain ⟨way, keyword, operand, params, hway, hkeys, hleads, hconcerns⟩ := ih (.string _)
    refine ⟨.key "items" :: way, keyword, operand, params, by simp [deeper, hway], by simpa [deeper] using hkeys, ?_,
      hconcerns⟩
    rw [outline_append]
    exact .member rfl hleads
  | choice =>
    refine ⟨[], "enum", _, _, rfl, by simp, ?_, .choice _⟩
    rw [outline_array]
    exact .member rfl (.here _)
  | noMapping =>
    cases ht with
    | object hfull =>
      refine ⟨[], "type", _, _, rfl, by simp, ?_, .type .object⟩
      rw [outline_object hfull]
      exact .member rfl (.here _)
  | missing hkey =>
    cases ht with
    | object hfull =>
      refine ⟨[], "required", _, _, rfl, by simp, ?_, .missing hkey⟩
      rw [outline_object hfull]
      exact .member rfl (.here _)
  | @member ms _ m _ _ hm _ _ ih =>
    cases ht with
    | object hfull hkeys hms =>
      obtain ⟨way, keyword, operand, params, hway, hindices, hleads, hconcerns⟩ := ih (hms m hm)
      refine ⟨.key "properties" :: .key m.1 :: way, keyword, operand, params, by simp [deeper, hway],
        by simpa [deeper] using hindices, ?_, hconcerns⟩
      rw [outline_object hfull]
      exact .member rfl (.member (get?_outline hkeys hm) hleads)

end Ways

/-! ### Reports -/

private theorem Concerns.text {cause : Cause} {keyword : String} {operand params : Tree}
    (h : Concerns cause keyword operand params) : (Step.key keyword).text = keyword := by
  cases h <;> decide

/-- The report of a violation has its keyword and its parameters. -/
private theorem report_of_concerns {schema operand params : Tree} {e : Violation} {way : Pointer} {keyword : String}
    (hway : e.keyword = way ++ [.key keyword]) (hoperand : schema.pointer? e.keyword.text = some operand)
    (h : Concerns e.cause keyword operand params) :
    (e.report schema).keyword = keyword ∧ (e.report schema).params = params := by
  have hkeyword : Violation.lastSegment e.keyword.text = keyword := by rw [hway, Violation.lastSegment_text, h.text]
  refine ⟨hkeyword, ?_⟩
  rw [Violation.report]
  generalize e.cause = cause at h
  cases h with
  | type t => simp [Violation.keywordParams, hoperand, hkeyword]
  | choice literals => rfl
  | missing => rfl

theorem tells_report {t v : Tree} {e : Violation} (ht : IsPlain t) (h : Flawed t v e) :
    Tells (outline t) v e (e.report (outline t)) := by
  obtain ⟨way, keyword, operand, params, hway, hindices, hleads, hconcerns⟩ := h.leads_outline ht
  have hoperand : (outline t).pointer? e.keyword.text = some operand :=
    Tree.pointer?_text hleads fun i hi => absurd hi (hindices i)
  obtain ⟨hkeyword, hparams⟩ := report_of_concerns hway hoperand hconcerns
  refine ⟨rfl, h.leads, Tree.pointer?_text h.leads, rfl, way, operand, ?_, hleads, hoperand, ?_⟩
  · rw [hkeyword, hway]
  · rw [hkeyword, hparams]
    exact hconcerns

/-! ### Validation -/

/-- Shorthand is compiled, whatever may be referred to, and the errors of an instance are the reports of all that is
wrong with it, each once. -/
theorem check_inflate_tells (references : References) {t : Tree} (h : IsPlain t) :
    ∃ c, Validator.compile references (inflate t) = .ok c ∧ c.schema = lower (inflate t) ∧
      ∀ v, ∃ es, Enumerates es (Flawed t v) ∧ c.check v = es.map (Violation.report c.schema) ∧
        ∀ e ∈ es, Tells c.schema v e (e.report c.schema) := by
  refine ⟨_, compile_inflate references h.isShorthand h.not_hasHole, rfl, fun v => ?_⟩
  have hall := enumerates_violations_outline (draft_rootSetting rootUri (outline t))
    (f := Program.follow ⟨(read (Program.rootSetting rootUri (outline t)) (outline t)).node, []⟩
      (Program.reach ⟨(read (Program.rootSetting rootUri (outline t)) (outline t)).node, []⟩ v)) h v
  exact ⟨_, hall, rfl, fun e he => tells_report h ((hall.2 e).1 he)⟩

/-- Keys that need escapes, and an empty one: an item that is no text, a choice not made, and a missing key. -/
theorem check_inflate_of_oddKeys : ∃ c, Validator.compile [] (inflate (.object [("a/b", .string "string[]"),
    ("", .array [.bool true]), ("~1", .string "number")])) = .ok c ∧
      ∃ r ∈ c.check (.object [("a/b", .array [.string "", .null]), ("", .null)]), r.path = "/a~1b/1" ∧
        r.schemaPath = "#/properties/a~1b/items/type" ∧ r.params = .object [("type", .string "string")] := by
  have hplain : IsPlain (.object [("a/b", .string "string[]"), ("", .array [.bool true]), ("~1", .string "number")]) := by
    refine .object (by decide) (by decide) ?_
    simp only [List.forall_mem_cons]
    exact ⟨.string _, .array _, .string _, List.forall_mem_nil _⟩
  obtain ⟨c, hc, -, hcheck⟩ := check_inflate_tells [] hplain
  obtain ⟨es, hes, hreports, htells⟩ := hcheck (.object [("a/b", .array [.string "", .null]), ("", .null)])
  have hname : "string[]" = "string" ++ "[]" := by decide
  have hitem : Flawed (.string "string[]") (.array [.string "", .null])
      (deeper (.index 1) [.key "items"] ⟨[], [.key "type"], .null, .wrongType [.string]⟩) := by
    rw [hname]
    exact .item rfl (.primitive (by decide) (by decide) rfl)
  have hflaw := (hes.2 _).2 (.member (List.mem_cons_self ..) rfl hitem)
  obtain ⟨hpath, -, -, hschemaPath, way, operand, -, -, -, hconcerns⟩ := htells _ hflaw
  refine ⟨c, hc, _, hreports ▸ List.mem_map_of_mem hflaw, hpath.trans (by decide), hschemaPath.trans (by decide), ?_⟩
  generalize (Violation.report c.schema _).params = params at hconcerns ⊢
  cases hconcerns with
  | type => rfl

end YamlSchema.Shorthand
