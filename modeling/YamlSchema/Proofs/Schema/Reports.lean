import YamlSchema.Proofs.Schema.Location
import YamlSchema.Proofs.Schema.Standalone

/-!
# The keyword of a report

The keyword of a report is cut from the end of the pointer to it.  It is a keyword that a schema has as a member, unless
that schema is `false` and stands under a name, in a list or alone, or a text cannot be decoded (`check_names`).
-/

namespace YamlSchema.Schema

/-! ### Last segments -/

/-- The last segment of a written pointer is its last step. -/
theorem Violation.lastSegment_text (way : Pointer) (s : Step) : lastSegment (way ++ [s]).text = s.text := by
  have hstep : ∀ c ∈ s.text.toList.reverse, (decide (c ≠ '/')) = true := by
    intro c hc
    rw [decide_eq_true_eq]
    rintro rfl
    exact s.slash_notMem_text (List.mem_reverse.1 hc)
  have hlist : (way ++ [s]).text.toList = way.text.toList ++ '/' :: s.text.toList := by
    rw [Pointer.text_append, String.toList_append, Pointer.toList_text [s], List.flatMap_cons, List.flatMap_nil,
      List.append_nil]
  rw [lastSegment, hlist, List.reverse_append, List.reverse_cons, List.append_assoc,
    List.takeWhile_append_of_pos hstep]
  simp

/-- The keyword of a report is the last step of the pointer. -/
theorem Violation.keyword_report {e : Violation} {way : Pointer} {step : Step} (h : e.keyword = way ++ [step])
    (schema : Tree) : (e.report schema).keyword = step.text := by
  rw [report, h]
  exact lastSegment_text way step

/-- No keyword needs escapes. -/
theorem text_of_reported {d : Draft} {keyword : String} (h : keyword ∈ d.reported) :
    (Step.key keyword).text = keyword := by
  have htext : ∀ keyword ∈ reportedAlways ++ reportedLater, (Step.key keyword).text = keyword := by decide
  refine htext keyword ?_
  rw [Draft.reported] at h
  split at h
  · exact h
  · exact List.mem_append_left _ (by simpa using h)

/-! ### The end of a way -/

section Ways

variable {resources : Resources} {s s' : Setting} {t u : Tree} {reference : Option Tree} {way : Pointer}

/-- A way is empty, or ends inside a mapping or behind a reference of one. -/
theorem Reaches.eq_or_exists (h : Reaches resources s t reference way s' u) : (way = [] ∧ s' = s ∧ u = t) ∨
    ∃ first start sm members, Reaches resources s t first start sm (.object members) ∧
      ((∃ last, Embeds sm members last s' u ∧ way = start ++ last) ∨
        ∃ keyword operand link, PointsAt sm members keyword operand link ∧ way = start ++ [.key keyword]) := by
  induction h with
  | here => exact .inl ⟨rfl, rfl, rfl⟩
  | @inside s _ _ members before more _ _ _ h hmore ih =>
    refine .inr ?_
    rcases ih with ⟨rfl, rfl, rfl⟩ | ⟨first, start, sm, members', hstart, hlast⟩
    · exact ⟨none, [], s, members, .here _ _, .inl ⟨before, h, by simp⟩⟩
    · refine ⟨first, before ++ start, sm, members', .inside h hstart, ?_⟩
      rcases hlast with ⟨last, hembeds, rfl⟩ | ⟨keyword, operand, link, hpoints, rfl⟩
      · exact .inl ⟨last, hembeds, by simp⟩
      · exact .inr ⟨keyword, operand, link, hpoints, by simp⟩
  | @behind s _ _ members keyword operand link more _ _ _ h hfind hmore ih =>
    refine .inr ?_
    rcases ih with ⟨rfl, rfl, rfl⟩ | ⟨first, start, sm, members', hstart, hlast⟩
    · exact ⟨none, [], s, members, .here _ _, .inr ⟨keyword, operand, link, h, rfl⟩⟩
    · refine ⟨some operand, .key keyword :: start, sm, members', .behind h hfind hstart, ?_⟩
      rcases hlast with ⟨last, hembeds, rfl⟩ | ⟨keyword, operand, link, hpoints, rfl⟩
      · exact .inl ⟨last, hembeds, rfl⟩
      · exact .inr ⟨keyword, operand, link, hpoints, rfl⟩

end Ways

/-! ### Keywords -/

/-- What the keyword of a report is. -/
inductive Names (resources : Resources) (s : Setting) (schema : Tree) (r : ErrorReport) : Prop
  /-- A keyword of a schema, or a bound of its `contains`. -/
  | keyword {reference : Option Tree} {way : Pointer} {s' : Setting} {members : OrderedMap Tree} {operand : Tree}
      (h : Reaches resources s schema reference way s' (.object members)) (hmember : (r.keyword, operand) ∈ members)
      (hkeyword : r.keyword ∈ s'.draft.reported)
      (hpath : r.schemaPath = "#" ++ Pointer.text (way ++ [.key r.keyword]) ∨
        r.keyword ∈ ["maxContains", "minContains"] ∧
          r.schemaPath = "#" ++ Pointer.text (way ++ [.key "contains", .key r.keyword]))
  /-- The name under which a keyword holds the schema `false`. -/
  | name {reference : Option Tree} {way : Pointer} {s' : Setting} {members entries : OrderedMap Tree}
      {keyword name : String} (h : Reaches resources s schema reference way s' (.object members))
      (hkeyword : keyword ∈ mapKeywords) (hmember : (keyword, .object entries) ∈ members)
      (hentry : (name, .bool false) ∈ entries) (hname : r.keyword = (Step.key name).text)
      (hpath : r.schemaPath = "#" ++ Pointer.text (way ++ [.key keyword, .key name]))
  /-- The index at which a keyword holds the schema `false`. -/
  | index {reference : Option Tree} {way : Pointer} {s' : Setting} {members : OrderedMap Tree} {items : List Tree}
      {keyword : String} {i : Nat} (h : Reaches resources s schema reference way s' (.object members))
      (hkeyword : keyword ∈ listKeywords) (hmember : (keyword, .array items) ∈ members)
      (hitem : items[i]? = some (.bool false)) (hindex : r.keyword = toString i)
      (hpath : r.schemaPath = "#" ++ Pointer.text (way ++ [.key keyword, .index i]))
  /-- Nothing, where the whole schema is `false`. -/
  | whole (h : schema = .bool false) (hkeyword : r.keyword = "") (hpath : r.schemaPath = "#")
  /-- Nothing, where what a text encodes is no text. -/
  | undecodable (fault : Utf8.Fault) (h : r.message = fault.message) (hkeyword : r.keyword = "")
      (hpath : r.schemaPath = "#")

theorem Cause.exists_fault {cause : Cause} (h : cause.hasKeyword = false) :
    ∃ fault : Utf8.Fault, ∀ v, cause.message v = fault.message := by
  induction cause with
  | notText fault => exact ⟨fault, fun _ => rfl⟩
  | ofName name cause ih =>
    obtain ⟨fault, hfault⟩ := ih h
    exact ⟨fault, fun _ => hfault _⟩
  | _ => cases h

section Located

variable {resources : Resources} {s : Setting} {schema : Tree} {e : Violation}

theorem Violation.schemaPath_report (schema : Tree) (e : Violation) :
    (e.report schema).schemaPath = "#" ++ e.keyword.text := rfl

theorem names_of_member {reference : Option Tree} {way : Pointer} {s' : Setting} {members : OrderedMap Tree}
    {keyword : String} {operand : Tree} (h : Reaches resources s schema reference way s' (.object members))
    (hmember : (keyword, operand) ∈ members) (hreported : keyword ∈ s'.draft.reported)
    (heq : e.keyword = way ++ [.key keyword]) : Names resources s schema (e.report schema) := by
  have hkeyword : (e.report schema).keyword = keyword :=
    (Violation.keyword_report heq schema).trans (text_of_reported hreported)
  rw [← hkeyword] at hmember hreported heq
  exact .keyword h hmember hreported (.inl (by rw [Violation.schemaPath_report, ← heq]))

/-- The schema `false` has no keyword, so the end of the way to it counts as one. -/
theorem names_of_false {reference : Option Tree} {s' : Setting}
    (h : Reaches resources s schema reference e.keyword s' (.bool false)) :
    Names resources s schema (e.report schema) := by
  have hpath := Violation.schemaPath_report schema e
  rcases h.eq_or_exists with ⟨hnil, -, rfl⟩ | ⟨first, start, sm, members, hstart, hend⟩
  · refine .whole rfl ?_ (by rw [hpath, hnil]; rfl)
    rw [Violation.report, hnil]
    rfl
  rcases hend with ⟨last, hembeds, heq⟩ | ⟨keyword, operand, link, hpoints, heq⟩
  · cases hembeds with
    | @sole keyword _ hsole hmember =>
      have hreported : ∀ k ∈ soleKeywords, k ∈ reportedAlways := by decide
      exact names_of_member hstart hmember (reported_of_mem (hreported keyword hsole) _) heq
    | listed hlist hmember hitem =>
      have hlast := Violation.keyword_report (heq.trans (List.append_cons start _ _)) schema
      exact .index hstart hlist hmember hitem hlast (by rw [hpath, heq])
    | named hmap hmember hentry =>
      have hlast := Violation.keyword_report (heq.trans (List.append_cons start _ _)) schema
      exact .name hstart hmap hmember hentry hlast (by rw [hpath, heq])
  · exact names_of_member hstart hpoints.mem.1 hpoints.mem.2 heq

theorem names_of_located (h : Located resources s schema e) : Names resources s schema (e.report schema) := by
  cases h with
  | undecodable hcause heq =>
    obtain ⟨fault, hfault⟩ := Cause.exists_fault hcause
    refine .undecodable fault (hfault _) ?_ ?_ <;> rw [Violation.report, heq] <;> rfl
  | owned _ hreaches htail heq =>
    cases htail with
    | member hmember hreported => exact names_of_member hreaches hmember hreported heq
    | @bound members keyword _ _ _ hmember hreported hbound =>
      have hkeyword : (e.report schema).keyword = keyword :=
        (Violation.keyword_report (heq.trans (List.append_cons _ _ _)) schema).trans (text_of_reported hreported)
      rw [← hkeyword] at hmember hreported heq hbound
      exact .keyword hreaches hmember hreported (.inr ⟨hbound, by rw [Violation.schemaPath_report, ← heq]⟩)
    | never =>
      rw [List.append_nil] at heq
      exact names_of_false (heq ▸ hreaches)

end Located

/-- The keyword of a report is one that a schema has as a member and that its draft reports, at the place where the
pointer to it ends.  There are four exceptions: the schema `false` under a name of a mapping of schemas, in a list of
schemas, and as the whole schema, and a text that cannot be decoded. -/
theorem Validator.check_names {references : References} {schema : Tree} {c : Validator}
    (h : Validator.compile references schema = .ok c) : ∃ uri resources,
      Resources.uriOf c.schema = .ok uri ∧ Resources.gather references uri c.schema = .ok resources ∧
        ∀ v, ∀ r ∈ c.check v, Names resources (Program.rootSetting uri c.schema) c.schema r := by
  obtain ⟨uri, resources, huri, hgather, hlocated⟩ := Validator.located_of_mem_violations h
  refine ⟨uri, resources, huri, hgather, fun v r hr => ?_⟩
  obtain ⟨e, he, rfl⟩ := List.mem_map.1 hr
  exact names_of_located (hlocated v e he)

/-- A mapping that must not have a member `x`. -/
def withoutX : Tree :=
  .object [("type", .string "object"), ("properties", .object [("x", .bool false)]), ("required", .array [])]

private theorem compile_withoutX : ∃ c, Validator.compile [] withoutX = .ok c ∧ c.schema = withoutX ∧
    c.program.root = .rules [.assertion "type" (.type [.object] true), .property "x" (.always false),
      .assertion "required" (.required [])] := by
  have hentries : ∀ p ∈ [("x", Tree.bool false)], isAnonymous p.2 = true := by
    rw [List.forall_mem_singleton]
    rfl
  have hroot : (read (Program.rootSetting rootUri withoutX) withoutX).node = .rules
      [.assertion "type" (.type [.object] true), .property "x" (.always false), .assertion "required" (.required [])] :=
    node_of_properties (draft_rootSetting rootUri withoutX) rfl hentries []
  refine ⟨_, compileLowered_of_standalone (t := withoutX) ?_ ?_ ?_ ?_, rfl, hroot⟩
  · refine standalone_properties ?_ hentries []
    rw [List.forall_mem_singleton]
    exact standalone_of_object?_eq_none rfl
  · exact isAnonymous_of_keys (by decide)
  · have hfalse : ∀ p ∈ [("x", Tree.bool false)], IsSchema p.2 := by
      rw [List.forall_mem_singleton]
      exact isSchema_bool false
    exact @isSchema_properties _ [] hfalse List.nodup_nil
  · rw [hroot]
    rfl

/-- The keyword of a report can be the name of a property. -/
theorem check_names_withoutX : ∃ c, Validator.compile [] withoutX = .ok c ∧
    (∃ r ∈ c.check (.object [("x", .null)]), r.keyword = "x" ∧ r.schemaPath = "#/properties/x") ∧ ∃ uri resources,
      Resources.uriOf c.schema = .ok uri ∧ Resources.gather [] uri c.schema = .ok resources ∧
        ∀ v, ∀ r ∈ c.check v, Names resources (Program.rootSetting uri c.schema) c.schema r := by
  obtain ⟨c, hc, hschema, hroot⟩ := compile_withoutX
  have hforbidden : ⟨[.key "x"], [.key "properties", .key "x"], .null, .notAllowed⟩ ∈
      c.program.violations (.object [("x", .null)]) := by
    rw [Program.violations, hroot, Node.violations, mem_violationsOfAll]
    exact ⟨.property "x" (.always false), by simp, List.mem_singleton_self _⟩
  refine ⟨c, hc, ⟨_, List.mem_map_of_mem hforbidden, ?_, ?_⟩, Validator.check_names hc⟩
  · rw [hschema]
    decide
  · rw [hschema]
    decide

end YamlSchema.Schema
