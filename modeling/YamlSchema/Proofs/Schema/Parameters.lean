import YamlSchema.Proofs.Schema.Lowering
import YamlSchema.Proofs.Schema.Referring
import YamlSchema.Proofs.Schema.Reports

/-!
# The parameters of a report

The parameters of most reports are looked up in the schema that was compiled, by the pointer to the keyword.  They are
the value of the keyword as long as the way to it stays inside that schema, and there are none behind a reference, since
nothing is inside its text (`report_supplies`).
-/

namespace YamlSchema.Schema

/-! ### Ways through a schema -/

section Ways

variable {resources : Resources} {s s' : Setting} {t u operand : Tree} {reference : Option Tree} {way : Pointer}

theorem Embeds.leads {members : OrderedMap Tree} (h : Embeds s members way s' t)
    (hkeys : (Tree.object members).HasDistinctKeys) : (Tree.object members).Leads way t ∧ t.HasDistinctKeys := by
  cases hkeys with
  | object hnodup hmembers =>
    cases h with
    | sole _ ht => exact ⟨.member (OrderedMap.get?_of_mem hnodup ht) (.here t), hmembers _ ht⟩
    | listed _ hitems ht =>
      cases hmembers _ hitems with
      | array hdistinct =>
        exact ⟨.member (OrderedMap.get?_of_mem hnodup hitems) (.item ht (.here t)),
          hdistinct t (List.mem_of_getElem? ht)⟩
    | named _ hentries ht =>
      cases hmembers _ hentries with
      | object hnodup' hdistinct =>
        exact ⟨.member (OrderedMap.get?_of_mem hnodup hentries) (.member (OrderedMap.get?_of_mem hnodup' ht) (.here t)),
          hdistinct _ ht⟩

/-- A way without references is one through the tree. -/
theorem Reaches.leads (h : Reaches resources s t none way s' u) (hkeys : t.HasDistinctKeys) :
    t.Leads way u ∧ u.HasDistinctKeys := by
  generalize hreference : (none : Option Tree) = reference at h
  induction h with
  | here => exact ⟨.here _, hkeys⟩
  | inside h _ ih =>
    obtain ⟨hleads, hkeys⟩ := h.leads hkeys
    obtain ⟨hmore, hkeys⟩ := ih hkeys hreference
    exact ⟨hleads.append hmore, hkeys⟩
  | behind => cases hreference

/-- A way goes to a reference without going through another one, and on from where that leads. -/
inductive Crosses (resources : Resources) (s : Setting) (t operand : Tree) (start : Pointer) (keyword : String)
    (more : Pointer) (s' : Setting) (u : Tree) : Prop
  | intro {sm sn : Setting} {members : OrderedMap Tree} {link : Link} {target : Tree} {reference : Option Tree}
      (hstart : Reaches resources s t none start sm (.object members))
      (hpoints : PointsAt sm members keyword operand link) (hfind : resources.find link = .ok (sn, target))
      (hmore : Reaches resources sn target reference more s' u)

theorem Reaches.exists_crosses (h : Reaches resources s t (some operand) way s' u) : ∃ start keyword more,
    Crosses resources s t operand start keyword more s' u ∧ way = start ++ .key keyword :: more := by
  generalize hreference : some operand = reference at h
  induction h with
  | here => cases hreference
  | inside h _ ih =>
    obtain ⟨start, keyword, more, ⟨hstart, hpoints, hfind, hmore⟩, rfl⟩ := ih hreference
    exact ⟨_, keyword, more, ⟨.inside h hstart, hpoints, hfind, hmore⟩, by rw [List.append_assoc]⟩
  | @behind _ _ _ _ keyword _ _ more _ _ _ h hfind hmore =>
    cases hreference
    exact ⟨[], keyword, more, ⟨.here _ _, h, hfind, hmore⟩, rfl⟩

/-- The value of the reference is found where the way crosses it. -/
theorem Crosses.leads {start more : Pointer} {keyword : String}
    (h : Crosses resources s t operand start keyword more s' u) (hkeys : t.HasDistinctKeys) :
    t.Leads (start ++ [.key keyword]) operand := by
  obtain ⟨hstart, hpoints, -, -⟩ := h
  obtain ⟨hleads, hkeys⟩ := hstart.leads hkeys
  cases hkeys with
  | object hnodup _ =>
    exact hleads.append (.member (OrderedMap.get?_of_mem hnodup hpoints.mem.1) (.here operand))

theorem Crosses.exists_reported {start more : Pointer} {keyword : String}
    (h : Crosses resources s t operand start keyword more s' u) : ∃ d : Draft, keyword ∈ d.reported := by
  obtain ⟨-, hpoints, -, -⟩ := h
  exact ⟨_, hpoints.mem.2⟩

end Ways

/-! ### Parameters -/

/-- What the parameters of a report are that is neither about a missing member nor about literals. -/
inductive Supplies (resources : Resources) (s : Setting) (schema : Tree) (r : ErrorReport) : Prop
  /-- The keyword and its value in the schema that is broken. -/
  | member {way : Pointer} {s' : Setting} {members : OrderedMap Tree} {operand : Tree}
      (h : Reaches resources s schema none way s' (.object members)) (hmember : (r.keyword, operand) ∈ members)
      (hpath : r.schemaPath = "#" ++ Pointer.text (way ++ [.key r.keyword]))
      (hparams : r.params = .object [(r.keyword, operand)])
  /-- Of a bound for `contains`, what is called like it in the schema of `contains`. -/
  | bound {way : Pointer} {s' : Setting} {members : OrderedMap Tree} {test operand : Tree}
      (h : Reaches resources s schema none way s' (.object members)) (htest : ("contains", test) ∈ members)
      (hmember : (r.keyword, operand) ∈ members) (hbound : r.keyword ∈ ["maxContains", "minContains"])
      (hpath : r.schemaPath = "#" ++ Pointer.text (way ++ [.key "contains", .key r.keyword]))
      (hparams : r.params = .object ((test.member? r.keyword).toList.map fun t => (r.keyword, t)))
  /-- Where the schema that is broken is `false`, this one under the last step of the way to it. -/
  | never {way : Pointer} {s' : Setting} (h : Reaches resources s schema none way s' (.bool false))
      (hpath : r.schemaPath = "#" ++ way.text) (hparams : r.params = .object [(r.keyword, .bool false)])
  /-- Where a reference leads to the schema `false`, the reference. -/
  | reference {start : Pointer} {s' : Setting} {operand : Tree}
      (h : Crosses resources s schema operand start r.keyword [] s' (.bool false))
      (hpath : r.schemaPath = "#" ++ Pointer.text (start ++ [.key r.keyword]))
      (hparams : r.params = .object [(r.keyword, operand)])
  /-- Nothing, where the way goes on behind a reference.  A `$recursiveRef` leads on whatever its value is; what is
  found in one that is no text is left out. -/
  | behind {start more tail : Pointer} {keyword : String} {s' : Setting} {operand u : Tree}
      (h : Crosses resources s schema operand start keyword more s' u) (htail : Owns s' u tail)
      (hne : more ++ tail ≠ []) (hpath : r.schemaPath = "#" ++ Pointer.text (start ++ .key keyword :: (more ++ tail)))
      (hparams : operand.isString = true → r.params = .object [])
  /-- The whole schema, where what a text encodes is no text. -/
  | undecodable (fault : Utf8.Fault) (h : r.message = fault.message) (hpath : r.schemaPath = "#")
      (hparams : r.params = .object [("", schema)])

section Reports

variable {resources : Resources} {s s' : Setting} {schema t u : Tree} {e : Violation} {way tail : Pointer}

/-- Two kinds of reports have parameters of their own. -/
def Cause.isLookedUp : Cause → Bool
  | .required _ | .notInEnum _ => false
  | _ => true

theorem keywordParams_text (p : Pointer) : Violation.keywordParams schema p.text =
    .object ((schema.descend? (p.map Step.token)).toList.map fun t => (Violation.lastSegment p.text, t)) := by
  rw [Violation.keywordParams, Tree.pointer?_text_eq]
  cases schema.descend? (p.map Step.token) <;> rfl

theorem params_report (h : e.cause.isLookedUp = true) : (e.report schema).params =
    .object ((schema.descend? (e.keyword.map Step.token)).toList.map fun t => ((e.report schema).keyword, t)) := by
  have hparams : (e.report schema).params = Violation.keywordParams schema e.keyword.text := by
    rw [Violation.report]
    dsimp only
    split
    · rename_i hcause
      rw [hcause] at h
      cases h
    · rename_i hcause
      rw [hcause] at h
      cases h
    · rfl
  rw [hparams, keywordParams_text]
  rfl

/-- What the pointer leads to is the value of the keyword. -/
theorem params_report_of_leads (h : e.cause.isLookedUp = true) (hleads : schema.Leads e.keyword t)
    (hnarrow : e.keyword.IsNarrow) : (e.report schema).params = .object [((e.report schema).keyword, t)] := by
  rw [params_report h, hleads.descend?_eq hnarrow]
  rfl

/-- Seen from a place on the way, it is the rest of the pointer that is looked up there. -/
theorem params_report_of_append (h : e.cause.isLookedUp = true) (heq : e.keyword = way ++ tail)
    (hleads : schema.Leads way t) (hnarrow : e.keyword.IsNarrow) : (e.report schema).params =
      .object ((t.descend? (tail.map Step.token)).toList.map fun u => ((e.report schema).keyword, u)) := by
  have hway : way.IsNarrow := fun i hi => hnarrow i (heq ▸ List.mem_append_left tail hi)
  rw [params_report h, heq, List.map_append, Tree.descend?_append, hleads.descend?_eq hway, Option.bind_some]

theorem descend?_of_bound {keyword : String} (h : keyword ∈ ["maxContains", "minContains"]) (t : Tree) :
    t.descend? [keyword.toList] = t.member? keyword := by
  have hindex : ∀ keyword ∈ ["maxContains", "minContains"], arrayIndex? keyword.toList = none := by decide
  have hchild : t.child? keyword.toList = t.member? keyword := by
    cases t with
    | object members =>
      rw [Tree.child?, String.ofList_toList]
      rfl
    | array items =>
      rw [Tree.child?, hindex keyword h]
      rfl
    | _ => rfl
  rw [Tree.descend?, hchild]
  exact Option.bind_fun_some _

/-- As long as the way stays inside, the parameters are the value of what is broken. -/
theorem supplies_of_reaches (h : Reaches resources s schema none way s' u) (htail : Owns s' u tail)
    (heq : e.keyword = way ++ tail) (hkeys : schema.HasDistinctKeys) (hnarrow : e.keyword.IsNarrow)
    (hcause : e.cause.isLookedUp = true) : Supplies resources s schema (e.report schema) := by
  have hpath := Violation.schemaPath_report schema e
  obtain ⟨hleads, hdistinct⟩ := h.leads hkeys
  cases htail with
  | @member members keyword operand hmember hreported =>
    have hkeyword := (Violation.keyword_report heq schema).trans (text_of_reported hreported)
    cases hdistinct with
    | object hnodup _ =>
      have hoperand := hleads.append (.member (OrderedMap.get?_of_mem hnodup hmember) (.here operand))
      rw [← heq] at hoperand
      rw [← hkeyword] at hmember heq
      exact .member h hmember (by rw [hpath, ← heq]) (params_report_of_leads hcause hoperand hnarrow)
  | @bound members keyword test operand htest hmember hreported hbound =>
    have hkeyword := (Violation.keyword_report (heq.trans (List.append_cons way _ _)) schema).trans
      (text_of_reported hreported)
    cases hdistinct with
    | object hnodup _ =>
      have hcontains := hleads.append (.member (OrderedMap.get?_of_mem hnodup htest) (.here test))
      have hparams := params_report_of_append hcause (heq.trans (List.append_cons way _ _)) hcontains hnarrow
      rw [List.map_singleton, Step.token, descend?_of_bound hbound] at hparams
      rw [← hkeyword] at hmember heq hbound hparams
      exact .bound h htest hmember hbound (by rw [hpath, ← heq]) hparams
  | never =>
    rw [List.append_nil] at heq
    rw [← heq] at hleads
    exact .never h (by rw [hpath, heq]) (params_report_of_leads hcause hleads hnarrow)

/-- Nothing is inside the text of a reference. -/
theorem supplies_of_crosses {start more : Pointer} {keyword : String} {operand : Tree}
    (h : Crosses resources s schema operand start keyword more s' u) (htail : Owns s' u tail)
    (heq : e.keyword = start ++ .key keyword :: more ++ tail) (hkeys : schema.HasDistinctKeys)
    (hnarrow : e.keyword.IsNarrow) (hcause : e.cause.isLookedUp = true) :
    Supplies resources s schema (e.report schema) := by
  have hpath := Violation.schemaPath_report schema e
  have hleads := h.leads hkeys
  by_cases hne : more ++ tail = []
  · obtain ⟨rfl, rfl⟩ := List.append_eq_nil_iff.1 hne
    rw [List.append_nil] at heq
    obtain ⟨_, hreported⟩ := h.exists_reported
    have hkeyword := (Violation.keyword_report heq schema).trans (text_of_reported hreported)
    rw [← heq] at hleads
    rw [← hkeyword] at h heq
    cases htail
    exact .reference h (by rw [hpath, ← heq]) (params_report_of_leads hcause hleads hnarrow)
  · refine .behind h htail hne (by rw [hpath, heq, List.append_assoc, List.cons_append]) fun hstring => ?_
    have hsplit : e.keyword = start ++ [.key keyword] ++ (more ++ tail) := by simp [heq]
    rw [params_report_of_append hcause hsplit hleads hnarrow]
    cases operand with
    | string target =>
      obtain ⟨step, rest, hrest⟩ := List.exists_cons_of_ne_nil hne
      rw [hrest]
      rfl
    | _ => cases hstring

theorem supplies_of_located (h : Located resources s schema e) (hkeys : schema.HasDistinctKeys)
    (hnarrow : e.keyword.IsNarrow) (hcause : e.cause.isLookedUp = true) :
    Supplies resources s schema (e.report schema) := by
  cases h with
  | undecodable hnone heq =>
    obtain ⟨fault, hfault⟩ := Cause.exists_fault hnone
    refine .undecodable fault (hfault _) (by rw [Violation.report, heq]; rfl) ?_
    rw [params_report hcause, Violation.report, heq]
    rfl
  | @owned reference way tail _ _ _ hreaches htail heq =>
    cases reference with
    | none => exact supplies_of_reaches hreaches htail heq hkeys hnarrow hcause
    | some operand =>
      obtain ⟨start, keyword, more, hcrosses, rfl⟩ := hreaches.exists_crosses
      exact supplies_of_crosses hcrosses htail heq hkeys hnarrow hcause

end Reports

/-- The parameters of the reports of a compiled schema that are neither about a missing member nor about literals: the
value of the keyword in the schema that is broken, if the way to it goes through no reference, and none behind a
reference.  For a bound of `contains`, the schema `false` and a text that cannot be decoded they are what the pointer
happens to name. -/
theorem Validator.report_supplies {references : References} {schema : Tree} {c : Validator}
    (h : Validator.compile references schema = .ok c) (hkeys : schema.HasDistinctKeys) : ∃ uri resources,
      Resources.uriOf c.schema = .ok uri ∧ Resources.gather references uri c.schema = .ok resources ∧
        ∀ v, c.check v = (c.program.violations v).map (Violation.report c.schema) ∧
          ∀ e ∈ c.program.violations v, e.keyword.IsNarrow → e.cause.isLookedUp = true →
            Supplies resources (Program.rootSetting uri c.schema) c.schema (e.report c.schema) := by
  obtain ⟨uri, resources, huri, hgather, hlocated⟩ := Validator.located_of_mem_violations h
  refine ⟨uri, resources, huri, hgather, fun v => ⟨rfl, fun e he hnarrow hcause => ?_⟩⟩
  refine supplies_of_located (hlocated v e he) ?_ hnarrow hcause
  rw [(Validator.exists_of_compile h).1]
  exact hasDistinctKeys_lower hkeys

/-- A mapping whose member `y` has to meet the same schema. -/
def recursiveSchema : Tree :=
  .object [("type", .string "object"), ("properties", .object [("y", .object [("$ref", .string "#")])])]

/-- The link to the whole schema. -/
private def toWhole : Link := ⟨rootUri, rootUri, "", false, .empty⟩

private def recursiveNode : Node :=
  .rules [.assertion "type" (.type [.object] true), .property "y" (.rules [.reference "$ref" toWhole])]

private theorem node_recursiveSchema : (read rootPlace recursiveSchema).node = recursiveNode := by
  have hanonymous : ∀ p ∈ [("y", Tree.object [("$ref", .string "#")])], isAnonymous p.2 = true := by
    rw [List.forall_mem_singleton]
    exact isAnonymous_of_keys (by decide)
  have hreference : (read rootPlace (.object [("$ref", .string "#")])).node = .rules [.reference "$ref" toWhole] :=
    node_of_reference rfl rfl
  rw [recursiveSchema, node_of_mapping rfl (isAnonymous_of_keys (by decide)) hanonymous, List.map_singleton, hreference,
    recursiveNode]

private theorem isNameless_recursiveSchema : IsNameless recursiveSchema := by
  simp [recursiveSchema, isNameless_object_iff, isNameless_string, Tree.isString]

private theorem compile_recursiveSchema : Validator.compile [] recursiveSchema =
    .ok ⟨recursiveSchema, recursiveNode, [(toWhole, recursiveNode)]⟩ := by
  have hname := isNameless_recursiveSchema
  have hschema : IsSchema recursiveSchema :=
    isSchema_mapping (List.forall_mem_singleton.2 (isSchema_reference (by decide +kernel)))
  have hlevel : (places 0 .draft7 rootUri recursiveSchema).Pairwise fun p q => p.level ≤ q.level := by decide +kernel
  have hwanted : (Resources.survey [⟨.draft7, rootUri, recursiveSchema⟩]).flatMapM Place.outside = .ok [] := by
    rw [Resources.survey_singleton hlevel]
    rfl
  have hsource : (Resources.start rootUri recursiveSchema).extend .empty rootUri = .empty :=
    Resources.extend_empty_of_get? rfl not_contains_rootUri Resources.get?_start rfl
  have hfind := Resources.find_document hsource Resources.get?_start hname
  have hdemands : recursiveNode.demands = [.resolve toWhole] := rfl
  obtain ⟨fuel, hfuel⟩ : ∃ fuel, Links.maxLinks = fuel + 1 := ⟨18446744073709551615, rfl⟩
  have hsettle : Links.settle (Resources.start rootUri recursiveSchema) Links.maxLinks [] recursiveNode.demands =
      .ok [(toWhole, recursiveNode)] := by
    rw [hfuel, hdemands, toWhole, Links.settle_resolve rfl hfind, ← rootPlace, node_recursiveSchema, hdemands, toWhole,
      List.nil_append, List.append_nil, Links.settle_resolve_of_isSome (by simp [Links.node?]), Links.settle]
  have hlower : lower recursiveSchema = recursiveSchema := rfl
  rw [Validator.compile, hlower, Validator.compileLowered_eq_ok_iff hname]
  refine ⟨rfl, hschema.violations_eq_nil, Resources.start rootUri recursiveSchema, ?_, ?_⟩
  · obtain ⟨rounds, hrounds⟩ : ∃ rounds, Resources.maxRounds = rounds + 1 := ⟨18446744073709551615, rfl⟩
    rw [Resources.gather, hrounds]
    exact Resources.collect_of_isAtHand hname hwanted (by simp) rounds
  · rw [← node_recursiveSchema] at hsettle ⊢
    exact Program.build_of_settle hname hsettle

/-- Behind the reference a wrong type is reported without parameters. -/
theorem report_supplies_recursiveSchema : ∃ c, Validator.compile [] recursiveSchema = .ok c ∧ ∃ uri resources,
    Resources.uriOf c.schema = .ok uri ∧ Resources.gather [] uri c.schema = .ok resources ∧
      ∃ e ∈ c.program.violations (.object [("y", .null)]),
        (e.report c.schema).schemaPath = "#/properties/y/$ref/type" ∧ (e.report c.schema).params = .object [] ∧
          Supplies resources (Program.rootSetting uri c.schema) c.schema (e.report c.schema) := by
  have hreference : (Tree.object [("$ref", .string "#")]).HasDistinctKeys :=
    .object (List.nodup_singleton _) (List.forall_mem_singleton.2 (.string _))
  have hproperties : (Tree.object [("y", .object [("$ref", .string "#")])]).HasDistinctKeys :=
    .object (List.nodup_singleton _) (List.forall_mem_singleton.2 hreference)
  have hkeys : recursiveSchema.HasDistinctKeys :=
    .object (by decide) (List.forall_mem_cons.2 ⟨.string _, List.forall_mem_singleton.2 hproperties⟩)
  obtain ⟨uri, resources, huri, hgather, hsupplies⟩ := Validator.report_supplies compile_recursiveSchema hkeys
  obtain ⟨e, heq⟩ : ∃ e : Violation,
      e = ⟨[.key "y"], [.key "properties", .key "y", .key "$ref", .key "type"], .null, .wrongType [.object]⟩ := ⟨_, rfl⟩
  have he : e ∈ (⟨recursiveNode, [(toWhole, recursiveNode)]⟩ : Program).violations (.object [("y", .null)]) := by
    rw [heq]
    exact List.mem_singleton_self _
  refine ⟨_, compile_recursiveSchema, uri, resources, huri, hgather, e, he, ?_, ?_, (hsupplies _).2 e he ?_ ?_⟩
  · rw [heq]
    decide
  · rw [heq]
    decide
  · simp [heq, Pointer.IsNarrow]
  · rw [heq]
    rfl

end YamlSchema.Schema
