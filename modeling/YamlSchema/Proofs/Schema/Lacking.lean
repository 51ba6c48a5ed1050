import YamlSchema.Proofs.Schema.Finding
import YamlSchema.Proofs.Schema.Supply
import YamlSchema.Proofs.Schema.Wording
import YamlSchema.Proofs.Tree.Lacking

/-!
# Violations without a character

A violation holds some texts as they are: keys, patterns and names.  All of them stand in the schema, in what its links
lead to, or in the instance; so if these lack a control character, the violation lacks it too (`Found.lacks`).  The
documents of the drafts have no control characters, so it is enough that the schema, the references and the instance
lack one (`Validator.lacks_of_mem_violations`).
-/

namespace YamlSchema

open Text

variable {c : Char}

theorem Pointer.not_occursIn_append {p q : Pointer} (hp : ¬ OccursIn c p.names) (hq : ¬ OccursIn c q.names) :
    ¬ OccursIn c (names (p ++ q)) := by
  rw [names, List.filterMap_append, occursIn_append]
  exact not_or.2 ⟨hp, hq⟩

namespace Schema

/-- No key on the ways of a violation, and no text that its message holds as it is, has a character. -/
structure Violation.Lacks (c : Char) (e : Violation) : Prop where
  at_ : ¬ OccursIn c e.at_.names
  keyword : ¬ OccursIn c e.keyword.names
  cause : ¬ OccursIn c e.cause.verbatim

namespace Violation.Lacks

variable {e : Violation}

theorem not_occursIn_verbatim (h : e.Lacks c) : ¬ OccursIn c e.verbatim := by
  have hlast : ¬ OccursIn c (e.keyword.getLast?.bind Step.name?).toList := by
    rintro ⟨name, hname, hmem⟩
    obtain ⟨s, hs, hname⟩ := Option.bind_eq_some_iff.1 (Option.mem_toList.1 hname)
    exact h.keyword ⟨name, List.mem_filterMap.2 ⟨s, List.mem_of_mem_getLast? hs, hname⟩, hmem⟩
  rw [verbatim, occursIn_append, occursIn_append]
  exact not_or.2 ⟨not_or.2 ⟨h.at_, hlast⟩, h.cause⟩

theorem under (h : e.Lacks c) {step : Option Step} (hstep : ¬ OccursIn c (Pointer.names step.toList)) {way : Pointer}
    (hway : ¬ OccursIn c way.names) : (e.under step way).Lacks c := by
  refine ⟨?_, ?_, h.cause⟩
  · change ¬ OccursIn c (Pointer.names (if e.cause.hasPlace then step.toList ++ e.at_ else e.at_))
    split
    · exact Pointer.not_occursIn_append hstep h.at_
    · exact h.at_
  · change ¬ OccursIn c (Pointer.names (if e.cause.hasKeyword then way ++ e.keyword else e.keyword))
    split
    · exact Pointer.not_occursIn_append hway h.keyword
    · exact h.keyword

theorem ofName (h : e.Lacks c) (hkey : ¬ OccursIn c (Pointer.names [.key "propertyNames"])) (v : Tree)
    (name : String) : (e.ofName v name).Lacks c :=
  have hname : Violation.Lacks c ⟨[], e.keyword, v, .ofName name e.cause⟩ := ⟨not_occursIn_nil, h.keyword, h.cause⟩
  hname.under not_occursIn_nil hkey

end Violation.Lacks

/-! ### Assertions -/

@[simp] theorem isClean_formatName (f : Format) : isClean f.name.toList = true := by
  cases f <;> exact isClean_literal rfl

theorem Assertion.mem_when_iff {broken : Bool} {value : Tree} {cause : Cause} {x : Tree × Cause} :
    x ∈ when broken value cause ↔ broken = true ∧ x = (value, cause) := by
  cases broken <;> simp [when]

/-- Of what an assertion asks only a pattern is told as it is. -/
theorem Assertion.not_occursIn_causes (hc : c.toNat < 32) {a : Assertion}
    (ha : ∀ p, a = .pattern p → c ∉ p.text.toList) (v : Tree) : ∀ x ∈ a.causes v, ¬ OccursIn c x.2.verbatim := by
  have hbase : isClean "base64".toList = true := isClean_literal rfl
  have hjson : isClean "application/json".toList = true := isClean_literal rfl
  have hwhen {broken : Bool} {cause : Cause} (h : ¬ OccursIn c cause.verbatim) :
      ∀ x ∈ when broken v cause, ¬ OccursIn c x.2.verbatim := by
    rintro x hx
    obtain ⟨-, rfl⟩ := mem_when_iff.1 hx
    exact h
  have hmissing (value : Tree) (members : OrderedMap Tree) (names : List String) :
      ∀ x ∈ missing value members names, ¬ OccursIn c x.2.verbatim := by
    rw [missing, List.forall_mem_map]
    exact fun _ _ => not_occursIn_nil
  fun_cases Assertion.causes a v
  case case12 p text found _ => exact hwhen (by simpa [Cause.verbatim] using ha p rfl)
  case case22 f text => exact hwhen (not_occursIn_singleton hc (isClean_formatName f))
  case case23 => exact hwhen (not_occursIn_singleton hc hbase)
  case case24 | case26 => exact hwhen (not_occursIn_singleton hc hjson)
  all_goals first
    | exact hwhen not_occursIn_nil
    | exact hmissing _ _ _
    | exact List.forall_mem_singleton.2 not_occursIn_nil
    | exact List.forall_mem_nil _

/-! ### Schemas -/

section Parts

variable {s s' : Setting} {members : OrderedMap Tree} {t : Tree}

theorem not_occursIn_key {m : String × Tree} (h : (Tree.object members).Lacks c) (hm : m ∈ members) :
    ¬ OccursIn c (Pointer.names [.key m.1]) := by
  simpa [Pointer.names, Step.name?] using (h.member hm).1

theorem Embeds.lacks {way : Pointer} (h : Embeds s members way s' t) (hmembers : (Tree.object members).Lacks c) :
    t.Lacks c ∧ ¬ OccursIn c way.names := by
  cases h with
  | sole _ ht => exact ⟨(hmembers.member ht).2, not_occursIn_key hmembers ht⟩
  | listed _ hitems ht =>
    cases (hmembers.member hitems).2 with
    | array h => exact ⟨h _ (List.mem_of_getElem? ht), not_occursIn_key hmembers hitems⟩
  | named _ hentries ht =>
    have hinner := (hmembers.member hentries).2
    exact ⟨(hinner.member ht).2,
      Pointer.not_occursIn_append (not_occursIn_key hmembers hentries) (not_occursIn_key hinner ht)⟩

theorem Owns.lacks {tail : Pointer} (h : Owns s t tail) (ht : t.Lacks c) : ¬ OccursIn c tail.names := by
  cases h with
  | member hmember _ => exact not_occursIn_key ht hmember
  | bound htest hmember _ _ =>
    exact Pointer.not_occursIn_append (not_occursIn_key ht htest) (not_occursIn_key ht hmember)
  | never => exact not_occursIn_nil

theorem lacks_of_mem_membersOf {v : Tree} (h : v.Lacks c) {m : String × Tree} (hm : m ∈ membersOf v) :
    c ∉ m.1.toList ∧ m.2.Lacks c := by
  cases h with
  | object hkeys hmembers => exact ⟨hkeys m hm, hmembers m hm⟩
  | _ => cases hm

theorem LooksAt.lacks {v part : Tree} {step : Option Step} (h : LooksAt v step part) (hv : v.Lacks c) :
    part.Lacks c ∧ ¬ OccursIn c (Pointer.names step.toList) := by
  cases h with
  | whole => exact ⟨hv, not_occursIn_nil⟩
  | member hm =>
    obtain ⟨hkey, hpart⟩ := lacks_of_mem_membersOf hv hm
    exact ⟨hpart, by simpa [Pointer.names, Step.name?] using hkey⟩
  | item hi =>
    cases hv with
    | array hitems => exact ⟨hitems _ (List.mem_of_getElem? hi), not_occursIn_nil⟩
    | _ => cases hi

theorem Cause.IsOwn.lacks {v : Tree} {cause : Cause} (h : cause.IsOwn v) (hv : v.Lacks c) :
    ¬ OccursIn c cause.verbatim := by
  cases h with
  | unexpectedNames hnames | unevaluatedNames hnames =>
    rintro ⟨name, hname, hmem⟩
    obtain ⟨t, ht⟩ := hnames name hname
    exact (lacks_of_mem_membersOf hv ht).1 hmem
  | _ => exact not_occursIn_nil

end Parts

/-- Where a schema, what it refers to and an instance lack a control character, so do the violations. -/
theorem Found.lacks (hc : c.toNat < 32) {resources : Resources}
    (hresources : ∀ link s t, resources.find link = .ok (s, t) → t.Lacks c) {s : Setting} {t v : Tree} {e : Violation}
    (h : Found resources s t v e) (ht : t.Lacks c) (hv : v.Lacks c) : e.Lacks c := by
  induction h with
  | never s v => exact ⟨not_occursIn_nil, not_occursIn_nil, not_occursIn_nil⟩
  | asserted h hpattern hcause =>
    have htext := Assertion.not_occursIn_causes hc
      (fun p hp => Tree.Lacks.string_iff.1 (ht.member (hpattern p hp)).2) _ _ hcause
    exact Violation.Lacks.under ⟨not_occursIn_nil, not_occursIn_nil, htext⟩ not_occursIn_nil (h.lacks ht)
  | own h hcause => exact ⟨not_occursIn_nil, h.lacks ht, hcause.lacks hv⟩
  | inside h hpart _ ih =>
    obtain ⟨hinner, hway⟩ := h.lacks ht
    obtain ⟨hpart, hstep⟩ := hpart.lacks hv
    exact (ih hinner hpart).under hstep hway
  | ofName h hname _ ih =>
    obtain ⟨hinner, hway⟩ := h.lacks ht
    exact (ih hinner (.string (lacks_of_mem_membersOf hv hname).1)).ofName hway _ _
  | behind h hfind _ ih =>
    exact (ih (hresources _ _ _ hfind) hv).under not_occursIn_nil (not_occursIn_key ht h.mem.1)

/-! ### Compiled schemas -/

set_option maxRecDepth 10000 in
private theorem hasCleanBytes_published : ∀ d ∈ MetaSchema.published, d.2.hasCleanBytes = true := by
  decide +kernel

/-- The documents of the drafts have no control characters, so nothing has that is made of a schema and references
without them. -/
theorem Supplied.lacks (hc : c.toNat < 32) {references : References} {schema t : Tree} (hschema : schema.Lacks c)
    (hreferences : ∀ id t, OrderedMap.get? references id = some t → t.Lacks c) (h : Supplied references schema t) :
    t.Lacks c := by
  induction h with
  | schema => exact hschema
  | published hd => exact Tree.lacks_of_hasCleanBytes hc (hasCleanBytes_published _ hd)
  | reference ht => exact (hreferences _ _ ht).lower
  | part _ hpart ih => exact ih.of_hasPart hpart

/-- Where a schema, the references and an instance lack a control character, so do the violations. -/
theorem Validator.lacks_of_mem_violations (hc : c.toNat < 32) {references : References} {schema : Tree} {r : Validator}
    (h : Validator.compile references schema = .ok r) (hschema : schema.Lacks c)
    (hreferences : ∀ id t, OrderedMap.get? references id = some t → t.Lacks c) {v : Tree} (hv : v.Lacks c) :
    ∀ e ∈ r.program.violations v, e.Lacks c := by
  obtain ⟨uri, resources, -, hgather, hfound⟩ := found_of_mem_violations h
  have hlowered : r.schema.Lacks c := by
    obtain ⟨heq, -⟩ := exists_of_compile h
    rw [heq]
    exact hschema.lower
  refine fun e he => (hfound v e he).lacks hc (fun link s t hfind => ?_) hlowered hv
  exact ((Resources.allSupplied_of_gather hgather).find hfind).lacks hc hlowered hreferences

end Schema

end YamlSchema
