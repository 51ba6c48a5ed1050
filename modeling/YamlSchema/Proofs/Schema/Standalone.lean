import YamlSchema.Proofs.Schema.MetaSchema

/-!
# Schemas that stand alone

A schema is `Standalone` if no place in it names a document.  Nothing has to be gathered for it, whatever may be
referred to, so it is compiled if the schema of schemas has nothing against it and it demands nothing
(`compileLowered_of_standalone`); it is refused if it demands to be (`compileLowered_error_of_fail`).
-/

namespace YamlSchema.Schema

/-- No place in a tree names a document, wherever the tree stands. -/
def Standalone (t : Tree) : Prop := ∀ level base, ∀ p ∈ places level .draft7 base t, p.outside = .ok []

/-! ### Places -/

/-- The keys by which a mapping names a document or itself. -/
private def naming : List String := ["$ref", "$schema", "$id"]

theorem isAnonymous_of_naming {ms : List (String × Tree)} (h : ∀ m ∈ ms, m.1 ∉ naming) :
    isAnonymous (.object ms) = true := by
  refine isAnonymous_of_keys fun key hkey hmem => ?_
  obtain ⟨m, hm, rfl⟩ := List.mem_map.1 hmem
  exact h m hm (List.mem_cons_of_mem _ hkey)

theorem outside_of_naming {level : Nat} {base : Uri} {ms : List (String × Tree)} (h : ∀ m ∈ ms, m.1 ∉ naming) :
    Place.outside ⟨level, .draft7, base, ms⟩ = .ok [] := by
  have hown := ownId?_of_isAnonymous (isAnonymous_of_naming h)
  have hdraft : draftOf .draft7 (.object ms) = .ok .draft7 := by
    rw [draftOf, named_of_isAnonymous (isAnonymous_of_naming h)]
  have hnone : (ms.filter fun m => m.1 = "$ref" || m.1 = "$schema") = [] := by
    refine List.filter_eq_nil_iff.2 fun m hm => ?_
    have := h m hm
    simp only [naming, List.mem_cons, List.not_mem_nil, or_false, not_or] at this
    simp [this.1, this.2.1]
  have houtside : ∀ fuel, Schema.outside fuel base ms = .ok [] := by
    intro fuel
    unfold Schema.outside
    split
    · rfl
    · rw [hnone]; cases fuel <;> rfl
  rw [Place.outside]
  split <;> simp [hdraft, hown, houtside, bind, Except.bind, pure, Except.pure]

theorem standalone_of_members {ms : List (String × Tree)} (h : ∀ m ∈ ms, m.1 ∉ naming)
    (hinner : ∀ m ∈ ms, ∀ level base, ∀ p ∈ placesOfMember level .draft7 base (Draft.draft7.holding? m.1) m.2,
      p.outside = .ok []) : Standalone (.object ms) := by
  intro level base p hp
  rw [places, List.mem_cons, baseWithin_of_isAnonymous (isAnonymous_of_naming h)] at hp
  rcases hp with rfl | hp
  · exact outside_of_naming h
  · clear h
    induction ms with
    | nil => simp [placesOfMembers] at hp
    | cons m rest ih =>
      rw [placesOfMembers, List.mem_append] at hp
      rcases hp with hp | hp
      · exact hinner m (List.mem_cons_self ..) _ _ p hp
      · exact ih (fun m hm => hinner m (List.mem_cons_of_mem _ hm)) hp

private theorem mem_placesOfEach {level : Nat} {base : Uri} {ps : List (String × Tree)} {p : Place}
    (h : p ∈ placesOfEach level .draft7 base ps) :
    ∃ m ∈ ps, p ∈ places level (Draft.draft7.within m.2) base m.2 := by
  induction ps with
  | nil => simp [placesOfEach] at h
  | cons m rest ih =>
    rw [placesOfEach, List.mem_append] at h
    rcases h with h | h
    · exact ⟨m, List.mem_cons_self .., h⟩
    · obtain ⟨n, hn, hp⟩ := ih h
      exact ⟨n, List.mem_cons_of_mem _ hn, hp⟩

private theorem within_of_isAnonymous {t : Tree} (h : isAnonymous t = true) : Draft.draft7.within t = .draft7 := by
  rw [Draft.within, named_of_isAnonymous h]

theorem standalone_of_object?_eq_none {t : Tree} (h : t.object? = none) : Standalone t := by
  intro level base p hp
  cases t with
  | object => cases h
  | _ => simp [places] at hp

theorem standalone_typed (name : String) : Standalone (.object [("type", .string name)]) := by
  refine standalone_of_members (by simp [naming]) ?_
  rw [List.forall_mem_singleton]
  intro level base p hp
  simp [placesOfMember] at hp

theorem standalone_enum (literals : List Tree) : Standalone (.object [("enum", .array literals)]) := by
  have hholding : Draft.draft7.holding? "enum" = none := by decide
  refine standalone_of_members (by simp [naming]) ?_
  rw [List.forall_mem_singleton]
  intro level base p hp
  simp [hholding, placesOfMember] at hp

theorem standalone_items {ms : List (String × Tree)} (h : Standalone (.object ms))
    (hms : isAnonymous (.object ms) = true) :
    Standalone (.object [("type", .string "array"), ("items", .object ms)]) := by
  have hholding : Draft.draft7.holding? "items" = some .oneOrList := by decide
  refine standalone_of_members (by simp [naming]) ?_
  rw [List.forall_mem_cons, List.forall_mem_singleton]
  refine ⟨fun level base p hp => by simp [placesOfMember] at hp, fun level base p hp => h level base p ?_⟩
  simp only [hholding, placesOfMember, within_of_isAnonymous hms] at hp
  simpa [places] using hp

theorem standalone_properties {ps : List (String × Tree)} (h : ∀ p ∈ ps, Standalone p.2)
    (hps : ∀ p ∈ ps, isAnonymous p.2 = true) (names : List Tree) :
    Standalone (.object [("type", .string "object"), ("properties", .object ps), ("required", .array names)]) := by
  have hproperties : Draft.draft7.holding? "properties" = some .named := by decide
  have hrequired : Draft.draft7.holding? "required" = none := by decide
  refine standalone_of_members (by simp [naming]) ?_
  rw [List.forall_mem_cons, List.forall_mem_cons, List.forall_mem_singleton]
  refine ⟨fun level base p hp => by simp [placesOfMember] at hp, fun level base p hp => ?_,
    fun level base p hp => by simp [hrequired, placesOfMember] at hp⟩
  simp only [hproperties, placesOfMember] at hp
  obtain ⟨m, hm, hp⟩ := mem_placesOfEach (by simpa using hp)
  rw [within_of_isAnonymous (hps m hm)] at hp
  exact h m hm level base p hp

/-! ### Compilation -/

section Compilation

variable {references : References} {t : Tree}

private theorem flatMapM_outside_eq_nil {found : List Place} (h : ∀ p ∈ found, p.outside = .ok []) :
    found.flatMapM Place.outside = .ok [] := by
  induction found with
  | nil => rfl
  | cons p rest ih =>
    rw [List.forall_mem_cons] at h
    rw [List.flatMapM_cons, h.1, ih h.2]
    rfl

theorem gather_of_standalone (h : Standalone t) (uri : Uri) :
    ∃ resources, Resources.gather references uri t = .ok resources := by
  have hwanted : (Resources.survey [⟨Resources.defaultDraft, uri, t⟩]).flatMapM Place.outside = .ok [] := by
    refine flatMapM_outside_eq_nil fun p hp => ?_
    simp only [Resources.survey, List.mem_mergeSort, List.flatMap_cons, List.flatMap_nil, List.append_nil] at hp
    exact h _ _ p hp
  -- the first round wants nothing, so it is the last one
  obtain ⟨rounds, hrounds⟩ : ∃ rounds, Resources.maxRounds = rounds + 1 := ⟨18446744073709551615, rfl⟩
  rw [Resources.gather, hrounds, Resources.collect, hwanted]
  exact ⟨_, rfl⟩

theorem uriOf_of_isAnonymous (h : isAnonymous t = true) : Resources.uriOf t = .ok rootUri := by
  cases t with
  | object ms => simp [Resources.uriOf, Tree.object?, Resources.defaultDraft, ownId?_of_isAnonymous h]
  | _ => rfl

/-- A schema is read in the default draft. -/
theorem draft_rootSetting (uri : Uri) (t : Tree) : (Program.rootSetting uri t).draft = .draft7 := by
  cases t <;> rfl

/-- A schema that stands alone and demands nothing is compiled to its rules. -/
theorem compileLowered_of_standalone (halone : Standalone t) (hname : isAnonymous t = true) (hschema : IsSchema t)
    (hdemands : (read (Program.rootSetting rootUri t) t).node.demands = []) :
    Validator.compileLowered references t = .ok ⟨t, (read (Program.rootSetting rootUri t) t).node, []⟩ := by
  obtain ⟨resources, hgather⟩ : ∃ resources, Resources.gather references rootUri t = .ok resources :=
    gather_of_standalone halone rootUri
  exact Validator.compileLowered_eq_ok_iff_exists.2 ⟨rootUri, resources, uriOf_of_isAnonymous hname, hgather, rfl,
    hschema.violations_eq_nil, Program.build_of_demands_eq_nil hdemands⟩

/-- A schema whose first demand is to be refused is not compiled. -/
theorem compileLowered_error_of_fail (hname : isAnonymous t = true) {why : Refusal} {rest : List Demand}
    (hdemands : (read (Program.rootSetting rootUri t) t).node.demands = .fail why :: rest) :
    ∃ refusal, Validator.compileLowered references t = .error refusal := by
  rw [Validator.compileLowered, uriOf_of_isAnonymous hname]
  simp only [bind, Except.bind]
  cases Resources.gather references rootUri t with
  | error refusal => exact ⟨refusal, rfl⟩
  | ok resources =>
    simp only [Validator.ofResources]
    cases metaProgram.violations t with
    | cons e _ => exact ⟨_, rfl⟩
    | nil =>
      simp only [Program.build, hdemands, Links.settle, bind, Except.bind]
      exact ⟨why, rfl⟩

end Compilation

end YamlSchema.Schema
