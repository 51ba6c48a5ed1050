import YamlSchema.Proofs.Schema.Relocation

/-!
# What the places of a nameless document name

A place of a nameless document names what its references mean, and those of the parts of it that they point to
(`exists_reference_of_mem_outside`).  From another URI it names the same, apart from the document itself
(`outside_relocate`).
-/

namespace YamlSchema.Schema

/-! ### One place -/

theorem Place.outside_of_isNameless {p : Place} (hdraft : p.draft = .draft7) (h : IsNameless (.object p.members)) :
    p.outside = Schema.outside (Tree.object p.members).depth p.base p.members := by
  rw [Place.outside, hdraft, h.draftOf, h.ownId?]
  split <;> rfl

section Outside

variable {base : Uri} {members : OrderedMap Tree} {named : List Uri}

/-- What a part that a reference points to names, as long as there is fuel. -/
def within (fuel : Nat) (base : Uri) (inner : OrderedMap Tree) : Except Refusal (List Uri) :=
  match fuel with
  | 0 => .ok []
  | fuel + 1 => outside fuel base inner

theorem outside_eq (fuel : Nat) (base : Uri) (members : OrderedMap Tree) : outside fuel base members =
    if startsWith base "urn:" then .ok []
    else (members.filter fun m => m.1 = "$ref" || m.1 = "$schema").flatMapM (namedBy base members (within fuel base)) := by
  cases fuel <;> rw [outside] <;> rfl

/-- In a nameless mapping only references name documents. -/
private theorem refers_of_mem_naming (h : IsNameless (.object members)) {m : String × Tree}
    (hm : m ∈ members.filter fun m => m.1 = "$ref" || m.1 = "$schema") {reference : String}
    (htext : m.2 = .string reference) : Refers (.object members) reference := by
  obtain ⟨key, t⟩ := m
  rw [List.mem_filter, Bool.or_eq_true, decide_eq_true_eq, decide_eq_true_eq] at hm
  obtain ⟨hmem, hkey⟩ := hm
  dsimp only at htext hkey
  subst htext
  rcases hkey with rfl | rfl
  · exact ⟨members, .refl _, hmem⟩
  · have htext := h members (.refl _) _ hmem (by simp)
    cases htext

/-- One step into what a mapping names: `follow` stands for what its parts name. -/
private theorem namedBy_cases {follow : OrderedMap Tree → Except Refusal (List Uri)} {m : String × Tree}
    (h : namedBy base members follow m = .ok named) : named = [] ∨
      (∃ inner, (Tree.object members).HasPart (.object inner) ∧ follow inner = .ok named) ∨
      ∃ reference uri, m.2 = .string reference ∧ startsWith reference "#" = false ∧
        Uri.resolve base reference = .ok uri ∧ named = [uri] := by
  unfold namedBy at h
  split at h
  · rename_i reference htext
    split at h
    · cases h; exact .inl rfl
    · split at h
      · dsimp only at h
        split at h
        · rename_i inner hpointer
          exact .inr (.inl ⟨inner, .of_pointer? hpointer, h⟩)
        · cases h; exact .inl rfl
      · rename_i hhash
        split at h
        · rename_i uri huri
          cases h
          rw [Bool.not_eq_true] at hhash
          exact .inr (.inr ⟨reference, uri, htext, hhash, huri, rfl⟩)
        · cases h
  · cases h; exact .inl rfl

/-- Whatever is named in a nameless mapping is what a reference of it means, one that does not begin with a fragment. -/
def NamesReferences (base : Uri) (naming : OrderedMap Tree → Except Refusal (List Uri)) : Prop :=
  ∀ {members : OrderedMap Tree} {named : List Uri}, IsNameless (.object members) → naming members = .ok named →
    ∀ uri ∈ named, ∃ reference, Refers (.object members) reference ∧ startsWith reference "#" = false ∧
      Uri.resolve base reference = .ok uri

private theorem NamesReferences.outside {fuel : Nat} (hwithin : NamesReferences base (within fuel base)) :
    NamesReferences base (outside fuel base) := by
  intro members named h hnamed uri huri
  rw [outside_eq] at hnamed
  split at hnamed
  · cases hnamed
    cases huri
  · obtain ⟨m, hm, part, hpart, huri⟩ := mem_of_flatMapM hnamed huri
    rcases namedBy_cases hpart with rfl | ⟨inner, hinner, hok⟩ | ⟨reference, other, htext, hhash, hresolve, rfl⟩
    · cases huri
    · obtain ⟨reference, hrefers, hmeans⟩ := hwithin (h.part hinner) hok uri huri
      exact ⟨reference, hrefers.of_hasPart hinner, hmeans⟩
    · rw [List.mem_singleton.1 huri]
      exact ⟨reference, refers_of_mem_naming h hm htext, hhash, hresolve⟩

theorem exists_reference_of_mem_outside (fuel : Nat) : NamesReferences base (outside fuel base) := by
  induction fuel with
  | zero =>
    refine NamesReferences.outside fun _ hok uri huri => ?_
    cases hok
    cases huri
  | succ fuel ih => exact NamesReferences.outside ih

/-- A settled reference means the same from the relocated document, or the document itself. -/
theorem resolve_relocate_of_isSettled {name : String} (hname : IsWord name) {reference : String}
    (h : IsSettled base reference) (hhash : startsWith reference "#" = false) {uri : Uri}
    (huri : Uri.resolve base reference = .ok uri) :
    Uri.resolve (relocate (documentUri name) base) reference = .ok (relocate (documentUri name) uri) := by
  rcases h with h | ⟨rfl, rfl⟩ | helsewhere
  · rw [hhash] at h
    cases h
  · rw [resolve_rootUri_empty] at huri
    cases huri
    rw [relocate_rootUri]
    exact resolve_documentUri_empty hname
  · have hmeans := helsewhere reference (by simp)
    rw [resolve_relocate hname hmeans, huri, relocate_of_ne (ne_rootUri_of_isElsewhere (hmeans uri huri))]

/-- A settled reference that does not begin with a fragment means the compiled document or goes elsewhere. -/
theorem rootUri_or_isElsewhere {reference : String} (h : IsSettled base reference)
    (hhash : startsWith reference "#" = false) {uri : Uri} (huri : Uri.resolve base reference = .ok uri) :
    uri = rootUri ∨ IsElsewhere uri := by
  rcases h with h | ⟨rfl, rfl⟩ | helsewhere
  · rw [hhash] at h
    cases h
  · rw [resolve_rootUri_empty] at huri
    cases huri
    exact .inl rfl
  · exact .inr (helsewhere reference (by simp) uri huri)

private theorem namedBy_relocate {name : String} (hname : IsWord name) (h : IsNameless (.object members))
    (hsettled : ∀ w, Refers (.object members) w → IsSettled base w)
    {follow follow' : OrderedMap Tree → Except Refusal (List Uri)}
    (hfollow : ∀ inner part, (Tree.object members).HasPart (.object inner) → follow inner = .ok part →
      follow' inner = .ok (part.map (relocate (documentUri name))))
    {m : String × Tree} (hm : m ∈ members.filter fun m => m.1 = "$ref" || m.1 = "$schema")
    (hnamed : namedBy base members follow m = .ok named) :
    namedBy (relocate (documentUri name) base) members follow' m = .ok (named.map (relocate (documentUri name))) := by
  unfold namedBy at hnamed ⊢
  split at hnamed
  · rename_i reference htext
    by_cases hpublished : namesPublished reference = true
    · rw [if_pos hpublished] at hnamed ⊢
      cases hnamed; rfl
    · rw [if_neg hpublished] at hnamed ⊢
      by_cases hhash : startsWith reference "#" = true
      · rw [if_pos hhash] at hnamed ⊢
        dsimp only at hnamed ⊢
        split at hnamed
        · rename_i inner hpointer
          exact hfollow inner named (.of_pointer? hpointer) hnamed
        · cases hnamed; rfl
      · rw [if_neg hhash] at hnamed ⊢
        rw [Bool.not_eq_true] at hhash
        split at hnamed
        · rename_i uri huri
          cases hnamed
          have hrefers := refers_of_mem_naming h hm htext
          rw [resolve_relocate_of_isSettled hname (hsettled reference hrefers) hhash huri]
          rfl
        · cases hnamed
  · cases hnamed; rfl

theorem isUrn_relocate (name : String) (base : Uri) :
    startsWith (relocate (documentUri name) base) "urn:" = startsWith base "urn:" := by
  unfold relocate
  split
  · rename_i hroot
    rw [hroot, startsWith, documentUri, String.toList_append]
    rfl
  · rfl

/-- From the relocated document a nameless mapping names the same, with the document itself relocated. -/
def RelocatesNames (name : String) (base : Uri) (naming relocated : OrderedMap Tree → Except Refusal (List Uri)) :
    Prop :=
  ∀ {members : OrderedMap Tree} {named : List Uri}, IsNameless (.object members) →
    (∀ w, Refers (.object members) w → IsSettled base w) → naming members = .ok named →
    relocated members = .ok (named.map (relocate (documentUri name)))

private theorem RelocatesNames.outside {name : String} (hname : IsWord name) {fuel : Nat}
    (hwithin : RelocatesNames name base (within fuel base) (within fuel (relocate (documentUri name) base))) :
    RelocatesNames name base (outside fuel base) (outside fuel (relocate (documentUri name) base)) := by
  intro members named h hsettled hnamed
  rw [outside_eq] at hnamed ⊢
  rw [isUrn_relocate]
  by_cases hbase : startsWith base "urn:" = true
  · rw [if_pos hbase] at hnamed ⊢
    cases hnamed; rfl
  · rw [if_neg hbase] at hnamed ⊢
    refine flatMapM_map hnamed fun m hm part hpart => ?_
    refine namedBy_relocate hname h hsettled (fun inner part hinner hok => ?_) hm hpart
    exact hwithin (h.part hinner) (fun w hw => hsettled w (hw.of_hasPart hinner)) hok

theorem outside_relocate {name : String} (hname : IsWord name) {fuel : Nat} :
    RelocatesNames name base (outside fuel base) (outside fuel (relocate (documentUri name) base)) := by
  induction fuel with
  | zero =>
    refine RelocatesNames.outside hname fun _ _ hok => ?_
    cases hok; rfl
  | succ fuel ih => exact RelocatesNames.outside hname ih

end Outside

end YamlSchema.Schema
