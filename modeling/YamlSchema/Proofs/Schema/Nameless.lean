import YamlSchema.Proofs.Schema.Draft7
import YamlSchema.Proofs.Tree.Part
import YamlSchema.Schema.Resources

/-!
# Nameless documents

A document is nameless if no mapping in it gives itself a draft or an identifier.  Going through such a document leaves
the draft and the URI around it as they are: where its schemas stand (`places_eq_map`), what pointers into it lead to
(`walk_of_isNameless`), and what is taken up of it (`enter_of_isNameless`).
-/

namespace YamlSchema.Schema

/-- No mapping in a tree gives itself a draft or an identifier. -/
def IsNameless (t : Tree) : Prop :=
  ∀ members, t.HasPart (.object members) → ∀ m ∈ members, m.1 ∈ ["$schema", "$id"] → m.2.isString = false

/-- Some mapping in a tree refers to something by a text. -/
def Refers (t : Tree) (reference : String) : Prop :=
  ∃ members, t.HasPart (.object members) ∧ ("$ref", .string reference) ∈ members

namespace IsNameless

variable {t : Tree} {members : List (String × Tree)}

theorem part (h : IsNameless t) {part : Tree} (hpart : t.HasPart part) : IsNameless part :=
  fun members hmembers => h members (hpart.trans hmembers)

theorem isAnonymous (h : IsNameless t) : isAnonymous t = true := by
  cases t with
  | object members =>
    rw [Schema.isAnonymous, List.all_eq_true]
    intro key hkey
    rw [Tree.member?, Tree.object?, Option.bind_some]
    cases hget : OrderedMap.get? members key with
    | none => rfl
    | some u =>
      have hu := h members (.refl _) (key, u) (OrderedMap.mem_of_get? hget) hkey
      simpa using hu
  | _ => rfl

theorem within (h : IsNameless t) : Draft.draft7.within t = .draft7 := by
  rw [Draft.within, named_of_isAnonymous h.isAnonymous]

theorem draftOf (h : IsNameless t) : draftOf .draft7 t = .ok .draft7 := by
  rw [Schema.draftOf, named_of_isAnonymous h.isAnonymous]

theorem ownId? (h : IsNameless (.object members)) : Draft.ownId? .draft7 members = none :=
  ownId?_of_isAnonymous h.isAnonymous

theorem baseWithin (h : IsNameless (.object members)) (base : Uri) : baseWithin .draft7 base members = base :=
  baseWithin_of_isAnonymous h.isAnonymous base

theorem entering (h : IsNameless t) {s : Setting} (hs : s.draft = .draft7) : s.entering t = s :=
  entering_of_isAnonymous hs h.isAnonymous

theorem item {items : List Tree} (h : IsNameless (.array items)) (ht : t ∈ items) : IsNameless t :=
  h.part (.item ht (.refl t))

theorem member (h : IsNameless (.object members)) {m : String × Tree} (hm : m ∈ members) : IsNameless m.2 :=
  h.part (.member hm (.refl m.2))

end IsNameless

theorem Refers.of_hasPart {t part : Tree} {reference : String} (h : Refers part reference) (hpart : t.HasPart part) :
    Refers t reference := by
  obtain ⟨members, hmembers, hm⟩ := h
  exact ⟨members, hpart.trans hmembers, hm⟩

/-! ### What a tree is made of -/

section Structure

variable {members : List (String × Tree)} {items : List Tree} {reference : String}

theorem isNameless_object_iff : IsNameless (.object members) ↔
    (∀ m ∈ members, m.1 ∈ ["$schema", "$id"] → m.2.isString = false) ∧ ∀ m ∈ members, IsNameless m.2 := by
  refine ⟨fun h => ⟨h members (.refl _), fun m hm => h.member hm⟩, ?_⟩
  rintro ⟨hkeys, hinner⟩ inner hpart
  cases hpart with
  | refl => exact hkeys
  | member hm hpart => exact hinner _ hm inner hpart

theorem isNameless_array_iff : IsNameless (.array items) ↔ ∀ t ∈ items, IsNameless t := by
  refine ⟨fun h t ht => h.item ht, fun h inner hpart => ?_⟩
  cases hpart with
  | item ht hpart => exact h _ ht inner hpart

theorem isNameless_string (s : String) : IsNameless (.string s) := by
  intro inner hpart
  cases hpart

theorem refers_object_iff : Refers (.object members) reference ↔
    ("$ref", .string reference) ∈ members ∨ ∃ m ∈ members, Refers m.2 reference := by
  constructor
  · rintro ⟨inner, hpart, hm⟩
    cases hpart with
    | refl => exact .inl hm
    | member hmem hpart => exact .inr ⟨_, hmem, inner, hpart, hm⟩
  · rintro (hm | ⟨m, hmem, h⟩)
    · exact ⟨members, .refl _, hm⟩
    · exact h.of_hasPart (.member hmem (.refl _))

theorem refers_array_iff : Refers (.array items) reference ↔ ∃ t ∈ items, Refers t reference := by
  constructor
  · rintro ⟨inner, hpart, hm⟩
    cases hpart with
    | item ht hpart => exact ⟨_, ht, inner, hpart, hm⟩
  · rintro ⟨t, ht, h⟩
    exact h.of_hasPart (.item ht (.refl _))

theorem not_refers_string (s : String) : ¬ Refers (.string s) reference := by
  rintro ⟨inner, hpart, -⟩
  cases hpart

end Structure

/-! ### Places -/

/-- The same place in a document with another URI, read by Draft 7. -/
def Place.under (base : Uri) (p : Place) : Place := ⟨p.level, .draft7, base, p.members⟩

section Places

variable (base base' : Uri)

mutual

/-- The places of a nameless tree do not depend on the URI around it, and they set none. -/
theorem places_eq_map (level : Nat) : ∀ t : Tree, IsNameless t →
    places level .draft7 base t = (places level .draft7 base' t).map (Place.under base)
  | .object members, h => by
    rw [places, places, List.map_cons, h.baseWithin, h.baseWithin,
      placesOfMembers_eq_map (level + 1) members fun m hm => h.member hm]
    rfl
  | .null, _ | .bool _, _ | .number _, _ | .string _, _ | .array _, _ => by simp [places]

theorem placesOfMembers_eq_map (level : Nat) : ∀ members : List (String × Tree), (∀ m ∈ members, IsNameless m.2) →
    placesOfMembers level .draft7 base members =
      (placesOfMembers level .draft7 base' members).map (Place.under base)
  | [], _ => by simp [placesOfMembers]
  | (key, t) :: rest, h => by
    rw [List.forall_mem_cons] at h
    rw [placesOfMembers, placesOfMembers, List.map_append, placesOfMember_eq_map level _ t h.1,
      placesOfMembers_eq_map level rest h.2]

theorem placesOfMember_eq_map (level : Nat) (holding : Option Draft.Holding) : ∀ t : Tree, IsNameless t →
    placesOfMember level .draft7 base holding t =
      (placesOfMember level .draft7 base' holding t).map (Place.under base)
  | .array items, h => by
    rw [placesOfMember, placesOfMember]
    split
    · exact placesOfItems_eq_map level items fun t ht => h.item ht
    · rfl
  | .object members, h => by
    rw [placesOfMember, placesOfMember]
    split
    · rw [h.within]
      dsimp only
      rw [h.baseWithin, h.baseWithin, List.map_cons,
        placesOfMembers_eq_map (level + 1) members fun m hm => h.member hm]
      rfl
    · split
      · exact placesOfEach_eq_map level members fun m hm => h.member hm
      · rfl
  | .null, _ | .bool _, _ | .number _, _ | .string _, _ => by simp [placesOfMember]

theorem placesOfItems_eq_map (level : Nat) : ∀ items : List Tree, (∀ t ∈ items, IsNameless t) →
    placesOfItems level .draft7 base items = (placesOfItems level .draft7 base' items).map (Place.under base)
  | [], _ => by simp [placesOfItems]
  | t :: rest, h => by
    rw [List.forall_mem_cons] at h
    rw [placesOfItems, placesOfItems, List.map_append, h.1.within, places_eq_map level t h.1,
      placesOfItems_eq_map level rest h.2]

theorem placesOfEach_eq_map (level : Nat) : ∀ members : List (String × Tree), (∀ m ∈ members, IsNameless m.2) →
    placesOfEach level .draft7 base members = (placesOfEach level .draft7 base' members).map (Place.under base)
  | [], _ => by simp [placesOfEach]
  | (key, t) :: rest, h => by
    rw [List.forall_mem_cons] at h
    rw [placesOfEach, placesOfEach, List.map_append, h.1.within, places_eq_map level t h.1,
      placesOfEach_eq_map level rest h.2]

end

end Places

mutual

theorem hasPart_of_mem_places {p : Place} (level : Nat) (draft : Draft) (base : Uri) : ∀ t : Tree,
    p ∈ places level draft base t → t.HasPart (.object p.members)
  | .object members, hp => by
    rw [places, List.mem_cons] at hp
    rcases hp with rfl | hp
    · exact .refl _
    · obtain ⟨m, hm, hpart⟩ := hasPart_of_mem_placesOfMembers (level + 1) draft _ members hp
      exact .member hm hpart
  | .null, hp | .bool _, hp | .number _, hp | .string _, hp | .array _, hp => by simp [places] at hp

theorem hasPart_of_mem_placesOfMembers {p : Place} (level : Nat) (draft : Draft) (base : Uri) :
    ∀ members : List (String × Tree), p ∈ placesOfMembers level draft base members →
    ∃ m ∈ members, m.2.HasPart (.object p.members)
  | [], hp => by simp [placesOfMembers] at hp
  | (key, t) :: rest, hp => by
    rw [placesOfMembers, List.mem_append] at hp
    rcases hp with hp | hp
    · exact ⟨(key, t), List.mem_cons_self .., hasPart_of_mem_placesOfMember level draft base _ t hp⟩
    · obtain ⟨m, hm, hpart⟩ := hasPart_of_mem_placesOfMembers level draft base rest hp
      exact ⟨m, List.mem_cons_of_mem _ hm, hpart⟩

theorem hasPart_of_mem_placesOfMember {p : Place} (level : Nat) (draft : Draft) (base : Uri)
    (holding : Option Draft.Holding) : ∀ t : Tree, p ∈ placesOfMember level draft base holding t →
    t.HasPart (.object p.members)
  | .array items, hp => by
    rw [placesOfMember] at hp
    split at hp
    · obtain ⟨t, ht, hpart⟩ := hasPart_of_mem_placesOfItems level draft base items hp
      exact .item ht hpart
    · cases hp
  | .object members, hp => by
    rw [placesOfMember] at hp
    split at hp
    · dsimp only at hp
      rw [List.mem_cons] at hp
      rcases hp with rfl | hp
      · exact .refl _
      · obtain ⟨m, hm, hpart⟩ := hasPart_of_mem_placesOfMembers (level + 1) _ _ members hp
        exact .member hm hpart
    · split at hp
      · obtain ⟨m, hm, hpart⟩ := hasPart_of_mem_placesOfEach level draft base members hp
        exact .member hm hpart
      · cases hp
  | .null, hp | .bool _, hp | .number _, hp | .string _, hp => by simp [placesOfMember] at hp

theorem hasPart_of_mem_placesOfItems {p : Place} (level : Nat) (draft : Draft) (base : Uri) : ∀ items : List Tree,
    p ∈ placesOfItems level draft base items → ∃ t ∈ items, t.HasPart (.object p.members)
  | [], hp => by simp [placesOfItems] at hp
  | t :: rest, hp => by
    rw [placesOfItems, List.mem_append] at hp
    rcases hp with hp | hp
    · exact ⟨t, List.mem_cons_self .., hasPart_of_mem_places level _ base t hp⟩
    · obtain ⟨u, hu, hpart⟩ := hasPart_of_mem_placesOfItems level draft base rest hp
      exact ⟨u, List.mem_cons_of_mem _ hu, hpart⟩

theorem hasPart_of_mem_placesOfEach {p : Place} (level : Nat) (draft : Draft) (base : Uri) :
    ∀ members : List (String × Tree), p ∈ placesOfEach level draft base members →
    ∃ m ∈ members, m.2.HasPart (.object p.members)
  | [], hp => by simp [placesOfEach] at hp
  | (key, t) :: rest, hp => by
    rw [placesOfEach, List.mem_append] at hp
    rcases hp with hp | hp
    · exact ⟨(key, t), List.mem_cons_self .., hasPart_of_mem_places level _ base t hp⟩
    · obtain ⟨m, hm, hpart⟩ := hasPart_of_mem_placesOfEach level draft base rest hp
      exact ⟨m, List.mem_cons_of_mem _ hm, hpart⟩

end

/-- Every place of a nameless tree has the draft and the URI around the tree. -/
theorem under_of_mem_places {level : Nat} {base : Uri} {t : Tree} (h : IsNameless t) {p : Place}
    (hp : p ∈ places level .draft7 base t) : p.under base = p := by
  rw [places_eq_map base base level t h, List.mem_map] at hp
  obtain ⟨q, -, rfl⟩ := hp
  rfl

/-! ### What places name -/

namespace Resources

/-- A nameless mapping adds no document and no anchor. -/
theorem enter_of_isNameless (r : Resources) {p : Place} (hdraft : p.draft = .draft7)
    (h : IsNameless (.object p.members)) : r.enter p = r := by
  have hanchors : Draft.anchors .draft7 p.members = [] := by
    have hid : (OrderedMap.get? p.members "$id").bind Tree.string? = none := by
      cases hget : OrderedMap.get? p.members "$id" with
      | none => rfl
      | some t =>
        have ht := h p.members (.refl _) ("$id", t) (OrderedMap.mem_of_get? hget) (by simp)
        cases t with
        | string => cases ht
        | _ => rfl
    simp [Draft.anchors, Draft.idKeyword, hid]
  obtain ⟨documents, anchors⟩ := r
  simp [enter, hdraft, h.ownId?, hanchors]

/-! ### Pointers -/

theorem baseWithin_of_isNameless {t : Tree} (h : IsNameless t) (base : Uri) :
    baseWithin .draft7 base (t.object?.getD []) = base := by
  cases t with
  | object members => exact h.baseWithin base
  | _ => rfl

/-- The first token of a pointer leads nowhere, or to a part from which the rest goes on; the URI only changes to that
of the part. -/
theorem walk_cons_cases (written : String) (t : Tree) (token : List Char) (rest : List (List Char)) :
    (∃ why, ∀ draft base path, walk written draft base path t (token :: rest) = .error why) ∨
      ∃ child, t.HasPart child ∧ ∀ draft base path, ∃ inner path',
        (inner = base ∨ inner = baseWithin draft base (child.object?.getD [])) ∧
        walk written draft base path t (token :: rest) = walk written draft inner path' child rest := by
  cases t with
  | array items =>
    cases hword : word? token with
    | none => exact .inl ⟨_, fun draft base path => by rw [walk, hword]; rfl⟩
    | some i =>
      cases hitem : items[i]? with
      | none => exact .inl ⟨_, fun draft base path => by rw [walk, hword]; dsimp only; rw [hitem]; rfl⟩
      | some child =>
        refine .inr ⟨child, .of_getElem? hitem, fun draft base path => ?_⟩
        rw [walk, hword]
        dsimp only
        rw [hitem]
        refine ⟨_, _, ?_, rfl⟩
        split
        · exact .inr rfl
        · exact .inl rfl
  | _ =>
    cases hchild : Tree.child? _ (Step.unescapeChars token) with
    | none => exact .inl ⟨_, fun draft base path => by rw [walk, hchild]; rfl; simp⟩
    | some child =>
      refine .inr ⟨child, .of_child? hchild, fun draft base path => ?_⟩
      rw [walk, hchild]
      · refine ⟨_, _, ?_, rfl⟩
        split
        · exact .inr rfl
        · exact .inl rfl
      · simp

/-- A pointer leads to a part. -/
theorem hasPart_of_walk {written : String} {draft : Draft} {tokens : List (List Char)} :
    ∀ {base : Uri} {path : List String} {t : Tree} {found : Uri × Tree},
      walk written draft base path t tokens = .ok found → t.HasPart found.2 := by
  induction tokens with
  | nil =>
    intro base path t found h
    cases h
    exact .refl t
  | cons token rest ih =>
    intro base path t found h
    rcases walk_cons_cases written t token rest with ⟨why, hwhy⟩ | ⟨child, hpart, hstep⟩
    · rw [hwhy] at h
      cases h
    · obtain ⟨inner, path', -, heq⟩ := hstep draft base path
      rw [heq] at h
      exact hpart.trans (ih h)

/-- A pointer into a nameless tree leads to a part of it, if it leads anywhere, and it changes no URI. -/
theorem walk_of_isNameless (written : String) (tokens : List (List Char)) :
    ∀ t : Tree, IsNameless t →
      (∃ why, ∀ base path, walk written .draft7 base path t tokens = .error why) ∨
        ∃ part, t.HasPart part ∧ ∀ base path, walk written .draft7 base path t tokens = .ok (base, part) := by
  induction tokens with
  | nil => exact fun t _ => .inr ⟨t, .refl t, fun base path => by rw [walk]⟩
  | cons token rest ih =>
    intro t h
    rcases walk_cons_cases written t token rest with ⟨why, hwhy⟩ | ⟨child, hpart, hstep⟩
    · exact .inl ⟨why, hwhy .draft7⟩
    · -- below a child nothing has a name either, so the URI stays
      have hbelow (base : Uri) (path : List String) : ∃ path', walk written .draft7 base path t (token :: rest) =
          walk written .draft7 base path' child rest := by
        obtain ⟨inner, path', rfl | rfl, heq⟩ := hstep .draft7 base path
        · exact ⟨path', heq⟩
        · rw [baseWithin_of_isNameless (h.part hpart)] at heq
          exact ⟨path', heq⟩
      rcases ih child (h.part hpart) with ⟨why, hwhy⟩ | ⟨part, hrest, hok⟩
      · refine .inl ⟨why, fun base path => ?_⟩
        obtain ⟨path', hpath⟩ := hbelow base path
        rw [hpath, hwhy]
      · refine .inr ⟨part, hpart.trans hrest, fun base path => ?_⟩
        obtain ⟨path', hpath⟩ := hbelow base path
        rw [hpath, hok]

end Resources

end YamlSchema.Schema
