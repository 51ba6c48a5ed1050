/-!
# Maps that keep their order

An `OrderedMap` is the list of its entries in the order of their first insertion; keys are strings.  `insert` gives a
present key a new value in its old place, `swapErase` fills the place of the erased entry with the last one, and
`get?` after either is what the view as a function says.
-/

namespace YamlSchema

abbrev OrderedMap (α : Type) := List (String × α)

namespace OrderedMap

variable {α β : Type}

def get? (m : OrderedMap α) (key : String) : Option α :=
  match m with
  | [] => none
  | (k, v) :: rest => if k = key then some v else get? rest key

def contains (m : OrderedMap α) (key : String) : Bool := (get? m key).isSome

def keys (m : OrderedMap α) : List String := m.map (fun entry => entry.1)

/-- A present key keeps its place and takes the new value; a new key goes to the end. -/
def insert (m : OrderedMap α) (key : String) (value : α) : OrderedMap α :=
  match m with
  | [] => [(key, value)]
  | (k, v) :: rest => if k = key then (k, value) :: rest else (k, v) :: insert rest key value

/-- Entries inserted one after the other. -/
def ofEntries (entries : List (String × α)) : OrderedMap α :=
  entries.foldl (fun m entry => insert m entry.1 entry.2) []

/-- Removes the entry of a key, the others keep their order. -/
def erase (m : OrderedMap α) (key : String) : OrderedMap α := m.filter fun entry => entry.1 ≠ key

/-- Removes the entry of a key; the last entry takes its place. -/
def swapErase (m : OrderedMap α) (key : String) : OrderedMap α :=
  match m with
  | [] => []
  | (k, v) :: rest =>
    if k = key then
      match rest.getLast? with
      | none => []
      | some last => last :: rest.dropLast
    else (k, v) :: swapErase rest key

/-- Keeps the entries of some keys. -/
def retain (m : OrderedMap α) (kept : List String) : OrderedMap α := m.filter fun entry => entry.1 ∈ kept

/-- The entries in the order of their keys, by code point. -/
def sorted (m : OrderedMap α) : List (String × α) := m.mergeSort fun a b => !decide (b.1 < a.1)

def mapValues (f : α → β) (m : OrderedMap α) : OrderedMap β := m.map fun entry => (entry.1, f entry.2)

/-! ### What each operation does to the view -/

@[simp] theorem get?_nil (key : String) : get? ([] : OrderedMap α) key = none := rfl

@[simp] theorem get?_insert_self (m : OrderedMap α) (key : String) (value : α) :
    get? (insert m key value) key = some value := by
  induction m with
  | nil => simp [insert, get?]
  | cons entry rest ih =>
    obtain ⟨k, v⟩ := entry
    by_cases h : k = key <;> simp [insert, get?, h, ih]

theorem get?_insert_of_ne (m : OrderedMap α) {key other : String} (value : α) (h : other ≠ key) :
    get? (insert m key value) other = get? m other := by
  induction m with
  | nil => simp [insert, get?, Ne.symm h]
  | cons entry rest ih =>
    obtain ⟨k, v⟩ := entry
    by_cases hk : k = key
    · subst hk; simp [insert, get?, Ne.symm h]
    · simp only [insert, hk, if_false, get?, ih]

theorem get?_mapValues (f : α → β) (m : OrderedMap α) (key : String) :
    get? (mapValues f m) key = (get? m key).map f := by
  induction m with
  | nil => rfl
  | cons entry rest ih =>
    obtain ⟨k, v⟩ := entry
    simp only [mapValues, List.map_cons, get?] at ih ⊢
    by_cases hk : k = key <;> simp [hk, ih]

theorem get?_eq_none_iff {m : OrderedMap α} {key : String} : get? m key = none ↔ key ∉ keys m := by
  induction m with
  | nil => simp [keys]
  | cons entry rest ih =>
    obtain ⟨k, v⟩ := entry
    by_cases hk : k = key
    · simp [get?, keys, hk]
    · have hk' : ¬ key = k := fun h => hk h.symm
      simpa [get?, keys, hk, hk'] using ih

theorem contains_iff {m : OrderedMap α} {key : String} : contains m key = true ↔ key ∈ keys m := by
  rw [contains, Option.isSome_iff_ne_none, ne_eq, get?_eq_none_iff, Decidable.not_not]

theorem mem_of_get? {m : OrderedMap α} {key : String} {value : α} (h : get? m key = some value) :
    (key, value) ∈ m := by
  induction m with
  | nil => simp at h
  | cons entry rest ih =>
    obtain ⟨k, v⟩ := entry
    by_cases hk : k = key
    · simp only [get?, hk, if_true, Option.some.injEq] at h
      simp [hk, h]
    · simp only [get?, hk, if_false] at h
      exact List.mem_cons_of_mem _ (ih h)

theorem get?_of_mem {m : OrderedMap α} (hm : (keys m).Nodup) {key : String} {value : α} (h : (key, value) ∈ m) :
    get? m key = some value := by
  induction m with
  | nil => cases h
  | cons entry rest ih =>
    obtain ⟨k, v⟩ := entry
    simp only [keys, List.map_cons, List.nodup_cons] at hm
    rcases List.mem_cons.1 h with h | h
    · cases h; simp [get?]
    · have hk : ¬ k = key := fun e => hm.1 (List.mem_map.2 ⟨_, h, e.symm⟩)
      simp only [get?, hk, if_false]
      exact ih hm.2 h

/-- The order of the entries does not matter where no key comes twice. -/
theorem get?_perm {m n : OrderedMap α} (hm : (keys m).Nodup) (h : m.Perm n) (key : String) :
    get? m key = get? n key := by
  have hkeys : (keys m).Perm (keys n) := h.map _
  cases hn : get? n key with
  | none =>
    rw [get?_eq_none_iff] at hn ⊢
    exact fun hmem => hn (hkeys.mem_iff.1 hmem)
  | some value => exact get?_of_mem hm (h.mem_iff.2 (mem_of_get? hn))

theorem get?_append (m n : OrderedMap α) (key : String) : get? (m ++ n) key = (get? m key).or (get? n key) := by
  induction m with
  | nil => rfl
  | cons entry rest ih =>
    obtain ⟨k, v⟩ := entry
    by_cases hk : k = key <;> simp [get?, hk, ih]

/-- A new key goes to the end. -/
theorem insert_of_get?_eq_none {m : OrderedMap α} {key : String} (value : α) (h : get? m key = none) :
    insert m key value = m ++ [(key, value)] := by
  induction m with
  | nil => rfl
  | cons entry rest ih =>
    obtain ⟨k, v⟩ := entry
    by_cases hk : k = key
    · simp [get?, hk] at h
    · simp only [get?, hk, if_false] at h
      simp [insert, hk, ih h]

theorem mem_keys_insert {m : OrderedMap α} {key other : String} {value : α} :
    other ∈ keys (insert m key value) ↔ other = key ∨ other ∈ keys m := by
  by_cases h : other = key
  · subst h; simp [← contains_iff, contains]
  · simp [← contains_iff, contains, get?_insert_of_ne m value h, h]

theorem nodup_keys_insert {m : OrderedMap α} (hm : (keys m).Nodup) (key : String) (value : α) :
    (keys (insert m key value)).Nodup := by
  induction m with
  | nil => simp [insert, keys]
  | cons entry rest ih =>
    obtain ⟨k, v⟩ := entry
    simp only [keys, List.map_cons, List.nodup_cons] at hm
    by_cases hk : k = key
    · subst hk; simpa [insert, keys] using hm
    · have hmem : k ∉ keys (insert rest key value) := by
        rw [mem_keys_insert]; exact fun h => h.elim hk hm.1
      simp only [insert, hk, if_false]
      exact List.nodup_cons.2 ⟨hmem, ih hm.2⟩

/-- Entries with different keys stay as they are. -/
theorem ofEntries_of_nodup {entries : List (String × α)} (h : (keys entries).Nodup) : ofEntries entries = entries := by
  have hfold : ∀ {m rest : List (String × α)}, (keys (m ++ rest)).Nodup →
      rest.foldl (fun m entry => insert m entry.1 entry.2) m = m ++ rest := by
    intro m rest
    induction rest generalizing m with
    | nil => simp
    | cons entry rest ih =>
      intro hnodup
      have hnew : get? m entry.1 = none := by
        rw [get?_eq_none_iff]
        rw [keys, List.map_append, List.nodup_append] at hnodup
        exact fun hmem => hnodup.2.2 _ hmem _ (by simp) rfl
      rw [List.foldl_cons, insert_of_get?_eq_none _ hnew, ih (by simpa using hnodup)]
      simp
  exact hfold (m := []) h

theorem nodup_keys_ofEntries (entries : List (String × α)) : (keys (ofEntries entries)).Nodup := by
  have hfold : ∀ {m rest : List (String × α)}, (keys m).Nodup →
      (keys (rest.foldl (fun m entry => insert m entry.1 entry.2) m)).Nodup := by
    intro m rest
    induction rest generalizing m with
    | nil => exact id
    | cons entry rest ih => exact fun hm => ih (nodup_keys_insert hm _ _)
  exact hfold (m := []) .nil

theorem mem_or_eq_of_mem_insert {m : OrderedMap α} {key : String} {value : α} {entry : String × α}
    (h : entry ∈ insert m key value) : entry ∈ m ∨ entry = (key, value) := by
  induction m with
  | nil => exact .inr (List.mem_singleton.1 h)
  | cons first rest ih =>
    obtain ⟨k, v⟩ := first
    rw [insert] at h
    split at h
    · rename_i hk
      rcases List.mem_cons.1 h with rfl | h
      · exact .inr (by rw [hk])
      · exact .inl (List.mem_cons_of_mem _ h)
    · rcases List.mem_cons.1 h with rfl | h
      · exact .inl List.mem_cons_self
      · exact (ih h).imp_left (List.mem_cons_of_mem _)

theorem mem_of_mem_ofEntries {entries : List (String × α)} {entry : String × α} (h : entry ∈ ofEntries entries) :
    entry ∈ entries := by
  have hfold : ∀ {m rest : List (String × α)}, entry ∈ rest.foldl (fun m entry => insert m entry.1 entry.2) m →
      entry ∈ m ∨ entry ∈ rest := by
    intro m rest
    induction rest generalizing m with
    | nil => exact .inl
    | cons first rest ih =>
      intro h
      rcases ih h with h | h
      · rcases mem_or_eq_of_mem_insert h with h | rfl
        · exact .inl h
        · exact .inr List.mem_cons_self
      · exact .inr (List.mem_cons_of_mem _ h)
  exact (hfold (m := []) h).resolve_left List.not_mem_nil

theorem get?_filter_key (p : String → Bool) (m : OrderedMap α) (key : String) :
    get? (m.filter fun entry => p entry.1) key = if p key then get? m key else none := by
  induction m with
  | nil => simp
  | cons entry rest ih =>
    obtain ⟨k, v⟩ := entry
    by_cases hk : k = key
    · subst hk; by_cases hp : p k <;> simp [hp, get?, ih]
    · by_cases hp : p k <;> simp [hp, hk, get?, ih]

theorem get?_erase (m : OrderedMap α) (key other : String) :
    get? (erase m key) other = if other = key then none else get? m other := by
  have h := get?_filter_key (fun k => decide (k ≠ key)) m other
  by_cases hk : other = key <;> simpa [erase, hk] using h

theorem get?_retain (m : OrderedMap α) (kept : List String) (key : String) :
    get? (retain m kept) key = if key ∈ kept then get? m key else none := by
  have h := get?_filter_key (fun k => decide (k ∈ kept)) m key
  by_cases hk : key ∈ kept <;> simpa [retain, hk] using h

theorem nodup_keys_filter {m : OrderedMap α} (hm : (keys m).Nodup) (p : String × α → Bool) :
    (keys (m.filter p)).Nodup := hm.sublist (List.filter_sublist.map _)

end OrderedMap

end YamlSchema
