import YamlSchema.Proofs.Schema.Lowering

/-!
# Members that are changed or erased

`mapWithKey` changes each member by its key, `swapErase` erases one and puts the last one in its place.  They commute
(`swapErase_mapWithKey`), and where no key comes twice `get?` tells what is left (`get?_swapErase`).  The keys stay in
their order unless two or more stand behind the erased one (`sublist_swapErase_iff`).
-/

namespace YamlSchema.OrderedMap

variable {α β γ : Type}

/-! ### Changing -/

/-- Gives every key a value that depends on it and on the old one. -/
def mapWithKey (f : String → α → β) (m : OrderedMap α) : OrderedMap β := m.map fun e => (e.1, f e.1 e.2)

theorem keys_mapWithKey (f : String → α → β) (m : OrderedMap α) : keys (mapWithKey f m) = keys m := by
  rw [keys, mapWithKey, List.map_map]
  rfl

theorem get?_mapWithKey (f : String → α → β) (m : OrderedMap α) (key : String) :
    get? (mapWithKey f m) key = (get? m key).map (f key) := by
  induction m with
  | nil => rfl
  | cons e rest ih =>
    by_cases hkey : e.1 = key
    · simp [mapWithKey, get?, hkey]
    · simpa [mapWithKey, get?, hkey] using ih

theorem mapWithKey_mapWithKey (f : String → β → γ) (g : String → α → β) (m : OrderedMap α) :
    mapWithKey f (mapWithKey g m) = mapWithKey (fun key => f key ∘ g key) m := by
  rw [mapWithKey, mapWithKey, List.map_map]
  rfl

theorem mapWithKey_congr {f g : String → α → β} {m : OrderedMap α} (h : ∀ e ∈ m, f e.1 e.2 = g e.1 e.2) :
    mapWithKey f m = mapWithKey g m :=
  List.map_congr_left fun e he => congrArg _ (h e he)

theorem swapErase_mapWithKey (f : String → α → β) (m : OrderedMap α) (key : String) :
    swapErase (mapWithKey f m) key = mapWithKey f (swapErase m key) := by
  induction m with
  | nil => rfl
  | cons e rest ih =>
    obtain ⟨k, v⟩ := e
    rw [mapWithKey, List.map_cons, ← mapWithKey]
    by_cases hk : k = key
    · simp only [swapErase, if_pos hk]
      rcases List.eq_nil_or_concat' rest with rfl | ⟨init, last, rfl⟩
      · rfl
      · rw [mapWithKey, List.map_append, List.map_singleton, List.getLast?_concat, List.getLast?_concat,
          List.dropLast_concat, List.dropLast_concat, mapWithKey, List.map_cons]
    · simp only [swapErase, if_neg hk]
      rw [ih, mapWithKey, mapWithKey, List.map_cons]

/-! ### Erasing -/

section Erase

variable {m : OrderedMap α}

theorem get?_eraseP (hm : (keys m).Nodup) (key other : String) :
    get? (m.eraseP fun e => e.1 = key) other = if other = key then none else get? m other := by
  induction m with
  | nil => simp
  | cons e rest ih =>
    obtain ⟨k, v⟩ := e
    simp only [keys, List.map_cons, List.nodup_cons] at hm
    by_cases hk : k = key
    · subst hk
      rw [List.eraseP_cons_of_pos (by simp)]
      by_cases hother : other = k
      · subst hother
        rw [if_pos rfl, get?_eq_none_iff]
        exact hm.1
      · simp [get?, hother, Ne.symm hother]
    · rw [List.eraseP_cons_of_neg (by simpa using hk)]
      by_cases hother : k = other
      · subst hother
        simp [get?, hk]
      · simp only [get?, if_neg hother]
        exact ih hm.2

theorem nodup_keys_eraseP (hm : (keys m).Nodup) (p : String × α → Bool) : (keys (m.eraseP p)).Nodup :=
  ((List.eraseP_sublist (p := p) (l := m)).map Prod.fst).nodup hm

theorem get?_swapErase (hm : (keys m).Nodup) (key other : String) :
    get? (swapErase m key) other = if other = key then none else get? m other := by
  rw [← get?_eraseP hm]
  have hnodup : (keys (swapErase m key)).Nodup :=
    ((swapErase_perm m key).map Prod.fst).nodup_iff.2 (nodup_keys_eraseP hm _)
  exact get?_perm hnodup (swapErase_perm m key) other

end Erase

/-! ### The order of keys -/

section Order

variable {before after : List String} {key : String}

/-- The last key takes the place of the erased one. -/
theorem keys_swapErase {m : OrderedMap α} (h : keys m = before ++ key :: after) (hkey : key ∉ before) :
    keys (swapErase m key) = before ++ (after.getLast?.toList ++ after.dropLast) := by
  induction m generalizing before with
  | nil => simp [keys] at h
  | cons e rest ih =>
    obtain ⟨k, v⟩ := e
    rw [keys, List.map_cons] at h
    cases before with
    | nil =>
      rw [List.nil_append, List.cons.injEq] at h
      obtain ⟨rfl, rfl⟩ := h
      rw [swapErase, if_pos rfl]
      rcases List.eq_nil_or_concat' rest with rfl | ⟨init, last, rfl⟩
      · rfl
      · simp [keys]
    | cons first before =>
      rw [List.cons_append, List.cons.injEq] at h
      obtain ⟨rfl, hrest⟩ := h
      rw [List.mem_cons, not_or] at hkey
      rw [swapErase, if_neg (Ne.symm hkey.1), List.cons_append, ← ih hrest hkey.2]
      rfl

/-- The keys that stay are in their old order just if the last of those behind the erased key was the only one. -/
theorem sublist_swapErase_iff (hnodup : (before ++ key :: after).Nodup) :
    (before ++ (after.getLast?.toList ++ after.dropLast)).Sublist (before ++ key :: after) ↔ after.length ≤ 1 := by
  rw [List.append_sublist_append_left]
  rcases List.eq_nil_or_concat' after with rfl | ⟨init, last, rfl⟩
  · simp
  rw [List.getLast?_concat, List.dropLast_concat, Option.toList_some, List.singleton_append]
  obtain ⟨-, hbehind, -⟩ := List.nodup_append.1 hnodup
  obtain ⟨hkey, hafter⟩ := List.nodup_cons.1 hbehind
  constructor
  · intro h
    have hsublist : (last :: init).Sublist (init ++ [last]) := by
      rcases List.sublist_cons_iff.1 h with h | ⟨rest, heq, -⟩
      · exact h
      · rw [List.cons.injEq] at heq
        rw [← heq.1] at hkey
        exact absurd (List.mem_append_right _ (List.mem_singleton_self last)) hkey
    -- the two lists are equally long, so the last key would be the first one too
    have heq := hsublist.eq_of_length (by simp)
    cases init with
    | nil => simp
    | cons first init =>
      rw [List.cons_append, List.cons.injEq] at heq
      rw [← heq.1] at hafter
      simp at hafter
  · intro h
    have hinit : init = [] := by
      rw [List.length_append, List.length_singleton] at h
      exact List.length_eq_zero_iff.1 (by omega)
    rw [hinit, List.nil_append]
    exact List.sublist_cons_self ..

end Order

end YamlSchema.OrderedMap
