import YamlSchema.Proofs.Tree.RoundTrip

/-!
# What is read

Whatever a text holds, no mapping of a tree that is read has a key twice, it nests no deeper than what is read, and its
integers have 64 bits (`Json.toTree?_sound`, `Json.fits_of_parse?`).  So a tree is read back from its own text exactly if
it has no key twice, there is room for it and each of its numbers is read back (`Json.toTree?_ofTree_iff`).
-/

namespace YamlSchema

/-! ### Parts of collections -/

namespace Tree

theorem mem_numbersOfItems_iff {n : Number} {items : List Tree} :
    n ∈ numbersOfItems items ↔ ∃ t ∈ items, n ∈ t.numbers := by
  induction items with
  | nil => simp [numbersOfItems]
  | cons t rest ih => simp [numbersOfItems, ih]

theorem mem_numbersOfMembers_iff {n : Number} {members : List (String × Tree)} :
    n ∈ numbersOfMembers members ↔ ∃ m ∈ members, n ∈ m.2.numbers := by
  induction members with
  | nil => simp [numbersOfMembers]
  | cons m rest ih =>
    obtain ⟨k, t⟩ := m
    simp [numbersOfMembers, ih]

theorem nestingOfItems_le_iff {room : Nat} {items : List Tree} :
    nestingOfItems items ≤ room ↔ ∀ t ∈ items, t.nesting ≤ room := by
  induction items with
  | nil => simp [nestingOfItems]
  | cons t rest ih => simp [nestingOfItems, ih, Nat.max_le]

theorem nestingOfMembers_le_iff {room : Nat} {members : List (String × Tree)} :
    nestingOfMembers members ≤ room ↔ ∀ m ∈ members, m.2.nesting ≤ room := by
  induction members with
  | nil => simp [nestingOfMembers]
  | cons m rest ih =>
    obtain ⟨k, t⟩ := m
    simp [nestingOfMembers, ih, Nat.max_le]

end Tree

namespace Json

mutual

/-- The numbers of a text that have a value. -/
def numbers : Json → List Number
  | .number n => n.toList
  | .array items => numbersOfItems items
  | .object members => numbersOfMembers members
  | .null | .bool _ | .string _ => []

def numbersOfItems : List Json → List Number
  | [] => []
  | j :: rest => numbers j ++ numbersOfItems rest

def numbersOfMembers : List (Option String × Json) → List Number
  | [] => []
  | (_, j) :: rest => numbers j ++ numbersOfMembers rest

end

theorem mem_numbersOfItems_iff {n : Number} {items : List Json} :
    n ∈ numbersOfItems items ↔ ∃ j ∈ items, n ∈ j.numbers := by
  induction items with
  | nil => simp [numbersOfItems]
  | cons j rest ih => simp [numbersOfItems, ih]

theorem mem_numbersOfMembers_iff {n : Number} {members : List (Option String × Json)} :
    n ∈ numbersOfMembers members ↔ ∃ m ∈ members, n ∈ m.2.numbers := by
  induction members with
  | nil => simp [numbersOfMembers]
  | cons m rest ih =>
    obtain ⟨k, j⟩ := m
    simp [numbersOfMembers, ih]

/-! ### Trees -/

mutual

/-- What the tree of a text is like. -/
theorem toTree?_sound : ∀ {j : Json} {room : Nat} {t : Tree}, toTree? room j = some t →
    t.HasDistinctKeys ∧ t.nesting ≤ room ∧ ∀ n ∈ t.numbers, n ∈ j.numbers
  | .null, room, t, h => by
    cases h
    exact ⟨.null, Nat.zero_le _, fun n hn => hn⟩
  | .bool b, room, t, h => by
    cases h
    exact ⟨.bool b, Nat.zero_le _, fun n hn => hn⟩
  | .number n, room, t, h => by
    obtain ⟨m, rfl, rfl⟩ := Option.map_eq_some_iff.1 h
    exact ⟨.number m, Nat.zero_le _, fun n hn => hn⟩
  | .string s, room, t, h => by
    obtain ⟨s, rfl, rfl⟩ := Option.map_eq_some_iff.1 h
    exact ⟨.string s, Nat.zero_le _, fun n hn => hn⟩
  | .array items, room, t, h => by
    cases room with
    | zero => cases h
    | succ room =>
      obtain ⟨ts, hts, rfl⟩ := Option.map_eq_some_iff.1 h
      have hsound := treesOf?_sound hts
      refine ⟨.array fun t ht => (hsound t ht).1, Nat.succ_le_succ (Tree.nestingOfItems_le_iff.2 fun t ht =>
        (hsound t ht).2.1), fun n hn => ?_⟩
      obtain ⟨t, ht, hn⟩ := Tree.mem_numbersOfItems_iff.1 hn
      exact (hsound t ht).2.2 n hn
  | .object members, room, t, h => by
    cases room with
    | zero => cases h
    | succ room =>
      obtain ⟨entries, hentries, rfl⟩ := Option.map_eq_some_iff.1 h
      have hsound (m : String × Tree) (hm : m ∈ OrderedMap.ofEntries entries) :=
        entriesOf?_sound hentries m (OrderedMap.mem_of_mem_ofEntries hm)
      refine ⟨.object (OrderedMap.nodup_keys_ofEntries entries) fun m hm => (hsound m hm).1,
        Nat.succ_le_succ (Tree.nestingOfMembers_le_iff.2 fun m hm => (hsound m hm).2.1), fun n hn => ?_⟩
      obtain ⟨m, hm, hn⟩ := Tree.mem_numbersOfMembers_iff.1 hn
      exact (hsound m hm).2.2 n hn

theorem treesOf?_sound : ∀ {items : List Json} {room : Nat} {ts : List Tree}, treesOf? room items = some ts →
    ∀ t ∈ ts, t.HasDistinctKeys ∧ t.nesting ≤ room ∧ ∀ n ∈ t.numbers, n ∈ numbersOfItems items
  | [], room, ts, h => by
    cases h
    exact fun _ ht => nomatch ht
  | j :: rest, room, ts, h => by
    simp only [treesOf?, bind, Option.bind_eq_some_iff, pure, Option.some.injEq] at h
    obtain ⟨u, hu, us, hus, rfl⟩ := h
    intro t ht
    rcases List.mem_cons.1 ht with rfl | ht
    · obtain ⟨hkeys, hnesting, hnumbers⟩ := toTree?_sound hu
      exact ⟨hkeys, hnesting, fun n hn => List.mem_append_left _ (hnumbers n hn)⟩
    · obtain ⟨hkeys, hnesting, hnumbers⟩ := treesOf?_sound hus t ht
      exact ⟨hkeys, hnesting, fun n hn => List.mem_append_right _ (hnumbers n hn)⟩

theorem entriesOf?_sound : ∀ {members : List (Option String × Json)} {room : Nat} {entries : List (String × Tree)},
    entriesOf? room members = some entries →
      ∀ m ∈ entries, m.2.HasDistinctKeys ∧ m.2.nesting ≤ room ∧ ∀ n ∈ m.2.numbers, n ∈ numbersOfMembers members
  | [], room, entries, h => by
    cases h
    exact fun _ hm => nomatch hm
  | (k, j) :: rest, room, entries, h => by
    simp only [entriesOf?, bind, Option.bind_eq_some_iff, pure, Option.some.injEq] at h
    obtain ⟨key, -, u, hu, others, hothers, rfl⟩ := h
    intro m hm
    rcases List.mem_cons.1 hm with rfl | hm
    · obtain ⟨hkeys, hnesting, hnumbers⟩ := toTree?_sound hu
      exact ⟨hkeys, hnesting, fun n hn => List.mem_append_left _ (hnumbers n hn)⟩
    · obtain ⟨hkeys, hnesting, hnumbers⟩ := entriesOf?_sound hothers m hm
      exact ⟨hkeys, hnesting, fun n hn => List.mem_append_right _ (hnumbers n hn)⟩

end

/-! ### Written trees -/

theorem keys_entriesOf? : ∀ {members : List (String × Tree)} {room : Nat} {entries : List (String × Tree)},
    entriesOf? room (ofMembers members) = some entries → OrderedMap.keys entries = OrderedMap.keys members
  | [], room, entries, h => by
    cases h
    rfl
  | (k, t) :: rest, room, entries, h => by
    simp only [ofMembers, entriesOf?, bind, Option.bind_eq_some_iff, pure, Option.some.injEq] at h
    obtain ⟨key, hkey, u, hu, others, hothers, rfl⟩ := h
    cases hkey
    exact congrArg (k :: ·) (keys_entriesOf? hothers)

mutual

theorem readBack_of_toTree? : ∀ {t : Tree} {room : Nat}, toTree? room (ofTree t) = some t →
    ∀ n ∈ t.numbers, n.readBack = some n
  | .null, _, _, _, hn | .bool _, _, _, _, hn | .string _, _, _, _, hn => nomatch hn
  | .number m, room, h, n, hn => by
    obtain ⟨m', hm', heq⟩ := Option.map_eq_some_iff.1 h
    cases heq
    cases List.mem_singleton.1 hn
    exact hm'
  | .array items, room, h, n, hn => by
    cases room with
    | zero => cases h
    | succ room =>
      obtain ⟨ts, hts, heq⟩ := Option.map_eq_some_iff.1 h
      cases heq
      exact readBack_of_treesOf? hts n hn
  | .object members, room, h, n, hn => by
    cases room with
    | zero => cases h
    | succ room =>
      obtain ⟨entries, hentries, heq⟩ := Option.map_eq_some_iff.1 h
      rw [Tree.object.injEq] at heq
      have hkeys : (OrderedMap.keys entries).Nodup := by
        rw [keys_entriesOf? hentries, ← heq]
        exact OrderedMap.nodup_keys_ofEntries entries
      rw [OrderedMap.ofEntries_of_nodup hkeys] at heq
      exact readBack_of_entriesOf? (heq ▸ hentries) n hn

theorem readBack_of_treesOf? : ∀ {items : List Tree} {room : Nat}, treesOf? room (ofItems items) = some items →
    ∀ n ∈ Tree.numbersOfItems items, n.readBack = some n
  | [], _, _, _, hn => nomatch hn
  | t :: rest, room, h, n, hn => by
    simp only [ofItems, treesOf?, bind, Option.bind_eq_some_iff, pure, Option.some.injEq, List.cons.injEq] at h
    obtain ⟨_, ht, _, hrest, rfl, rfl⟩ := h
    rcases List.mem_append.1 hn with hn | hn
    · exact readBack_of_toTree? ht n hn
    · exact readBack_of_treesOf? hrest n hn

theorem readBack_of_entriesOf? : ∀ {members : List (String × Tree)} {room : Nat},
    entriesOf? room (ofMembers members) = some members → ∀ n ∈ Tree.numbersOfMembers members, n.readBack = some n
  | [], _, _, _, hn => nomatch hn
  | (k, t) :: rest, room, h, n, hn => by
    simp only [ofMembers, entriesOf?, bind, Option.bind_eq_some_iff, pure, Option.some.injEq, List.cons.injEq,
      Prod.mk.injEq] at h
    obtain ⟨_, -, _, ht, _, hrest, ⟨-, rfl⟩, rfl⟩ := h
    rcases List.mem_append.1 hn with hn | hn
    · exact readBack_of_toTree? ht n hn
    · exact readBack_of_entriesOf? hrest n hn

end

/-- The tree of what is read where a tree is written is the same tree: no key is lost, there is room for it and each
number is read as it was written. -/
theorem toTree?_ofTree_iff {t : Tree} {room : Nat} : toTree? room (ofTree t) = some t ↔
    t.HasDistinctKeys ∧ t.nesting ≤ room ∧ ∀ n ∈ t.numbers, n.readBack = some n := by
  refine ⟨fun h => ?_, fun ⟨hkeys, hroom, hnumbers⟩ => toTree?_ofTree hkeys hroom hnumbers⟩
  obtain ⟨hkeys, hroom, -⟩ := toTree?_sound h
  exact ⟨hkeys, hroom, readBack_of_toTree? h⟩

/-! ### Numbers -/

/-- An integer that is read has 64 bits. -/
theorem Literal.fits_of_value {l : Literal} {i : Int} (h : l.value = some (.int i)) : Number.fits i = true := by
  have hreal {x : Option Double} : x.map Number.real ≠ some (.int i) := by
    cases x <;> simp
  rw [value] at h
  split at h
  · dsimp only at h
    generalize (if l.negative = true then -((naturalOf l.whole : Nat) : Int) else naturalOf l.whole) = k at h
    split at h
    · rename_i hfits
      rw [Option.some.injEq, Number.int.injEq] at h
      exact h ▸ hfits.1
    · exact absurd h hreal
  · dsimp only at h
    split at h
    · exact absurd h hreal
    · split at h
      · cases h
      · split at h
        · split at h <;> cases h
        · exact absurd h hreal

/-- What is read with some fuel has numbers that are values of literals. -/
structure ReadsLiterals (fuel : Nat) : Prop where
  value : ∀ {cs tail : List Char} {j : Json}, value? fuel cs = some (j, tail) →
    ∀ n ∈ j.numbers, ∃ l : Literal, l.value = some n
  items : ∀ {cs tail : List Char} {js : List Json}, items? fuel cs = some (js, tail) →
    ∀ n ∈ numbersOfItems js, ∃ l : Literal, l.value = some n
  members : ∀ {cs tail : List Char} {ms : List (Option String × Json)}, members? fuel cs = some (ms, tail) →
    ∀ n ∈ numbersOfMembers ms, ∃ l : Literal, l.value = some n

theorem numbers_of_word? {word : String} {k j : Json} {cs tail : List Char} (hk : k.numbers = [])
    (h : word? word k cs = some (j, tail)) : j.numbers = [] := by
  rw [word?] at h
  split at h
  · cases h
    exact hk
  · cases h

section Step

variable {fuel : Nat} (ih : ReadsLiterals fuel) {cs tail : List Char} {n : Number}

include ih

theorem exists_literal_of_value? {j : Json} (h : value? (fuel + 1) cs = some (j, tail)) (hn : n ∈ j.numbers) :
    ∃ l : Literal, l.value = some n := by
  have hword {word : String} {k : Json} {cs : List Char} (hk : k.numbers = [])
      (h : word? word k cs = some (j, tail)) : ∃ l : Literal, l.value = some n := by
    rw [numbers_of_word? hk h] at hn
    cases hn
  rw [value?.eq_2] at h
  split at h
  · cases h
  · obtain ⟨found, -, heq⟩ := Option.map_eq_some_iff.1 h
    cases heq
    cases hn
  · split at h
    · cases h
      cases hn
    · obtain ⟨found, hfound, heq⟩ := Option.map_eq_some_iff.1 h
      cases heq
      exact ih.items hfound n hn
  · split at h
    · cases h
      cases hn
    · obtain ⟨found, hfound, heq⟩ := Option.map_eq_some_iff.1 h
      cases heq
      exact ih.members hfound n hn
  · exact hword rfl h
  · exact hword rfl h
  · exact hword rfl h
  · obtain ⟨⟨l, tail⟩, -, heq⟩ := Option.map_eq_some_iff.1 h
    cases heq
    exact ⟨l, Option.mem_toList.1 hn⟩

theorem exists_literal_of_items? {js : List Json} (h : items? (fuel + 1) cs = some (js, tail))
    (hn : n ∈ numbersOfItems js) : ∃ l : Literal, l.value = some n := by
  rw [items?.eq_2] at h
  simp only [bind, Option.bind_eq_some_iff, Prod.exists] at h
  obtain ⟨item, rest, hitem, h⟩ := h
  split at h
  · cases h
    exact ih.value hitem n (by simpa [numbersOfItems] using hn)
  · simp only [Option.bind_eq_some_iff, Prod.exists] at h
    obtain ⟨others, rest, hothers, h⟩ := h
    cases h
    rcases List.mem_append.1 hn with hn | hn
    · exact ih.value hitem n hn
    · exact ih.items hothers n hn
  · cases h

theorem exists_literal_of_members? {ms : List (Option String × Json)} (h : members? (fuel + 1) cs = some (ms, tail))
    (hn : n ∈ numbersOfMembers ms) : ∃ l : Literal, l.value = some n := by
  rw [members?.eq_2] at h
  split at h
  · simp only [bind, Option.bind_eq_some_iff, Prod.exists] at h
    obtain ⟨key, rest, -, h⟩ := h
    split at h
    · simp only [Option.bind_eq_some_iff, Prod.exists] at h
      obtain ⟨item, rest, hitem, h⟩ := h
      split at h
      · cases h
        exact ih.value hitem n (by simpa [numbersOfMembers] using hn)
      · simp only [Option.bind_eq_some_iff, Prod.exists] at h
        obtain ⟨others, rest, hothers, h⟩ := h
        cases h
        rcases List.mem_append.1 hn with hn | hn
        · exact ih.value hitem n hn
        · exact ih.members hothers n hn
      · cases h
    · cases h
  · cases h

end Step

theorem readsLiterals (fuel : Nat) : ReadsLiterals fuel := by
  induction fuel with
  | zero =>
    refine ⟨fun h => ?_, fun h => ?_, fun h => ?_⟩
    · rw [value?.eq_1] at h
      cases h
    · rw [items?.eq_1] at h
      cases h
    · rw [members?.eq_1] at h
      cases h
  | succ fuel ih =>
    exact ⟨fun h n hn => exists_literal_of_value? ih h hn, fun h n hn => exists_literal_of_items? ih h hn,
      fun h n hn => exists_literal_of_members? ih h hn⟩

theorem fits_of_parse? {text : String} {j : Json} (h : parse? text = some j) {i : Int} (hi : .int i ∈ j.numbers) :
    Number.fits i = true := by
  simp only [parse?, bind, Option.bind_eq_some_iff, Prod.exists] at h
  obtain ⟨value, rest, hvalue, h⟩ := h
  split at h
  · cases h
    obtain ⟨l, hl⟩ := (readsLiterals _).value hvalue _ hi
    exact Literal.fits_of_value hl
  · cases h

end Json

end YamlSchema
