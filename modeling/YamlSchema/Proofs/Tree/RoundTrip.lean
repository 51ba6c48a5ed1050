import YamlSchema.Proofs.Tree.Literals

/-!
# Written trees

The text of a tree is read as it was written (`Json.parse?_text`).  The tree of what is read is the same tree if no
mapping in it has a key twice, it nests no deeper than what is read and each number in it is read as it was written
(`Json.toTree?_ofTree`).
-/

namespace YamlSchema

/-! ### Trees as they are written -/

namespace Tree

mutual

/-- The numbers in a tree. -/
def numbers : Tree → List Number
  | .number n => [n]
  | .array items => numbersOfItems items
  | .object members => numbersOfMembers members
  | .null | .bool _ | .string _ => []

def numbersOfItems : List Tree → List Number
  | [] => []
  | t :: rest => numbers t ++ numbersOfItems rest

def numbersOfMembers : List (String × Tree) → List Number
  | [] => []
  | (_, t) :: rest => numbers t ++ numbersOfMembers rest

end

mutual

/-- How many collections of a tree stand within each other. -/
def nesting : Tree → Nat
  | .array items => nestingOfItems items + 1
  | .object members => nestingOfMembers members + 1
  | .null | .bool _ | .number _ | .string _ => 0

def nestingOfItems : List Tree → Nat
  | [] => 0
  | t :: rest => max (nesting t) (nestingOfItems rest)

def nestingOfMembers : List (String × Tree) → Nat
  | [] => 0
  | (_, t) :: rest => max (nesting t) (nestingOfMembers rest)

end

end Tree

namespace Json

mutual

/-- What is read where a tree is written. -/
def ofTree : Tree → Json
  | .null => .null
  | .bool b => .bool b
  | .number n => .number n.readBack
  | .string s => .string (some s)
  | .array items => .array (ofItems items)
  | .object members => .object (ofMembers members)

def ofItems : List Tree → List Json
  | [] => []
  | t :: rest => ofTree t :: ofItems rest

def ofMembers : List (String × Tree) → List (Option String × Json)
  | [] => []
  | (k, t) :: rest => (some k, ofTree t) :: ofMembers rest

end

/-! ### Reading what is written -/

theorem skipBlanks_cons {c : Char} (h : isBlank c = false) (cs : List Char) : skipBlanks (c :: cs) = c :: cs :=
  List.dropWhile_cons_of_neg (by simp [h])

/-- A literal begins with a minus sign or a digit. -/
theorem head_text (plus : Bool) {l : Literal} (h : l.IsProper) :
    ∃ c cs, l.text plus = c :: cs ∧ (c = '-' ∨ c.isDigit = true) := by
  obtain ⟨hne, hdigits⟩ := h.whole.areDigits
  obtain ⟨c, cs, heq⟩ := List.exists_cons_of_ne_nil hne
  rw [heq] at hdigits
  rw [Literal.text, heq]
  cases l.negative with
  | true => exact ⟨'-', _, rfl, .inl rfl⟩
  | false => exact ⟨c, _, rfl, .inr (hdigits c List.mem_cons_self)⟩

theorem ne_of_literalHead {c d : Char} (hc : c = '-' ∨ c.isDigit = true) (hd : d ≠ '-' ∧ d.isDigit = false) :
    c ≠ d := by
  rintro rfl
  rcases hc with rfl | hc
  · exact hd.1 rfl
  · rw [hd.2] at hc
    cases hc

theorem not_isBlank_of_literalHead {c : Char} (hc : c = '-' ∨ c.isDigit = true) : isBlank c = false := by
  simp only [isBlank, decide_eq_false_iff_not, not_or]
  exact ⟨ne_of_literalHead hc (by decide), ne_of_literalHead hc (by decide), ne_of_literalHead hc (by decide),
    ne_of_literalHead hc (by decide)⟩

/-- What is read where a number is written. -/
theorem value?_number (fuel : Nat) (n : Number) {rest : List Char} (hrest : Closes rest) :
    value? (fuel + 1) (n.write ++ rest) = some (.number n.readBack, rest) := by
  obtain ⟨l, hl, heq⟩ := n.exists_text
  have hread := literal?_text true hl hrest
  obtain ⟨c, cs, hhead, hc⟩ := head_text true hl
  rw [Number.readBack_of_text hl heq, heq]
  rw [hhead, List.cons_append] at hread ⊢
  rw [value?.eq_2, skipBlanks_cons (not_isBlank_of_literalHead hc)]
  split
  · rename_i heq
    cases heq
  -- no other value begins as a literal does
  iterate 6
    · rename_i heq
      exact absurd (List.cons.inj heq).1 (ne_of_literalHead hc (by decide))
  · rw [hread]
    rfl

theorem head_write (t : Tree) : ∃ c cs, t.write = c :: cs ∧ isBlank c = false ∧ c ≠ ']' := by
  cases t with
  | number n =>
    obtain ⟨l, hl, heq⟩ := n.exists_text
    obtain ⟨c, cs, hhead, hc⟩ := head_text true hl
    exact ⟨c, cs, heq.trans hhead, not_isBlank_of_literalHead hc, ne_of_literalHead hc (by decide)⟩
  | bool b => cases b <;> exact ⟨_, _, rfl, by decide, by decide⟩
  | _ => exact ⟨_, _, rfl, by decide, by decide⟩

theorem length_le_flatMap_escape (cs : List Char) : cs.length ≤ (cs.flatMap Quoted.escape).length := by
  induction cs with
  | nil => exact Nat.le_refl _
  | cons c cs ih =>
    have hc : 0 < (Quoted.escape c).length := by
      unfold Quoted.escape
      repeat' split
      all_goals simp
    rw [List.flatMap_cons, List.length_append, List.length_cons]
    omega

theorem length_write (s : String) : s.length + 2 ≤ (Quoted.write s).length := by
  have hle := length_le_flatMap_escape s.toList
  rw [String.length_toList] at hle
  rw [Quoted.write, List.length_cons, List.length_append, List.length_singleton]
  omega

theorem value?_string {fuel : Nat} {s : String} (h : s.length < fuel) (rest : List Char) :
    value? (fuel + 1) (Quoted.write s ++ rest) = some (.string (some s), rest) := by
  rw [Quoted.write, List.cons_append, List.append_assoc, List.singleton_append, value?.eq_2,
    skipBlanks_cons (by decide)]
  change (string? fuel (s.toList.flatMap Quoted.escape ++ '"' :: rest)).map _ = _
  rw [string?_write s rest h]
  rfl

/-- A list that is not closed at once has items. -/
theorem value?_items {fuel : Nat} {c : Char} (hblank : isBlank c = false) (hclose : c ≠ ']') (cs : List Char) :
    value? (fuel + 1) ('[' :: c :: cs) = (items? fuel (c :: cs)).map fun found => (.array found.1, found.2) := by
  rw [value?.eq_2, skipBlanks_cons (by decide)]
  split
  case h_3 _ _ heq =>
    cases heq
    rw [skipBlanks_cons hblank]
    split
    · rename_i heq
      exact absurd (List.cons.inj heq).1 hclose
    · rfl
  all_goals simp_all

/-- A mapping that is not closed at once has members. -/
theorem value?_members {fuel : Nat} (cs : List Char) : value? (fuel + 1) ('\x7b' :: '"' :: cs) =
    (members? fuel ('"' :: cs)).map fun found => (.object found.1, found.2) := by
  rw [value?.eq_2, skipBlanks_cons (by decide)]
  split
  case h_4 _ _ heq =>
    cases heq
    rw [skipBlanks_cons (by decide)]
    rfl
  all_goals simp_all

theorem items?_last {fuel : Nat} {cs rest : List Char} {j : Json} (h : value? fuel cs = some (j, ']' :: rest)) :
    items? (fuel + 1) cs = some ([j], rest) := by
  rw [items?.eq_2, h]
  simp only [bind, Option.bind_some, skipBlanks_cons (show isBlank ']' = false by decide), pure]

theorem items?_next {fuel : Nat} {cs more tail : List Char} {j : Json} {js : List Json}
    (h : value? fuel cs = some (j, ',' :: more)) (hmore : items? fuel more = some (js, tail)) :
    items? (fuel + 1) cs = some (j :: js, tail) := by
  rw [items?.eq_2, h]
  simp only [bind, Option.bind_some, skipBlanks_cons (show isBlank ',' = false by decide), hmore, pure]

theorem members?_last {fuel : Nat} {k : String} {cs rest : List Char} {j : Json} (hk : k.length < fuel)
    (h : value? fuel cs = some (j, '\x7d' :: rest)) :
    members? (fuel + 1) (Quoted.write k ++ ':' :: cs) = some ([(some k, j)], rest) := by
  rw [Quoted.write, List.cons_append, List.append_assoc, List.singleton_append, members?.eq_2,
    skipBlanks_cons (by decide)]
  simp only [string?_write k _ hk, bind, Option.bind_some, skipBlanks_cons (show isBlank ':' = false by decide), h,
    skipBlanks_cons (show isBlank '\x7d' = false by decide), pure]

theorem members?_next {fuel : Nat} {k : String} {cs more tail : List Char} {j : Json}
    {js : List (Option String × Json)} (hk : k.length < fuel) (h : value? fuel cs = some (j, ',' :: more))
    (hmore : members? fuel more = some (js, tail)) :
    members? (fuel + 1) (Quoted.write k ++ ':' :: cs) = some ((some k, j) :: js, tail) := by
  rw [Quoted.write, List.cons_append, List.append_assoc, List.singleton_append, members?.eq_2,
    skipBlanks_cons (by decide)]
  simp only [string?_write k _ hk, bind, Option.bind_some, skipBlanks_cons (show isBlank ':' = false by decide), h,
    skipBlanks_cons (show isBlank ',' = false by decide), hmore, pure]

theorem head_writeItems (t : Tree) (ts : List Tree) :
    ∃ c cs, Tree.writeItems (t :: ts) = c :: cs ∧ isBlank c = false ∧ c ≠ ']' := by
  obtain ⟨c, cs, heq, hc⟩ := head_write t
  cases ts with
  | nil => exact ⟨c, cs, heq, hc⟩
  | cons u ts => exact ⟨c, cs ++ ',' :: Tree.writeItems (u :: ts), by rw [Tree.writeItems.eq_3 _ _ (by simp), heq]; rfl, hc⟩

theorem head_writeMembers (m : String × Tree) (ms : List (String × Tree)) :
    ∃ cs, Tree.writeMembers (m :: ms) = '"' :: cs := by
  cases ms with
  | nil => exact ⟨_, rfl⟩
  | cons next ms => exact ⟨_, rfl⟩

mutual

theorem value?_write : ∀ (t : Tree) {fuel : Nat} {rest : List Char}, Closes rest →
    t.write.length < fuel → value? fuel (t.write ++ rest) = some (ofTree t, rest)
  | .null, fuel + 1, rest, hrest, hfuel => by
    rw [value?.eq_2]
    rfl
  | .bool true, fuel + 1, rest, hrest, hfuel => by
    rw [value?.eq_2]
    rfl
  | .bool false, fuel + 1, rest, hrest, hfuel => by
    rw [value?.eq_2]
    rfl
  | .number n, fuel + 1, rest, hrest, hfuel => by
    rw [Tree.write, value?_number fuel n hrest, ofTree]
  | .string s, fuel + 1, rest, hrest, hfuel => by
    have hlength := length_write s
    rw [Tree.write] at hfuel
    rw [Tree.write, value?_string (by omega), ofTree]
  | .array [], fuel + 1, rest, hrest, hfuel => by
    rw [value?.eq_2]
    rfl
  | .array (t :: ts), fuel + 1, rest, hrest, hfuel => by
    have hitems : items? fuel (Tree.writeItems (t :: ts) ++ ']' :: rest) = some (ofItems (t :: ts), rest) :=
      items?_write t ts rest (by
        rw [Tree.write, List.length_cons, List.length_append, List.length_singleton] at hfuel
        omega)
    obtain ⟨c, cs, hhead, hblank, hclose⟩ := head_writeItems t ts
    rw [hhead, List.cons_append] at hitems
    rw [Tree.write, hhead, List.cons_append, List.append_assoc, List.singleton_append, List.cons_append,
      value?_items hblank hclose, hitems, Option.map_some, ofTree]
  | .object [], fuel + 1, rest, hrest, hfuel => by
    rw [value?.eq_2]
    rfl
  | .object (m :: ms), fuel + 1, rest, hrest, hfuel => by
    have hmembers : members? fuel (Tree.writeMembers (m :: ms) ++ '\x7d' :: rest) = some (ofMembers (m :: ms), rest) :=
      members?_write m ms rest (by
        rw [Tree.write, List.length_cons, List.length_append, List.length_singleton] at hfuel
        omega)
    obtain ⟨cs, hhead⟩ := head_writeMembers m ms
    rw [hhead, List.cons_append] at hmembers
    rw [Tree.write, hhead, List.cons_append, List.append_assoc, List.singleton_append, List.cons_append,
      value?_members, hmembers, Option.map_some, ofTree]

theorem items?_write : ∀ (t : Tree) (ts : List Tree) {fuel : Nat} (rest : List Char),
    (Tree.writeItems (t :: ts)).length + 1 < fuel →
      items? fuel (Tree.writeItems (t :: ts) ++ ']' :: rest) = some (ofItems (t :: ts), rest)
  | t, [], fuel + 1, rest, hfuel => by
    have hclose : Closes (']' :: rest) := by simp [Closes]
    exact items?_last (value?_write t hclose
      (Nat.lt_of_succ_lt_succ hfuel))
  | t, u :: ts, fuel + 1, rest, hfuel => by
    have hclose : Closes (',' :: (Tree.writeItems (u :: ts) ++ ']' :: rest)) := by simp [Closes]
    rw [Tree.writeItems.eq_3 _ _ (by simp), List.length_append, List.length_cons] at hfuel
    rw [Tree.writeItems.eq_3 _ _ (by simp), List.append_assoc, List.cons_append]
    exact items?_next (value?_write t hclose (by omega))
      (items?_write u ts rest (by omega))

theorem members?_write : ∀ (m : String × Tree) (ms : List (String × Tree)) {fuel : Nat} (rest : List Char),
    (Tree.writeMembers (m :: ms)).length + 1 < fuel →
      members? fuel (Tree.writeMembers (m :: ms) ++ '\x7d' :: rest) = some (ofMembers (m :: ms), rest)
  | (k, t), [], fuel + 1, rest, hfuel => by
    have hclose : Closes ('\x7d' :: rest) := by simp [Closes]
    have hk := length_write k
    rw [Tree.writeMembers, List.length_append, List.length_cons] at hfuel
    rw [Tree.writeMembers, List.append_assoc, List.cons_append]
    exact members?_last (by omega) (value?_write t hclose (by omega))
  | (k, t), m :: ms, fuel + 1, rest, hfuel => by
    have hclose : Closes (',' :: (Tree.writeMembers (m :: ms) ++ '\x7d' :: rest)) := by simp [Closes]
    have hk := length_write k
    rw [Tree.writeMembers.eq_3 _ _ _ (by simp), List.length_append, List.length_append, List.length_cons,
      List.length_cons] at hfuel
    rw [Tree.writeMembers.eq_3 _ _ _ (by simp), List.append_assoc, List.append_assoc, List.cons_append,
      List.cons_append]
    exact members?_next (by omega) (value?_write t hclose (by omega))
      (members?_write m ms rest (by omega))

end

/-- The text of a tree is read as it was written. -/
theorem parse?_text (t : Tree) : parse? t.text = some (ofTree t) := by
  have hvalue : value? (t.write.length + 1) (t.write ++ []) = some (ofTree t, []) :=
    value?_write t (fun _ hc => nomatch hc) (Nat.lt_succ_self _)
  rw [List.append_nil] at hvalue
  rw [parse?, Tree.text, String.toList_ofList]
  simp only [hvalue, bind, Option.bind_some]
  rfl

end Json

/-! ### Trees of what is read -/

/-- No mapping in a tree has a key twice. -/
inductive Tree.HasDistinctKeys : Tree → Prop
  | null : HasDistinctKeys .null
  | bool (b : Bool) : HasDistinctKeys (.bool b)
  | number (n : Number) : HasDistinctKeys (.number n)
  | string (s : String) : HasDistinctKeys (.string s)
  | array {items : List Tree} (h : ∀ t ∈ items, HasDistinctKeys t) : HasDistinctKeys (.array items)
  | object {members : List (String × Tree)} (hkeys : (OrderedMap.keys members).Nodup)
      (h : ∀ m ∈ members, HasDistinctKeys m.2) : HasDistinctKeys (.object members)

namespace Json

mutual

/-- The tree that was written is the tree of what is read. -/
theorem toTree?_ofTree : ∀ {t : Tree} {room : Nat}, t.HasDistinctKeys → t.nesting ≤ room →
    (∀ n ∈ t.numbers, n.readBack = some n) → toTree? room (ofTree t) = some t
  | .null, _, _, _, _ | .bool _, _, _, _, _ | .string _, _, _, _, _ => rfl
  | .number n, _, _, _, h => by
    rw [ofTree, toTree?, h n (List.mem_singleton_self n), Option.map_some]
  | .array items, room, h, hroom, hnumbers => by
    cases h with
    | array hitems =>
      rw [Tree.nesting] at hroom
      cases room with
      | zero => omega
      | succ room =>
        rw [ofTree, toTree?, treesOf?_ofItems hitems (by omega) hnumbers]
        rfl
  | .object members, room, h, hroom, hnumbers => by
    cases h with
    | object hkeys hmembers =>
      rw [Tree.nesting] at hroom
      cases room with
      | zero => omega
      | succ room =>
        rw [ofTree, toTree?, entriesOf?_ofMembers hmembers (by omega) hnumbers, Option.map_some,
          OrderedMap.ofEntries_of_nodup hkeys]

theorem treesOf?_ofItems : ∀ {items : List Tree} {room : Nat}, (∀ t ∈ items, t.HasDistinctKeys) →
    Tree.nestingOfItems items ≤ room → (∀ n ∈ Tree.numbersOfItems items, n.readBack = some n) →
      treesOf? room (ofItems items) = some items
  | [], _, _, _, _ => rfl
  | t :: rest, room, h, hroom, hnumbers => by
    rw [Tree.nestingOfItems] at hroom
    rw [ofItems, treesOf?, toTree?_ofTree (h t List.mem_cons_self) (by omega)
        fun n hn => hnumbers n (List.mem_append_left _ hn),
      treesOf?_ofItems (fun u hu => h u (List.mem_cons_of_mem _ hu)) (by omega)
        fun n hn => hnumbers n (List.mem_append_right _ hn)]
    rfl

theorem entriesOf?_ofMembers : ∀ {members : List (String × Tree)} {room : Nat}, (∀ m ∈ members, m.2.HasDistinctKeys) →
    Tree.nestingOfMembers members ≤ room → (∀ n ∈ Tree.numbersOfMembers members, n.readBack = some n) →
      entriesOf? room (ofMembers members) = some members
  | [], _, _, _, _ => rfl
  | (k, t) :: rest, room, h, hroom, hnumbers => by
    rw [Tree.nestingOfMembers] at hroom
    have ht : t.nesting ≤ room := by omega
    rw [ofMembers, entriesOf?, toTree?_ofTree (h (k, t) List.mem_cons_self) ht
        fun n hn => hnumbers n (List.mem_append_left _ hn),
      entriesOf?_ofMembers (fun m hm => h m (List.mem_cons_of_mem _ hm)) (by omega)
        fun n hn => hnumbers n (List.mem_append_right _ hn)]
    rfl

end

end Json

end YamlSchema
