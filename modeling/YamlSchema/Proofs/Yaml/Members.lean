import YamlSchema.Proofs.Decimal.Written
import YamlSchema.Proofs.Tree.Shape
import YamlSchema.Proofs.Yaml.Conversion

/-!
# Which entries of a mapping survive

Different numbers have different texts (`Numeral.eq_of_text`), and so have the two truth values.  Two different keys hence
become the same string only if one of them is that string and the other a number or a truth value, and a mapping whose keys
differ becomes an object with all its entries exactly if it has no such pair (`keeps_ofEntries_iff`).  Through mappings
without such pairs every part of a value is found in its tree (`toTree_keeps`).
-/

namespace YamlSchema.Yaml

/-! ### Texts of numbers -/

namespace Numeral

/-- The literal as which a number is written. -/
def literal? : Numeral → Option Json.Literal
  | .int i => some (Number.literalOfInt i)
  | .real (.finite x) => some ((Decimal.shortest x).literal keyLayout x.negative)
  | .real (.infinite _) | .real .notANumber => none

/-- A double is a double of 64 bits. -/
def IsProper : Numeral → Prop
  | .real (.finite x) => x.IsProper
  | .int _ | .real (.infinite _) | .real .notANumber => True

theorem read_text {l : Json.Literal} (h : l.IsProper) (plus : Bool) :
    (Json.literal? (l.text plus)).map Prod.fst = some l := by
  have hread : Json.literal? (l.text plus ++ []) = some (l, []) := Json.literal?_text plus h fun _ hc => nomatch hc
  rw [List.append_nil] at hread
  rw [hread, Option.map_some]

/-- The literal of a number is read from its text. -/
theorem read_numeral (n : Numeral) : (Json.literal? n.text.toList).map Prod.fst = n.literal? := by
  cases n with
  | int i =>
    rw [text, Number.toList_toString, Number.write_int true]
    exact read_text (Number.isProper_literalOfInt i) true
  | real x =>
    cases x with
    | finite x =>
      rw [text, Decimal.toList_render _ _ rfl]
      exact read_text (Decimal.isProper_literal _ _ _) _
    | infinite negative => cases negative <;> rfl
    | notANumber => rfl

theorem literalOfInt_ne_literal (i : Int) (layout : Decimal.Layout) (negative : Bool) (d : Decimal) :
    Number.literalOfInt i ≠ d.literal layout negative := fun h =>
  Decimal.not_whole_literal layout negative d (h ▸ ⟨rfl, rfl⟩)

/-- Different numbers have different texts. -/
theorem eq_of_text {n m : Numeral} (hn : n.IsProper) (hm : m.IsProper) (h : n.text = m.text) : n = m := by
  have hliteral : n.literal? = m.literal? := by rw [← read_numeral, h, read_numeral]
  -- one that is not finite is no literal, and an integer is none with a point or an exponent
  rcases n with i | x | negative | _ <;> rcases m with j | y | negative' | _ <;> try cases hliteral
  · rw [Number.literalOfInt_injective (Option.some.inj hliteral)]
  · exact absurd (Option.some.inj hliteral) (literalOfInt_ne_literal i _ _ _)
  · exact absurd (Option.some.inj hliteral).symm (literalOfInt_ne_literal j _ _ _)
  · rw [Decimal.eq_of_literal_shortest keyLayout hn hm (Option.some.inj hliteral)]
  · cases negative <;> cases negative' <;> first | rfl | exact absurd h (by decide)
  · cases negative <;> exact absurd h (by decide)
  · cases negative' <;> exact absurd h (by decide)
  · rfl

theorem text_ne_bool (n : Numeral) (b : Bool) : n.text ≠ toString b := by
  intro h
  have hliteral : n.literal? = none := by
    rw [← read_numeral, h]
    cases b <;> rfl
  rcases n with i | x | negative | _
  · cases hliteral
  · cases hliteral
  · cases negative <;> cases b <;> exact absurd h (by decide)
  · cases b <;> exact absurd h (by decide)

theorem same_self (n : Numeral) : n.same n = true := by
  rcases n with i | x | negative | _
  · simp [same]
  · exact decide_eq_true (compare_eq_iff_eq.2 rfl)
  · simp [same]
  · simp [same]

end Numeral

/-! ### Keys -/

namespace Value

theorem same_self {k : Value} (h : k.IsScalarKey) : k.same k = true := by
  cases k with
  | bool b => simp [same]
  | number n => rw [same, Numeral.same_self]
  | string s => simp [same]
  | _ => exact h.elim

/-- A string, and a number or a truth value that becomes this string. -/
inductive Clash : Value → Value → Prop
  | number (n : Numeral) : Clash (.string n.text) (.number n)
  | bool (b : Bool) : Clash (.string (toString b)) (.bool b)

theorem Clash.keyText?_eq {k l : Value} (h : k.Clash l) : k.keyText? = l.keyText? := by cases h <;> rfl

theorem Clash.ne {k l : Value} (h : k.Clash l) : k ≠ l := by cases h <;> exact nofun

/-- A key that is a double is one of 64 bits. -/
def IsProperKey (k : Value) : Prop := ∀ n, k = .number n → n.IsProper

/-- The relation of keys is reflexive on those that become strings. -/
theorem ne_of_same_eq_false {k l : Value} {key : String} (hkey : k.keyText? = some key) (h : k.same l = false) :
    k ≠ l := by
  rintro rfl
  have hscalar : k.IsScalarKey := by
    by_contra hnot
    rw [keyText?_eq_none_iff.2 hnot] at hkey
    cases hkey
  rw [same_self hscalar] at h
  cases h

/-- Different keys become the same string only in one way. -/
theorem clash_of_keyText?_eq {k l : Value} {key : String} (hk : k.IsProperKey) (hl : l.IsProperKey)
    (hdistinct : k.same l = false) (hkey : k.keyText? = some key) (hkey' : l.keyText? = some key) :
    k.Clash l ∨ l.Clash k := by
  have hne := ne_of_same_eq_false hkey hdistinct
  cases k with
  | string s =>
    cases l with
    | string s' =>
      cases hkey
      cases hkey'
      exact absurd rfl hne
    | number n =>
      cases hkey
      cases hkey'
      exact .inl (.number n)
    | bool b =>
      cases hkey
      cases hkey'
      exact .inl (.bool b)
    | _ => cases hkey'
  | number n =>
    cases hkey
    cases l with
    | string s =>
      cases hkey'
      exact .inr (.number n)
    | number m =>
      exact absurd (congrArg Value.number (Numeral.eq_of_text (hk n rfl) (hl m rfl) (Option.some.inj hkey'.symm))) hne
    | bool b => exact absurd (Option.some.inj hkey'.symm) (Numeral.text_ne_bool n b)
    | _ => cases hkey'
  | bool b =>
    cases hkey
    cases l with
    | string s =>
      cases hkey'
      exact .inr (.bool b)
    | number n => exact absurd (Option.some.inj hkey') (Numeral.text_ne_bool n b)
    | bool c =>
      have hbool : b = c := by
        have h := Option.some.inj hkey'
        cases b <;> cases c <;> first | rfl | exact absurd h (by decide)
      exact absurd (congrArg Value.bool hbool) hne
    | _ => cases hkey'
  | _ => cases hkey

/-! ### Mappings -/

/-- The keys of a mapping differ, as those of every mapping that is read. -/
structure HasDistinctKeys (entries : List (Value × Value)) : Prop where
  distinct : entries.Pairwise fun e f => e.1.same f.1 = false
  proper : ∀ e ∈ entries, e.1.IsProperKey

/-- Two keys of a mapping become the same string. -/
def Clashes (entries : List (Value × Value)) : Prop := ∃ e ∈ entries, ∃ f ∈ entries, e.1.Clash f.1

/-- A member has the string of the key and the tree of the value. -/
def Converts (e : Value × Value) (m : String × Tree) : Prop := e.1.keyText? = some m.1 ∧ e.2.toTree = .ok m.2

/-- An object has a member for every entry, in the same order, and under the key of an entry its value is found. -/
structure Keeps (entries : List (Value × Value)) (members : OrderedMap Tree) : Prop where
  inOrder : List.Forall₂ Converts entries members
  found : ∀ e ∈ entries, ∃ key t, e.1.keyText? = some key ∧ e.2.toTree = .ok t ∧ OrderedMap.get? members key = some t

section Mappings

variable {entries : List (Value × Value)} {members : List (String × Tree)}

theorem membersOf_eq_ok_iff_forall₂ : membersOf entries = .ok members ↔ List.Forall₂ Converts entries members := by
  induction entries generalizing members with
  | nil => rw [List.forall₂_nil_left_iff, membersOf, Except.ok.injEq, eq_comm]
  | cons e rest ih =>
    obtain ⟨k, v⟩ := e
    simp only [membersOf_cons, bind_eq_ok_iff, pure_eq_ok_iff, asKey_eq_ok_iff, ih, List.forall₂_cons_left_iff]
    constructor
    · rintro ⟨key, hkey, t, ht, members, hrest, rfl⟩
      exact ⟨(key, t), members, ⟨hkey, ht⟩, hrest, rfl⟩
    · rintro ⟨m, members, ⟨hkey, ht⟩, hrest, rfl⟩
      exact ⟨m.1, hkey, m.2, ht, members, hrest, rfl⟩

theorem treesOf_eq_ok_iff_forall₂ {items : List Value} {trees : List Tree} :
    treesOf items = .ok trees ↔ List.Forall₂ (fun v t => v.toTree = .ok t) items trees := by
  induction items generalizing trees with
  | nil => rw [List.forall₂_nil_left_iff, treesOf, Except.ok.injEq, eq_comm]
  | cons v rest ih =>
    simp only [treesOf_cons, bind_eq_ok_iff, pure_eq_ok_iff, ih, List.forall₂_cons_left_iff]
    constructor
    · rintro ⟨t, ht, trees, hrest, rfl⟩
      exact ⟨t, trees, ht, hrest, rfl⟩
    · rintro ⟨t, trees, ht, hrest, rfl⟩
      exact ⟨t, ht, trees, hrest, rfl⟩

theorem toTree_mapping_eq_ok_iff {t : Tree} : (Value.mapping entries).toTree = .ok t ↔
    ∃ members, List.Forall₂ Converts entries members ∧ t = .object (OrderedMap.ofEntries members) := by
  rw [toTree, bind_eq_ok_iff]
  simp only [membersOf_eq_ok_iff_forall₂, pure_eq_ok_iff, eq_comm (a := t)]

theorem toTree_sequence_eq_ok_iff {items : List Value} {t : Tree} : (Value.sequence items).toTree = .ok t ↔
    ∃ trees, List.Forall₂ (fun v t => v.toTree = .ok t) items trees ∧ t = .array trees := by
  rw [toTree, bind_eq_ok_iff]
  simp only [treesOf_eq_ok_iff_forall₂, pure_eq_ok_iff, eq_comm (a := t)]

theorem map_keyText?_eq (h : List.Forall₂ Converts entries members) :
    entries.map (fun e => e.1.keyText?) = (OrderedMap.keys members).map some := by
  induction h with
  | nil => rfl
  | cons he _ ih => rw [List.map_cons, he.1, ih]; rfl

/-- The keys of the converted entries differ exactly if no two keys clash. -/
theorem nodup_keys_iff (hkeys : HasDistinctKeys entries) (h : List.Forall₂ Converts entries members) :
    (OrderedMap.keys members).Nodup ↔ ¬ Clashes entries := by
  rw [← List.nodup_map_iff (Option.some_injective String), ← map_keyText?_eq h]
  constructor
  · rintro hnodup ⟨e, he, f, hf, hclash⟩
    exact hclash.ne (congrArg Prod.fst (List.inj_on_of_nodup_map hnodup he hf hclash.keyText?_eq))
  · intro hclash
    rw [List.Nodup, List.pairwise_map]
    refine hkeys.distinct.imp_of_mem fun {e f} he hf hdistinct heq => ?_
    obtain ⟨m, -, hkey, -⟩ := exists_partner_of_mem h he
    rcases clash_of_keyText?_eq (hkeys.proper e he) (hkeys.proper f hf) hdistinct hkey (heq ▸ hkey) with hef | hfe
    · exact hclash ⟨e, he, f, hf, hef⟩
    · exact hclash ⟨f, hf, e, he, hfe⟩

theorem keeps_of_nodup (h : List.Forall₂ Converts entries members) (hnodup : (OrderedMap.keys members).Nodup) :
    Keeps entries members where
  inOrder := h
  found e he := by
    obtain ⟨m, hm, hkey, ht⟩ := exists_partner_of_mem h he
    exact ⟨m.1, m.2, hkey, ht, OrderedMap.get?_of_mem hnodup hm⟩

/-- A mapping with distinct keys keeps all its entries exactly if no two of them clash. -/
theorem keeps_ofEntries_iff (hkeys : HasDistinctKeys entries) (h : List.Forall₂ Converts entries members) :
    Keeps entries (OrderedMap.ofEntries members) ↔ ¬ Clashes entries := by
  constructor
  · intro hkeeps
    -- an object never has a key twice, and here its keys are those of all entries
    rw [← nodup_keys_iff hkeys hkeeps.inOrder]
    exact OrderedMap.nodup_keys_ofEntries members
  · intro hclash
    have hnodup := (nodup_keys_iff hkeys h).2 hclash
    rw [OrderedMap.ofEntries_of_nodup hnodup]
    exact keeps_of_nodup h hnodup

end Mappings

/-! ### Parts of a value -/

/-- What is true of the entries of every mapping in a value, but for what is in keys. -/
inductive Throughout (P : List (Value × Value) → Prop) : Value → Prop
  | null : Throughout P .null
  | bool (b : Bool) : Throughout P (.bool b)
  | number (n : Numeral) : Throughout P (.number n)
  | string (s : String) : Throughout P (.string s)
  | sequence {items : List Value} (h : ∀ v ∈ items, Throughout P v) : Throughout P (.sequence items)
  | mapping {entries : List (Value × Value)} (h : P entries) (hvalues : ∀ e ∈ entries, Throughout P e.2) :
    Throughout P (.mapping entries)
  | tagged {tag : String} {v : Value} (h : Throughout P v) : Throughout P (.tagged tag v)

/-- `v.Leads P path w` says that `w` is what the path leads to, by positions and by the strings of keys, through mappings
for whose entries `P` is true. -/
inductive Leads (P : List (Value × Value) → Prop) : Value → Pointer → Value → Prop
  | here (v : Value) : Leads P v [] v
  | tagged {tag : String} {v w : Value} {path : Pointer} (h : Leads P v path w) : Leads P (.tagged tag v) path w
  | item {items : List Value} {i : Nat} {v w : Value} {path : Pointer} (hv : items[i]? = some v)
    (h : Leads P v path w) : Leads P (.sequence items) (.index i :: path) w
  | entry {entries : List (Value × Value)} {e : Value × Value} {key : String} {w : Value} {path : Pointer}
    (hentries : P entries) (he : e ∈ entries) (hkey : e.1.keyText? = some key) (h : Leads P e.2 path w) :
    Leads P (.mapping entries) (.key key :: path) w

variable {P Q : List (Value × Value) → Prop} {v w : Value} {path : Pointer} {t : Tree}

theorem Leads.throughout (h : v.Leads Q path w) (hv : v.Throughout P) : w.Throughout P := by
  induction h with
  | here => exact hv
  | tagged _ ih =>
    cases hv with
    | tagged hv => exact ih hv
  | item hi _ ih =>
    cases hv with
    | sequence hv => exact ih (hv _ (List.mem_of_getElem? hi))
  | entry _ he _ _ ih =>
    cases hv with
    | mapping _ hv => exact ih (hv _ he)

/-- Every part of a value with a tree has a tree. -/
theorem Leads.exists_toTree (h : v.Leads Q path w) (ht : v.toTree = .ok t) : ∃ u, w.toTree = .ok u := by
  induction h generalizing t with
  | here => exact ⟨t, ht⟩
  | tagged _ ih => exact ih (by rwa [toTree] at ht)
  | item hi _ ih =>
    obtain ⟨trees, htrees, -⟩ := toTree_sequence_eq_ok_iff.1 ht
    obtain ⟨u, -, hu⟩ := exists_partner htrees hi
    exact ih hu
  | entry _ he _ _ ih =>
    obtain ⟨members, hmembers, -⟩ := toTree_mapping_eq_ok_iff.1 ht
    obtain ⟨m, -, -, hm⟩ := exists_partner_of_mem hmembers he
    exact ih hm

/-- Where no keys clash on the way to a part, its tree stands at the same pointer. -/
theorem Leads.follow? (h : v.Leads (fun entries => ¬ Clashes entries) path w) (hv : v.Throughout HasDistinctKeys)
    (ht : v.toTree = .ok t) : ∃ u, w.toTree = .ok u ∧ t.follow? path = some u := by
  induction h generalizing t with
  | here => exact ⟨t, ht, rfl⟩
  | tagged _ ih =>
    cases hv with
    | tagged hv => exact ih hv (by rwa [toTree] at ht)
  | @item items i v w path hi _ ih =>
    cases hv with
    | sequence hv =>
      obtain ⟨trees, htrees, rfl⟩ := toTree_sequence_eq_ok_iff.1 ht
      obtain ⟨child, hchild, hconverts⟩ := exists_partner htrees hi
      obtain ⟨u, hu, hfollow⟩ := ih (hv _ (List.mem_of_getElem? hi)) hconverts
      refine ⟨u, hu, ?_⟩
      rw [Tree.follow?_cons, Tree.step?, hchild, Option.bind_some, hfollow]
  | @entry entries e key w path hclash he hkey _ ih =>
    cases hv with
    | mapping hkeys hv =>
      obtain ⟨members, hmembers, rfl⟩ := toTree_mapping_eq_ok_iff.1 ht
      obtain ⟨key', child, hkey', hconverts, hget⟩ := ((keeps_ofEntries_iff hkeys hmembers).2 hclash).found e he
      obtain ⟨u, hu, hfollow⟩ := ih (hv _ he) hconverts
      refine ⟨u, hu, ?_⟩
      rw [hkey, Option.some.injEq] at hkey'
      rw [Tree.follow?_cons, Tree.step?, hkey', hget, Option.bind_some, hfollow]

/-- In a value with a tree, all of whose mappings have distinct keys, every mapping becomes an object: the members made of
its entries, of which those with the same key become one, with the first place and the last value.  The object keeps
all entries exactly if no string is a key beside the number or the truth value that becomes this string.  Whatever is
reached through mappings without such keys is found in the tree. -/
theorem toTree_keeps (hkeys : v.Throughout HasDistinctKeys) (ht : v.toTree = .ok t) :
    (∀ path entries, v.Leads (fun _ => True) path (.mapping entries) →
      ∃ members, List.Forall₂ Converts entries members ∧
        (Value.mapping entries).toTree = .ok (.object (OrderedMap.ofEntries members)) ∧
        (Keeps entries (OrderedMap.ofEntries members) ↔ ¬ Clashes entries)) ∧
    ∀ path w, v.Leads (fun entries => ¬ Clashes entries) path w → ∃ u, w.toTree = .ok u ∧ t.follow? path = some u := by
  refine ⟨fun path entries hpath => ?_, fun path w hpath => hpath.follow? hkeys ht⟩
  obtain ⟨u, hu⟩ := hpath.exists_toTree ht
  obtain ⟨members, hmembers, rfl⟩ := toTree_mapping_eq_ok_iff.1 hu
  cases hpath.throughout hkeys with
  | mapping hdistinct => exact ⟨members, hmembers, hu, keeps_ofEntries_iff hdistinct hmembers⟩

/-- Two keys of different kinds that become the same string. -/
def clashingEntries : List (Value × Value) := [(.string "1", .string "a"), (.number (.int 1), .string "b")]

/-- The integer 1 and the double 1.5 as keys, with clashing keys below the first. -/
def mixedKeys : Value :=
  .mapping [(.number (.int 1), .mapping clashingEntries),
    (.number (.real (.finite ⟨false, 6755399441055744, -52⟩)), .null)]

theorem clashes_clashingEntries : Clashes clashingEntries :=
  ⟨_, List.mem_cons_self, _, List.mem_cons_of_mem _ List.mem_cons_self, .number (.int 1)⟩

theorem hasDistinctKeys_clashingEntries : HasDistinctKeys clashingEntries where
  distinct := by simp [clashingEntries, same]
  proper := by
    intro e he n hn
    simp only [clashingEntries, List.mem_cons, List.not_mem_nil, or_false] at he
    rcases he with rfl | rfl <;> cases hn
    trivial

theorem not_clashes_mixedKeys : ¬ Clashes [(.number (.int 1), .mapping clashingEntries),
    (.number (.real (.finite ⟨false, 6755399441055744, -52⟩)), .null)] := by
  rintro ⟨e, he, f, -, hclash⟩
  simp only [List.mem_cons, List.not_mem_nil, or_false] at he
  rcases he with rfl | rfl <;> cases hclash

theorem throughout_mixedKeys : mixedKeys.Throughout HasDistinctKeys := by
  refine .mapping ⟨by simp [same, Numeral.same], ?_⟩ ?_
  · intro e he n hn
    simp only [List.mem_cons, List.not_mem_nil, or_false] at he
    rcases he with rfl | rfl <;> cases hn
    · trivial
    · exact ⟨by decide, by decide, by decide, by decide⟩
  · simp only [List.forall_mem_cons, List.not_mem_nil, false_imp_iff, implies_true, and_true]
    refine ⟨.mapping hasDistinctKeys_clashingEntries ?_, .null⟩
    simp only [clashingEntries, List.forall_mem_cons, List.not_mem_nil, false_imp_iff, implies_true, and_true]
    exact ⟨.string _, .string _⟩

/-- The mapping below the key 1 is found under the string `1`, and has lost its first value. -/
theorem toTree_keeps_mixedKeys : mixedKeys.Throughout HasDistinctKeys ∧
    ∃ t, mixedKeys.toTree = .ok t ∧ t.follow? [.key "1"] = some (.object [("1", .string "b")]) ∧
      ¬ Keeps clashingEntries [("1", .string "b")] := by
  have ht : mixedKeys.toTree = .ok _ := rfl
  have hinner : (Value.mapping clashingEntries).toTree = .ok (.object [("1", .string "b")]) := rfl
  obtain ⟨hmappings, hparts⟩ := toTree_keeps throughout_mixedKeys ht
  refine ⟨throughout_mixedKeys, _, ht, ?_, ?_⟩
  · obtain ⟨u, hu, hfollow⟩ := hparts [.key "1"] (.mapping clashingEntries)
      (.entry not_clashes_mixedKeys List.mem_cons_self rfl (.here _))
    rw [hinner] at hu
    cases hu
    exact hfollow
  · obtain ⟨members, -, hmembers, hkeeps⟩ := hmappings [.key "1"] clashingEntries
      (.entry trivial List.mem_cons_self rfl (.here _))
    rw [hinner, Except.ok.injEq, Tree.object.injEq] at hmembers
    rw [hmembers, hkeeps]
    exact not_not_intro clashes_clashingEntries

end Value

end YamlSchema.Yaml
