import YamlSchema.Proofs.Traversal
import YamlSchema.Yaml.Value

/-!
# The tree of a YAML value

A place in a value says which part of it is meant, then which part of that, and so on; the parts of a mapping are its keys
and its values, each key right before its value.  No tree holds a part that is a key of the wrong kind or a number that is
not finite, and of these the first one, in the order of the places, is what a value without a tree is refused for
(`toTree_answers`).  Otherwise the tree is the one that holds the value (`HeldBy`), in which nothing but the tags and the
merged entries of mappings is missing.
-/

namespace YamlSchema.Yaml

/-- Keys of these kinds become strings. -/
def Value.IsScalarKey : Value → Prop
  | .string _ | .number _ | .bool _ => True
  | .null | .sequence _ | .mapping _ | .tagged _ _ => False

def Numeral.IsFinite : Numeral → Prop
  | .int _ | .real (.finite _) => True
  | .real (.infinite _) | .real .notANumber => False

theorem Value.keyText?_eq_none_iff {k : Value} : k.keyText? = none ↔ ¬ k.IsScalarKey := by
  cases k <;> simp [keyText?, IsScalarKey]

theorem Numeral.toNumber?_eq_none_iff {n : Numeral} : n.toNumber? = none ↔ ¬ n.IsFinite := by
  cases n with
  | int => simp [toNumber?, IsFinite]
  | real x => cases x <;> simp [toNumber?, IsFinite]

/-! ### Places -/

/-- A part of a value. -/
inductive Part where
  | key (k : Value)
  | value (v : Value)

namespace Part

/-- What is directly in a part, in document order. -/
def parts : Part → List Part
  | key v | value v => match v with
    | .sequence items => items.map value
    | .mapping entries => entries.flatMap fun e => [key e.1, value e.2]
    | .tagged _ v => [value v]
    | .null | .bool _ | .number _ | .string _ => []

/-- What is at a place: in the part with the first number, at the rest of the place. -/
def at? (p : Part) : List Nat → Option Part
  | [] => some p
  | i :: place => p.parts[i]?.bind fun q => q.at? place

/-- No tree holds a part, whatever is in it. -/
inductive Refused : Part → Unrepresentable → Prop
  | key {k : Value} (h : ¬ k.IsScalarKey) : Refused (key k) (.key k)
  | number {n : Numeral} (h : ¬ n.IsFinite) : Refused (value (.number n)) (.number n)

/-- A refused part is at a place. -/
def FaultAt (p : Part) (place : List Nat) (e : Unrepresentable) : Prop := ∃ q, p.at? place = some q ∧ q.Refused e

end Part

/-- A place comes before another one, or is the same. -/
def NotBehind : List Nat → List Nat → Prop
  | [], _ => True
  | _ :: _, [] => False
  | i :: place, j :: other => i < j ∨ i = j ∧ NotBehind place other

namespace Part

/-- The first fault of a part. -/
def First (p : Part) (e : Unrepresentable) : Prop :=
  ∃ place, p.FaultAt place e ∧ ∀ other e', p.FaultAt other e' → NotBehind place other

def IsSound (p : Part) : Prop := ∀ place e, ¬ p.FaultAt place e

/-! ### The first fault, part by part -/

theorem Refused.unique {p : Part} {e e' : Unrepresentable} (h : p.Refused e) (h' : p.Refused e') : e = e' := by
  cases h <;> cases h' <;> rfl

theorem notBehind_antisymm {place other : List Nat} (h : NotBehind place other) (h' : NotBehind other place) :
    place = other := by
  induction place generalizing other with
  | nil =>
    cases other with
    | nil => rfl
    | cons => exact h'.elim
  | cons i place ih =>
    cases other with
    | nil => exact h.elim
    | cons j other =>
      rcases h with h | ⟨rfl, h⟩
      · rcases h' with h' | ⟨rfl, -⟩ <;> omega
      · rcases h' with h' | ⟨-, h'⟩
        · omega
        · rw [ih h h']

theorem First.unique {p : Part} {e e' : Unrepresentable} (h : p.First e) (h' : p.First e') : e = e' := by
  obtain ⟨place, ⟨q, hq, hrefused⟩, hfirst⟩ := h
  obtain ⟨other, ⟨r, hr, hrefused'⟩, hfirst'⟩ := h'
  have hplace := notBehind_antisymm (hfirst other e' ⟨r, hr, hrefused'⟩) (hfirst' place e ⟨q, hq, hrefused⟩)
  rw [← hplace, hq, Option.some.injEq] at hr
  exact hrefused.unique (hr ▸ hrefused')

theorem First.not_isSound {p : Part} {e : Unrepresentable} (h : p.First e) : ¬ p.IsSound :=
  fun hsound => h.elim fun place hplace => hsound place e hplace.1

theorem Refused.first {p : Part} {e : Unrepresentable} (h : p.Refused e) : p.First e :=
  ⟨[], ⟨p, rfl, h⟩, fun _ _ _ => trivial⟩

theorem faultAt_cons_iff {p : Part} {i : Nat} {place : List Nat} {e : Unrepresentable} :
    p.FaultAt (i :: place) e ↔ ∃ q, p.parts[i]? = some q ∧ q.FaultAt place e := by
  simp only [FaultAt, at?, Option.bind_eq_some_iff]
  constructor
  · rintro ⟨r, ⟨q, hq, hr⟩, hrefused⟩
    exact ⟨q, hq, r, hr, hrefused⟩
  · rintro ⟨q, hq, r, hr, hrefused⟩
    exact ⟨r, ⟨q, hq, hr⟩, hrefused⟩

/-- The first fault of some parts in a row. -/
def FirstAmong (ps : List Part) (e : Unrepresentable) : Prop :=
  ∃ before q rest, ps = before ++ q :: rest ∧ (∀ r ∈ before, r.IsSound) ∧ q.First e

theorem First.among {p : Part} {e : Unrepresentable} (h : p.First e) (rest : List Part) : FirstAmong (p :: rest) e :=
  ⟨[], p, rest, rfl, List.forall_mem_nil _, h⟩

theorem FirstAmong.cons {p : Part} {ps : List Part} {e : Unrepresentable} (hp : p.IsSound) (h : FirstAmong ps e) :
    FirstAmong (p :: ps) e := by
  obtain ⟨before, q, rest, rfl, hbefore, hq⟩ := h
  exact ⟨p :: before, q, rest, rfl, List.forall_mem_cons.2 ⟨hp, hbefore⟩, hq⟩

/-- Where a part is not refused itself, its first fault is that of its parts. -/
theorem FirstAmong.first {p : Part} {e : Unrepresentable} (hown : ∀ e, ¬ p.Refused e) (h : FirstAmong p.parts e) :
    p.First e := by
  obtain ⟨before, q, rest, hparts, hbefore, place, hplace, hfirst⟩ := h
  have hq : p.parts[before.length]? = some q := by simp [hparts]
  refine ⟨before.length :: place, faultAt_cons_iff.2 ⟨q, hq, hplace⟩, fun other e' hother => ?_⟩
  cases other with
  | nil =>
    obtain ⟨r, hr, hrefused⟩ := hother
    cases hr
    exact hown e' hrefused
  | cons j other =>
    obtain ⟨r, hr, hother⟩ := faultAt_cons_iff.1 hother
    rcases Nat.lt_trichotomy before.length j with hj | rfl | hj
    · exact .inl hj
    · obtain rfl := Option.some.inj (hq.symm.trans hr)
      exact .inr ⟨rfl, hfirst other e' hother⟩
    · -- the parts before have no fault
      rw [hparts, List.getElem?_append_left hj] at hr
      exact absurd hother (hbefore r (List.mem_of_getElem? hr) other e')

theorem isSound_of_parts {p : Part} (hown : ∀ e, ¬ p.Refused e) (h : ∀ q ∈ p.parts, q.IsSound) : p.IsSound := by
  intro place e hplace
  cases place with
  | nil =>
    obtain ⟨q, hq, hrefused⟩ := hplace
    cases hq
    exact hown e hrefused
  | cons i place =>
    obtain ⟨q, hq, hplace⟩ := faultAt_cons_iff.1 hplace
    exact h q (List.mem_of_getElem? hq) place e hplace

end Part

/-! ### Conversion -/

namespace Value

variable {α : Type}

/-- An answer says of a part that it is sound, or what is its first fault. -/
def Tells (p : Part) : Except Unrepresentable α → Prop
  | .error e => p.First e
  | .ok _ => p.IsSound

/-- An answer says of parts in a row that they are sound, or what is their first fault. -/
def TellsAll (ps : List Part) : Except Unrepresentable α → Prop
  | .error e => Part.FirstAmong ps e
  | .ok _ => ∀ p ∈ ps, p.IsSound

theorem TellsAll.nil (x : α) : TellsAll [] (Except.ok x : Except Unrepresentable α) := List.forall_mem_nil _

/-- What is told of a part and of those behind it, if the first answer that is an error ends the questions. -/
theorem Tells.bind {β : Type} {p : Part} {ps : List Part} {r : Except Unrepresentable α}
    {next : α → Except Unrepresentable β} (h : Tells p r) (hnext : ∀ x, TellsAll ps (next x)) :
    TellsAll (p :: ps) (r >>= next) := by
  cases r with
  | error e => exact Part.First.among h ps
  | ok x =>
    have hrest := hnext x
    change TellsAll (p :: ps) (next x)
    cases hx : next x with
    | error e =>
      rw [hx] at hrest
      exact Part.FirstAmong.cons h hrest
    | ok y =>
      rw [hx] at hrest
      exact List.forall_mem_cons.2 ⟨h, hrest⟩

theorem TellsAll.map {β : Type} {ps : List Part} {r : Except Unrepresentable α} (h : TellsAll ps r) (f : α → β) :
    TellsAll ps (r >>= fun x => pure (f x)) := by
  cases r with
  | error e => exact h
  | ok x => exact h

/-- What is told of the parts of a part that is not refused itself. -/
theorem TellsAll.tells {p : Part} {r : Except Unrepresentable α} (h : TellsAll p.parts r)
    (hown : ∀ e, ¬ p.Refused e) : Tells p r := by
  cases r with
  | error e => exact Part.FirstAmong.first hown h
  | ok x => exact Part.isSound_of_parts hown h

/-- The string that a key becomes, or the complaint about it. -/
def asKey (k : Value) : Except Unrepresentable String := k.keyText?.elim (.error (.key k)) .ok

theorem membersOf_cons (k v : Value) (rest : List (Value × Value)) : membersOf ((k, v) :: rest) =
    (asKey k >>= fun key => v.toTree >>= fun t => membersOf rest >>= fun ts => pure ((key, t) :: ts)) := by
  rw [membersOf, asKey]
  cases k.keyText? <;> rfl

theorem treesOf_cons (v : Value) (rest : List Value) :
    treesOf (v :: rest) = (v.toTree >>= fun t => treesOf rest >>= fun ts => pure (t :: ts)) := by rw [treesOf]

theorem tells_asKey (k : Value) : Tells (.key k) (asKey k) := by
  rw [asKey]
  cases htext : k.keyText? with
  | none => exact (Part.Refused.key (keyText?_eq_none_iff.1 htext)).first
  | some key =>
    refine Part.isSound_of_parts ?_ ?_
    · rintro _ ⟨hrefused⟩
      rw [keyText?_eq_none_iff.2 hrefused] at htext
      cases htext
    · cases k <;> simp [keyText?, Part.parts] at htext ⊢

theorem tells_number (n : Numeral) : Tells (.value (.number n)) (toTree (.number n)) := by
  rw [toTree]
  cases hnumber : n.toNumber? with
  | none => exact (Part.Refused.number (Numeral.toNumber?_eq_none_iff.1 hnumber)).first
  | some m =>
    refine Part.isSound_of_parts ?_ (List.forall_mem_nil _)
    rintro _ ⟨⟩
    rename_i hrefused
    rw [Numeral.toNumber?_eq_none_iff.2 hrefused] at hnumber
    cases hnumber

theorem not_refused {v : Value} (h : ∀ n, v ≠ .number n) (e : Unrepresentable) : ¬ (Part.value v).Refused e := by
  rintro ⟨⟩
  exact h _ rfl

mutual

/-- A value is refused for its first fault. -/
theorem tells_toTree : (v : Value) → Tells (.value v) v.toTree
  | .null => Part.isSound_of_parts (not_refused nofun) (List.forall_mem_nil _)
  | .bool _ => Part.isSound_of_parts (not_refused nofun) (List.forall_mem_nil _)
  | .number n => tells_number n
  | .string _ => Part.isSound_of_parts (not_refused nofun) (List.forall_mem_nil _)
  | .sequence items => by
    rw [toTree]
    exact TellsAll.tells (p := .value (.sequence items)) ((tellsAll_treesOf items).map _) (not_refused nofun)
  | .mapping entries => by
    rw [toTree]
    exact TellsAll.tells (p := .value (.mapping entries)) ((tellsAll_membersOf entries).map _) (not_refused nofun)
  | .tagged tag v => by
    -- a tagged value has one part, the value, and is not refused itself
    have h : TellsAll [.value v] (v.toTree >>= fun t => pure t) := (tells_toTree v).bind fun t => .nil t
    rw [toTree]
    rw [bind_pure] at h
    exact TellsAll.tells (p := .value (.tagged tag v)) h (not_refused nofun)

theorem tellsAll_treesOf : (items : List Value) → TellsAll (items.map Part.value) (treesOf items)
  | [] => .nil _
  | v :: rest => by
    rw [treesOf_cons]
    exact (tells_toTree v).bind fun t => (tellsAll_treesOf rest).map _

theorem tellsAll_membersOf : (entries : List (Value × Value)) →
    TellsAll (entries.flatMap fun e => [.key e.1, .value e.2]) (membersOf entries)
  | [] => .nil _
  | (k, v) :: rest => by
    rw [membersOf_cons]
    exact (tells_asKey k).bind fun key => (tells_toTree v).bind fun t => (tellsAll_membersOf rest).map _

end

/-- The first fault of a value. -/
theorem toTree_eq_error_iff {v : Value} {e : Unrepresentable} : v.toTree = .error e ↔ (Part.value v).First e := by
  have h := tells_toTree v
  cases hv : v.toTree with
  | error e' =>
    rw [hv] at h
    exact ⟨fun heq => Except.error.inj heq ▸ h, fun hfirst => congrArg _ (Part.First.unique h hfirst)⟩
  | ok t =>
    rw [hv] at h
    exact ⟨nofun, fun hfirst => absurd h hfirst.not_isSound⟩

theorem exists_toTree_eq_error_iff {v : Value} :
    (∃ e, v.toTree = .error e) ↔ ∃ place e, (Part.value v).FaultAt place e := by
  have h := tells_toTree v
  constructor
  · rintro ⟨e, hv⟩
    rw [hv] at h
    obtain ⟨place, hplace, -⟩ := h
    exact ⟨place, e, hplace⟩
  · rintro ⟨place, e, hplace⟩
    cases hv : v.toTree with
    | error e' => exact ⟨e', rfl⟩
    | ok t =>
      rw [hv] at h
      exact absurd hplace (h place e)

/-! ### What is held -/

mutual

/-- A tree holds a value: integers and doubles with what they are, items in their order, and the entries of a mapping
one after the other under their keys. -/
inductive HeldBy : Value → Tree → Prop
  | null : HeldBy .null .null
  | bool (b : Bool) : HeldBy (.bool b) (.bool b)
  | int (i : Int) : HeldBy (.number (.int i)) (.number (.int i))
  | real (x : Double) : HeldBy (.number (.real (.finite x))) (.number (.real x))
  | string (s : String) : HeldBy (.string s) (.string s)
  | sequence {items : List Value} {trees : List Tree} (h : AllHeldBy items trees) :
    HeldBy (.sequence items) (.array trees)
  | mapping {entries : List (Value × Value)} {members : List (String × Tree)} (h : EntriesHeldBy entries members) :
    HeldBy (.mapping entries) (.object (OrderedMap.ofEntries members))
  | tagged {tag : String} {v : Value} {t : Tree} (h : HeldBy v t) : HeldBy (.tagged tag v) t

/-- As many trees as values, each holding its value. -/
inductive AllHeldBy : List Value → List Tree → Prop
  | nil : AllHeldBy [] []
  | cons {v : Value} {t : Tree} {items : List Value} {trees : List Tree} (h : HeldBy v t)
    (hrest : AllHeldBy items trees) : AllHeldBy (v :: items) (t :: trees)

inductive EntriesHeldBy : List (Value × Value) → List (String × Tree) → Prop
  | nil : EntriesHeldBy [] []
  | cons {k v : Value} {key : String} {t : Tree} {entries : List (Value × Value)} {members : List (String × Tree)}
    (hkey : k.keyText? = some key) (h : HeldBy v t) (hrest : EntriesHeldBy entries members) :
    EntriesHeldBy ((k, v) :: entries) ((key, t) :: members)

end

theorem asKey_eq_ok_iff {k : Value} {key : String} : asKey k = .ok key ↔ k.keyText? = some key := by
  rw [asKey]
  cases k.keyText? <;> simp

theorem toTree_number_eq_ok_iff {n : Numeral} {t : Tree} :
    toTree (.number n) = .ok t ↔ HeldBy (.number n) t := by
  rw [toTree]
  constructor
  · intro h
    cases n with
    | int i =>
      cases h
      exact .int i
    | real x =>
      cases x with
      | finite x =>
        cases h
        exact .real x
      | infinite => cases h
      | notANumber => cases h
  · rintro ⟨⟩ <;> rfl

mutual

/-- The tree of a value is the one that holds it. -/
theorem toTree_eq_ok_iff : (v : Value) → (t : Tree) → (v.toTree = .ok t ↔ v.HeldBy t)
  | .null, t => ⟨by rintro ⟨⟩; exact .null, by rintro ⟨⟩; rfl⟩
  | .bool b, t => ⟨by rintro ⟨⟩; exact .bool b, by rintro ⟨⟩; rfl⟩
  | .number n, t => toTree_number_eq_ok_iff
  | .string s, t => ⟨by rintro ⟨⟩; exact .string s, by rintro ⟨⟩; rfl⟩
  | .sequence items, t => by
    rw [toTree, bind_eq_ok_iff]
    simp only [pure_eq_ok_iff, treesOf_eq_ok_iff]
    constructor
    · rintro ⟨trees, h, rfl⟩
      exact .sequence h
    · rintro ⟨⟩
      exact ⟨_, ‹_›, rfl⟩
  | .mapping entries, t => by
    rw [toTree, bind_eq_ok_iff]
    simp only [pure_eq_ok_iff, membersOf_eq_ok_iff]
    constructor
    · rintro ⟨members, h, rfl⟩
      exact .mapping h
    · rintro ⟨⟩
      exact ⟨_, ‹_›, rfl⟩
  | .tagged tag v, t => by
    rw [toTree, toTree_eq_ok_iff v t]
    exact ⟨.tagged, by rintro ⟨⟩; assumption⟩

theorem treesOf_eq_ok_iff : (items : List Value) → (trees : List Tree) →
    (treesOf items = .ok trees ↔ AllHeldBy items trees)
  | [], trees => ⟨by rintro ⟨⟩; exact .nil, by rintro ⟨⟩; rfl⟩
  | v :: rest, trees => by
    simp only [treesOf_cons, bind_eq_ok_iff, pure_eq_ok_iff, toTree_eq_ok_iff v, treesOf_eq_ok_iff rest]
    constructor
    · rintro ⟨t, ht, trees, hrest, rfl⟩
      exact .cons ht hrest
    · rintro ⟨⟩
      exact ⟨_, ‹_›, _, ‹_›, rfl⟩

theorem membersOf_eq_ok_iff : (entries : List (Value × Value)) → (members : List (String × Tree)) →
    (membersOf entries = .ok members ↔ EntriesHeldBy entries members)
  | [], members => ⟨by rintro ⟨⟩; exact .nil, by rintro ⟨⟩; rfl⟩
  | (k, v) :: rest, members => by
    simp only [membersOf_cons, bind_eq_ok_iff, pure_eq_ok_iff, asKey_eq_ok_iff, toTree_eq_ok_iff v,
      membersOf_eq_ok_iff rest]
    constructor
    · rintro ⟨key, hkey, t, ht, members, hrest, rfl⟩
      exact .cons hkey ht hrest
    · rintro ⟨⟩
      exact ⟨_, ‹_›, _, ‹_›, _, ‹_›, rfl⟩

end

/-! ### Tags -/

mutual

/-- A value without the tags on it and on what is in it; keys stay as they are. -/
def untagged : Value → Value
  | .sequence items => .sequence (untaggedItems items)
  | .mapping entries => .mapping (untaggedEntries entries)
  | .tagged _ v => v.untagged
  | .null => .null
  | .bool b => .bool b
  | .number n => .number n
  | .string s => .string s

def untaggedItems : List Value → List Value
  | [] => []
  | v :: rest => v.untagged :: untaggedItems rest

def untaggedEntries : List (Value × Value) → List (Value × Value)
  | [] => []
  | (k, v) :: rest => (k, v.untagged) :: untaggedEntries rest

end

mutual

theorem toTree_untagged : (v : Value) → v.untagged.toTree = v.toTree
  | .null | .bool _ | .number _ | .string _ => rfl
  | .sequence items => by rw [untagged, toTree, toTree, treesOf_untaggedItems items]
  | .mapping entries => by rw [untagged, toTree, toTree, membersOf_untaggedEntries entries]
  | .tagged _ v => by rw [untagged, toTree, toTree_untagged v]

theorem treesOf_untaggedItems : (items : List Value) → treesOf (untaggedItems items) = treesOf items
  | [] => rfl
  | v :: rest => by
    rw [untaggedItems, treesOf_cons, treesOf_cons, toTree_untagged v, treesOf_untaggedItems rest]

theorem membersOf_untaggedEntries : (entries : List (Value × Value)) →
    membersOf (untaggedEntries entries) = membersOf entries
  | [] => rfl
  | (k, v) :: rest => by
    rw [untaggedEntries, membersOf_cons, membersOf_cons, toTree_untagged v, membersOf_untaggedEntries rest]

end

/-- A value has no tree just if there is a key in it that is no untagged string, number or truth value, or a number that
is not finite and no key, and then the first of these in document order is what it is refused for; otherwise its tree
is the one that holds it.  Tags on values make no difference. -/
theorem toTree_answers (v : Value) :
    ((∃ e, v.toTree = .error e) ↔ ∃ place e, (Part.value v).FaultAt place e) ∧
    (∀ e, v.toTree = .error e ↔ (Part.value v).First e) ∧
    (∀ t, v.toTree = .ok t ↔ v.HeldBy t) ∧
    v.untagged.toTree = v.toTree :=
  ⟨exists_toTree_eq_error_iff, fun _ => toTree_eq_error_iff, toTree_eq_ok_iff v, toTree_untagged v⟩

end Value

end YamlSchema.Yaml
