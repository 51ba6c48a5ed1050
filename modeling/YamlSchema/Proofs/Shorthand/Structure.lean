import Mathlib.Logic.Function.Iterate
import YamlSchema.Proofs.Shorthand.Outline
import YamlSchema.Proofs.Tree.Shape

/-!
# The structure of what is written out

A key of shorthand becomes a property, so what stands `Below` some keys is found behind as many properties, written out
by itself (`follow?_inflate`): a mapping with its keys, a name with a sequence for each suffix, literals and full schemas
as they are (`inflate_below`).  Then nothing is left to write out (`isFull_inflate`).
-/

namespace YamlSchema.Shorthand

/-! ### Suffixes -/

/-- The suffix of a name, some times in a row. -/
def suffixes : Nat → String
  | 0 => ""
  | m + 1 => suffixes m ++ "[]"

theorem append_suffixes_succ (base : String) (m : Nat) : base ++ suffixes (m + 1) = base ++ suffixes m ++ "[]" := by
  rw [suffixes, String.append_assoc]

theorem exists_base (name : String) : ∃ base m, IsBase base ∧ name = base ++ suffixes m := by
  induction name using name_induction with
  | hbase name h => exact ⟨name, 0, h, by rw [suffixes, String.append_empty]⟩
  | hsuffix n ih =>
    obtain ⟨base, m, hbase, rfl⟩ := ih
    exact ⟨base, m + 1, hbase, (append_suffixes_succ base m).symm⟩

/-- A name has one base, and one number of suffixes. -/
theorem append_suffixes_inj {base other : String} (hbase : IsBase base) (hother : IsBase other) {m k : Nat}
    (h : base ++ suffixes m = other ++ suffixes k) : base = other ∧ m = k := by
  induction m generalizing k with
  | zero =>
    rw [suffixes, String.append_empty] at h
    cases k with
    | zero => exact ⟨by rw [h, suffixes, String.append_empty], rfl⟩
    | succ k => exact absurd (h.trans (append_suffixes_succ other k)) (hbase _)
  | succ m ih =>
    rw [append_suffixes_succ] at h
    cases k with
    | zero =>
      rw [suffixes, String.append_empty] at h
      exact absurd h.symm (hother _)
    | succ k =>
      rw [append_suffixes_succ] at h
      obtain ⟨heq, hm⟩ := ih (append_suffix_inj h)
      exact ⟨heq, congrArg _ hm⟩

/-- A name with some suffixes becomes as many sequences. -/
theorem ofName_append_suffixes {base : String} (h : IsBase base) (m : Nat) :
    ofName (base ++ suffixes m) = sequenceOf^[m] (ofBase base) := by
  induction m with
  | zero => rw [suffixes, String.append_empty, ofName_of_isBase h, Function.iterate_zero, id]
  | succ m ih => rw [append_suffixes_succ, ofName_append, ih, Function.iterate_succ_apply']

/-! ### Keys -/

/-- A mapping has a text as its type. -/
def HasTypeName (ms : OrderedMap Tree) : Prop := ∃ name, OrderedMap.get? ms "type" = some (.string name)

theorem isFullSchema_iff {ms : OrderedMap Tree} : isFullSchema ms = true ↔ HasTypeName ms := by
  rw [isFullSchema, Option.any_eq_true]
  constructor
  · rintro ⟨t, ht, hstring⟩
    cases t with
    | string name => exact ⟨name, ht⟩
    | _ => cases hstring
  · rintro ⟨name, hname⟩
    exact ⟨.string name, hname, rfl⟩

/-- What stands behind some keys of shorthand, none of which is one of a full schema. -/
inductive Below : Tree → List String → Tree → Prop
  | here (t : Tree) : Below t [] t
  | member {ms : OrderedMap Tree} {key : String} {keys : List String} {t part : Tree} (hfull : ¬ HasTypeName ms)
      (ht : OrderedMap.get? ms key = some t) (h : Below t keys part) : Below (.object ms) (key :: keys) part

/-- The way through the properties with some names. -/
def wayTo (keys : List String) : Pointer := keys.flatMap fun key => [.key "properties", .key key]

theorem inflate_object {ms : OrderedMap Tree} (h : ¬ HasTypeName ms) :
    inflate (.object ms) = mappingOf (inflateMembers ms) (OrderedMap.keys ms) := by
  rw [inflate, if_neg (isFullSchema_iff.not.2 h)]

theorem get?_inflateMembers (ms : OrderedMap Tree) (key : String) :
    OrderedMap.get? (inflateMembers ms) key = (OrderedMap.get? ms key).map inflate := by
  rw [inflateMembers_eq_map]
  exact OrderedMap.get?_mapValues inflate ms key

theorem keys_inflateMembers (ms : OrderedMap Tree) : OrderedMap.keys (inflateMembers ms) = OrderedMap.keys ms := by
  rw [inflateMembers_eq_map, OrderedMap.keys, List.map_map]
  rfl

/-- What stands below some keys is written out behind their properties. -/
theorem follow?_inflate {raw part : Tree} {keys : List String} (h : Below raw keys part) :
    (inflate raw).follow? (wayTo keys) = some (inflate part) := by
  induction h with
  | here t => rfl
  | @member ms key keys t part hfull ht _ ih =>
    have hproperties : (inflate (.object ms)).step? (.key "properties") = some (.object (inflateMembers ms)) := by
      rw [inflate_object hfull]
      rfl
    have hkey : (Tree.object (inflateMembers ms)).step? (.key key) = some (inflate t) := by
      rw [Tree.step?, get?_inflateMembers, ht, Option.map_some]
    rw [wayTo, List.flatMap_cons, List.cons_append, Tree.follow?_cons, hproperties, Option.bind_some, List.cons_append,
      Tree.follow?_cons, hkey, Option.bind_some]
    exact ih

theorem Below.hasDistinctKeys {raw part : Tree} {keys : List String} (h : Below raw keys part)
    (hraw : raw.HasDistinctKeys) : part.HasDistinctKeys := by
  induction h with
  | here => exact hraw
  | member _ ht _ ih =>
    cases hraw with
    | object _ hms => exact ih (hms _ (OrderedMap.mem_of_get? ht))

/-! ### What is written out -/

/-- There is nothing to write out: a tree is no name, no list of literals, and no mapping but a full schema. -/
inductive IsFull : Tree → Prop
  | null : IsFull .null
  | bool (b : Bool) : IsFull (.bool b)
  | number (n : Number) : IsFull (.number n)
  | mapping {ms : OrderedMap Tree} (h : HasTypeName ms) : IsFull (.object ms)

theorem isFull_ofName (name : String) : IsFull (ofName name) := by
  induction name using name_induction with
  | hbase name h =>
    rw [ofName_of_isBase h, ofBase]
    split
    · exact .mapping ⟨name, rfl⟩
    · exact .mapping ⟨enumType, rfl⟩
  | hsuffix n _ =>
    rw [ofName_append]
    exact .mapping ⟨"array", rfl⟩

theorem isFull_inflate (t : Tree) : IsFull (inflate t) := by
  cases t with
  | null => exact .null
  | bool b => exact .bool b
  | number n => exact .number n
  | string name =>
    rw [inflate]
    exact isFull_ofName name
  | array literals =>
    rw [inflate]
    exact .mapping ⟨enumType, rfl⟩
  | object ms =>
    rw [inflate]
    split
    · rename_i hfull
      exact .mapping (isFullSchema_iff.1 hfull)
    · exact .mapping ⟨"object", rfl⟩

theorem inflate_eq_self_iff {t : Tree} : inflate t = t ↔ IsFull t := by
  constructor
  · intro h
    rw [← h]
    exact isFull_inflate t
  · intro h
    cases h with
    | mapping h => rw [inflate, if_pos (isFullSchema_iff.2 h)]
    | _ => rw [inflate] <;> simp

theorem inflate_inflate (t : Tree) : inflate (inflate t) = inflate t :=
  inflate_eq_self_iff.2 (isFull_inflate t)

/-! ### The structure -/

section

variable {raw : Tree} {keys : List String}

/-- Literals stay as they are, at every depth. -/
theorem follow?_literals {literals : List Tree} (h : Below raw keys (.array literals)) (p : Pointer) :
    (inflate raw).follow? (wayTo keys ++ .key "enum" :: p) = (Tree.array literals).follow? p := by
  rw [Tree.follow?_append, follow?_inflate h, Option.bind_some, inflate]
  rfl

/-- A full schema stays as it is, at every depth. -/
theorem follow?_full {ms : OrderedMap Tree} (h : Below raw keys (.object ms)) (hfull : HasTypeName ms) (p : Pointer) :
    (inflate raw).follow? (wayTo keys ++ p) = (Tree.object ms).follow? p := by
  rw [Tree.follow?_append, follow?_inflate h, Option.bind_some, inflate_eq_self_iff.2 (.mapping hfull)]

/-- Every other mapping asks for its keys, in their order and each once. -/
theorem follow?_mapping {ms : OrderedMap Tree} (h : Below raw keys (.object ms)) (hfull : ¬ HasTypeName ms)
    (hraw : raw.HasDistinctKeys) : ∃ properties, (inflate raw).follow? (wayTo keys) = some (.object
        [("type", .string "object"), ("properties", .object properties),
          ("required", .array ((OrderedMap.keys ms).map .string))]) ∧
      OrderedMap.keys properties = OrderedMap.keys ms ∧ (OrderedMap.keys ms).Nodup := by
  refine ⟨inflateMembers ms, ?_, keys_inflateMembers ms, ?_⟩
  · rw [follow?_inflate h, inflate_object hfull, mappingOf]
  · exact (Tree.hasDistinctKeys_object_iff.1 (h.hasDistinctKeys hraw)).1

/-- A name becomes as many sequences as it has suffixes, around the schema of its base. -/
theorem follow?_name {name : String} (h : Below raw keys (.string name)) : ∃ base m,
    IsBase base ∧ name = base ++ suffixes m ∧
      (∀ other k, IsBase other → name = other ++ suffixes k → other = base ∧ k = m) ∧
      (inflate raw).follow? (wayTo keys) = some (sequenceOf^[m] (ofBase base)) := by
  obtain ⟨base, m, hbase, rfl⟩ := exists_base name
  refine ⟨base, m, hbase, rfl, fun other k hother heq => append_suffixes_inj hother hbase heq.symm, ?_⟩
  rw [follow?_inflate h, inflate, ofName_append_suffixes hbase]

end

/-- What stands below some keys of shorthand is written out behind their properties: a mapping with its keys, a name
with its suffixes, and full schemas and literals as they are.  A tree stays as it is just if there is nothing to write
out, so nothing is written out twice. -/
theorem inflate_below (raw : Tree) :
    (∀ keys part, Below raw keys part → (inflate raw).follow? (wayTo keys) = some (inflate part)) ∧
    (∀ keys ms, Below raw keys (.object ms) → ¬ HasTypeName ms → raw.HasDistinctKeys → ∃ properties,
      (inflate raw).follow? (wayTo keys) = some (.object
        [("type", .string "object"), ("properties", .object properties),
          ("required", .array ((OrderedMap.keys ms).map .string))]) ∧
      OrderedMap.keys properties = OrderedMap.keys ms ∧ (OrderedMap.keys ms).Nodup) ∧
    (∀ keys name, Below raw keys (.string name) → ∃ base m, IsBase base ∧ name = base ++ suffixes m ∧
      (∀ other k, IsBase other → name = other ++ suffixes k → other = base ∧ k = m) ∧
      (inflate raw).follow? (wayTo keys) = some (sequenceOf^[m] (ofBase base))) ∧
    (∀ keys ms, Below raw keys (.object ms) → HasTypeName ms →
      ∀ p, (inflate raw).follow? (wayTo keys ++ p) = (Tree.object ms).follow? p) ∧
    (∀ keys literals, Below raw keys (.array literals) →
      ∀ p, (inflate raw).follow? (wayTo keys ++ .key "enum" :: p) = (Tree.array literals).follow? p) ∧
    (inflate raw = raw ↔ IsFull raw) ∧ inflate (inflate raw) = inflate raw :=
  ⟨fun _ _ => follow?_inflate, fun _ _ => follow?_mapping, fun _ _ => follow?_name, fun _ _ => follow?_full,
    fun _ _ => follow?_literals, inflate_eq_self_iff, inflate_inflate raw⟩

/-- A key `type` that is no type, a name that is mostly brackets, a full schema and literals. -/
def oddShorthand : Tree :=
  .object [("type", .object [("x", .string "][][]")]), ("full", .object [("type", .string "y[]")]),
    ("list", .array [.string "a[]"])]

theorem inflate_below_oddShorthand :
    (inflate oddShorthand).follow? (wayTo ["type", "x"]) = some (sequenceOf (sequenceOf (choice [.string "]"]))) ∧
      (∃ properties, (inflate oddShorthand).follow? (wayTo []) = some (.object
        [("type", .string "object"), ("properties", .object properties),
          ("required", .array [.string "type", .string "full", .string "list"])])) ∧
      (inflate oddShorthand).follow? (wayTo ["full"] ++ [.key "type"]) = some (.string "y[]") ∧
      (inflate oddShorthand).follow? (wayTo ["list"] ++ [.key "enum", .index 0]) = some (.string "a[]") := by
  have hodd : ∀ {t : Tree} {rest : OrderedMap Tree}, t.isString = false → ¬ HasTypeName (("type", t) :: rest) := by
    rintro t rest ht ⟨name, hname⟩
    obtain rfl : t = .string name := Option.some.inj hname
    cases ht
  have hx : ¬ HasTypeName [("x", .string "][][]")] := by
    rintro ⟨name, hname⟩
    cases hname
  have hkeys : oddShorthand.HasDistinctKeys := by
    simp [oddShorthand, Tree.hasDistinctKeys_object_iff, Tree.hasDistinctKeys_array_iff, Tree.HasDistinctKeys.string,
      OrderedMap.keys]
  obtain ⟨-, hmapping, hname, hfull, hliterals, -⟩ := inflate_below oddShorthand
  refine ⟨?_, ?_, ?_, ?_⟩
  · have hbelow : Below oddShorthand ["type", "x"] (.string "][][]") :=
      .member (hodd rfl) rfl (.member hx rfl (.here _))
    obtain ⟨base, m, -, -, hunique, hfollow⟩ := hname _ _ hbelow
    have hbase : IsBase "]" := by
      intro n h
      have hlength := congrArg String.length h
      rw [String.length_append] at hlength
      have : "[]".length = 2 := by decide
      have : "]".length = 1 := by decide
      omega
    obtain ⟨rfl, rfl⟩ := hunique "]" 2 hbase (by decide)
    exact hfollow
  · obtain ⟨properties, hfollow, -⟩ := hmapping [] _ (.here _) (hodd rfl) hkeys
    exact ⟨properties, hfollow⟩
  · rw [hfull ["full"] _ (.member (hodd rfl) rfl (.here _)) ⟨_, rfl⟩]
    rfl
  · rw [hliterals ["list"] _ (.member (hodd rfl) rfl (.here _))]
    rfl

end YamlSchema.Shorthand
