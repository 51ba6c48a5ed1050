import YamlSchema.Proofs.Tree.Pointer
import YamlSchema.Proofs.Tree.RoundTrip

/-!
# What stands at a pointer

`Tree.follow?` goes along a pointer through a tree, and finds what the tree `Leads` to (`follow?_eq_some_iff`).  The
`Shape` of a node is what it is apart from its children: a scalar, a list of some length, or a mapping.  The shapes at all
pointers make up the whole tree, up to the order of the members of its mappings.
-/

namespace YamlSchema.Tree

/-- The child to which a step leads. -/
def step? (t : Tree) (s : Step) : Option Tree :=
  match t, s with
  | .object members, .key name => OrderedMap.get? members name
  | .array items, .index i => items[i]?
  | _, _ => none

/-- What stands at a pointer. -/
def follow? (t : Tree) : Pointer → Option Tree
  | [] => some t
  | s :: rest => (t.step? s).bind fun u => u.follow? rest

@[simp] theorem follow?_nil (t : Tree) : t.follow? [] = some t := rfl

theorem follow?_cons (t : Tree) (s : Step) (p : Pointer) : t.follow? (s :: p) = (t.step? s).bind fun u => u.follow? p :=
  rfl

theorem follow?_append (t : Tree) (p q : Pointer) : t.follow? (p ++ q) = (t.follow? p).bind fun u => u.follow? q := by
  induction p generalizing t with
  | nil => rfl
  | cons s p ih =>
    rw [List.cons_append, follow?_cons, follow?_cons, Option.bind_assoc]
    exact Option.bind_congr fun u _ => ih u

/-- Nothing stands in a scalar. -/
theorem step?_scalar {t : Tree} (hobject : ∀ members, t ≠ .object members) (harray : ∀ items, t ≠ .array items)
    (s : Step) : t.step? s = none := by
  cases t with
  | object members => exact absurd rfl (hobject members)
  | array items => exact absurd rfl (harray items)
  | _ => cases s <;> rfl

theorem follow?_eq_some_iff {t u : Tree} {p : Pointer} : t.follow? p = some u ↔ t.Leads p u := by
  constructor
  · intro h
    induction p generalizing t with
    | nil =>
      cases h
      exact .here _
    | cons s p ih =>
      rw [follow?_cons, Option.bind_eq_some_iff] at h
      obtain ⟨child, hchild, hrest⟩ := h
      have hleads : child.Leads p u := ih hrest
      unfold step? at hchild
      split at hchild
      · exact .member hchild hleads
      · exact .item hchild hleads
      · cases hchild
  · intro h
    induction h with
    | here => rfl
    | member ht _ ih => simpa [follow?_cons, step?, ht] using ih
    | item ht _ ih => simpa [follow?_cons, step?, ht] using ih

/-! ### Distinct keys -/

theorem hasDistinctKeys_object_iff {members : OrderedMap Tree} : (Tree.object members).HasDistinctKeys ↔
    (OrderedMap.keys members).Nodup ∧ ∀ m ∈ members, m.2.HasDistinctKeys := by
  constructor
  · rintro ⟨⟩
    exact ⟨‹_›, ‹_›⟩
  · exact fun h => .object h.1 h.2

theorem hasDistinctKeys_array_iff {items : List Tree} :
    (Tree.array items).HasDistinctKeys ↔ ∀ t ∈ items, t.HasDistinctKeys := by
  constructor
  · rintro ⟨⟩
    assumption
  · exact .array

theorem HasDistinctKeys.step? {t u : Tree} (h : t.HasDistinctKeys) {s : Step} (hs : t.step? s = some u) :
    u.HasDistinctKeys := by
  unfold Tree.step? at hs
  split at hs
  · cases h with
    | object _ hmembers => exact hmembers _ (OrderedMap.mem_of_get? hs)
  · cases h with
    | array hitems => exact hitems u (List.mem_of_getElem? hs)
  · cases hs

theorem HasDistinctKeys.follow? {t u : Tree} (h : t.HasDistinctKeys) {p : Pointer} (hp : t.follow? p = some u) :
    u.HasDistinctKeys := by
  rw [follow?_eq_some_iff] at hp
  induction hp with
  | here => exact h
  | @member members name _ _ _ ht _ ih => exact ih (h.step? (s := .key name) ht)
  | @item items i _ _ _ ht _ ih => exact ih (h.step? (s := .index i) ht)

/-! ### Shapes -/

/-- What a node is apart from its children. -/
inductive Shape where
  | scalar (t : Tree)
  | list (length : Nat)
  | mapping
  deriving DecidableEq, Repr

/-- The shape of the root. -/
def shape : Tree → Shape
  | .array items => .list items.length
  | .object _ => .mapping
  | t => .scalar t

theorem shape_eq_string_iff {t : Tree} {name : String} : t.shape = .scalar (.string name) ↔ t = .string name := by
  cases t <;> simp [shape]

theorem isArray_eq_of_shape {t u : Tree} (h : t.shape = u.shape) : t.isArray = u.isArray := by
  cases t <;> cases u <;> simp_all [shape, isArray]

/-- The shape of what stands at a pointer. -/
def shape? (t : Tree) (p : Pointer) : Option Shape := (t.follow? p).map shape

end YamlSchema.Tree
