import YamlSchema.Tree.Pointer

/-!
# Parts of a tree

The parts of a tree are the tree itself and the parts of its items and members.  Whatever a pointer leads to is one of
them (`Tree.HasPart.of_pointer?`).
-/

namespace YamlSchema

namespace Tree

/-- A tree stands somewhere in another one. -/
inductive HasPart : Tree → Tree → Prop
  | refl (t : Tree) : HasPart t t
  | item {items : List Tree} {t part : Tree} (ht : t ∈ items) (h : HasPart t part) : HasPart (.array items) part
  | member {members : List (String × Tree)} {m : String × Tree} {part : Tree} (hm : m ∈ members)
      (h : HasPart m.2 part) : HasPart (.object members) part

namespace HasPart

variable {t part inner : Tree}

theorem trans (h : HasPart t part) (hinner : HasPart part inner) : HasPart t inner := by
  induction h with
  | refl => exact hinner
  | item ht _ ih => exact .item ht (ih hinner)
  | member hm _ ih => exact .member hm (ih hinner)

theorem of_getElem? {items : List Tree} {i : Nat} (h : items[i]? = some t) : HasPart (.array items) t :=
  .item (List.mem_of_getElem? h) (.refl t)

theorem of_get? {members : List (String × Tree)} {key : String} (h : OrderedMap.get? members key = some t) :
    HasPart (.object members) t :=
  .member (OrderedMap.mem_of_get? h) (.refl t)

theorem of_child? {token : List Char} (h : t.child? token = some part) : HasPart t part := by
  unfold child? at h
  split at h
  · exact of_get? h
  · obtain ⟨i, -, hi⟩ := Option.bind_eq_some_iff.1 h
    exact of_getElem? hi
  · cases h

theorem of_descend? {tokens : List (List Char)} : ∀ {t : Tree}, t.descend? tokens = some part → HasPart t part := by
  induction tokens with
  | nil =>
    intro t h
    rw [descend?, Option.some.injEq] at h
    rw [h]
    exact .refl part
  | cons token rest ih =>
    intro t h
    rw [descend?, Option.bind_eq_some_iff] at h
    obtain ⟨child, hchild, hrest⟩ := h
    exact (of_child? hchild).trans (ih hrest)

theorem of_pointer? {written : String} (h : t.pointer? written = some part) : HasPart t part := by
  unfold pointer? at h
  split at h
  · cases h; exact .refl t
  · exact of_descend? h
  · cases h

end HasPart

end Tree

end YamlSchema
