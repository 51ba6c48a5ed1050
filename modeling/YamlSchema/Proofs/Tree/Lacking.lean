import YamlSchema.Proofs.Schema.Lowering
import YamlSchema.Proofs.Shorthand.Outline
import YamlSchema.Proofs.Text.Control
import YamlSchema.Proofs.Tree.Part

/-!
# Trees without a character

A tree lacks a character if none of its strings and keys has it (`Tree.Lacks`).  Then its parts lack it too, and if it is
a control character, so do the schemas that are made of the tree (`Tree.Lacks.inflate`, `Tree.Lacks.lower`).
-/

namespace YamlSchema

open Text

/-- No string and no key in a tree has a character. -/
inductive Tree.Lacks (c : Char) : Tree → Prop
  | null : Lacks c .null
  | bool (b : Bool) : Lacks c (.bool b)
  | number (n : Number) : Lacks c (.number n)
  | string {s : String} (h : c ∉ s.toList) : Lacks c (.string s)
  | array {items : List Tree} (h : ∀ t ∈ items, Lacks c t) : Lacks c (.array items)
  | object {members : List (String × Tree)} (hkeys : ∀ m ∈ members, c ∉ m.1.toList) (h : ∀ m ∈ members, Lacks c m.2) :
      Lacks c (.object members)

namespace Tree.Lacks

variable {c : Char} {t part : Tree}

theorem of_hasPart (h : t.Lacks c) (hpart : t.HasPart part) : part.Lacks c := by
  induction hpart with
  | refl => exact h
  | item ht _ ih =>
    cases h with
    | array hitems => exact ih (hitems _ ht)
  | member hm _ ih =>
    cases h with
    | object _ hmembers => exact ih (hmembers _ hm)

@[simp] theorem string_iff {s : String} : (Tree.string s).Lacks c ↔ c ∉ s.toList :=
  ⟨fun | .string h => h, .string⟩

theorem nil : (Tree.object []).Lacks c := .object (List.forall_mem_nil _) (List.forall_mem_nil _)

theorem member {members : OrderedMap Tree} (h : (Tree.object members).Lacks c) {m : String × Tree} (hm : m ∈ members) :
    c ∉ m.1.toList ∧ m.2.Lacks c := by
  cases h with
  | object hkeys hmembers => exact ⟨hkeys m hm, hmembers m hm⟩

theorem subset {members more : OrderedMap Tree} (h : (Tree.object more).Lacks c) (hsubset : ∀ m ∈ members, m ∈ more) :
    (Tree.object members).Lacks c :=
  .object (fun m hm => (h.member (hsubset m hm)).1) fun m hm => (h.member (hsubset m hm)).2

theorem mapValues {members : OrderedMap Tree} (h : (Tree.object members).Lacks c) {f : String × Tree → Tree}
    (hf : ∀ m ∈ members, (f m).Lacks c) : (Tree.object (members.map fun m => (m.1, f m))).Lacks c := by
  refine .object ?_ ?_ <;> rw [List.forall_mem_map]
  · exact fun m hm => (h.member hm).1
  · exact hf

theorem cons {members : OrderedMap Tree} (h : (Tree.object members).Lacks c) {key : String} (hkey : c ∉ key.toList)
    (ht : t.Lacks c) : (Tree.object ((key, t) :: members)).Lacks c := by
  refine .object ?_ ?_ <;> rw [List.forall_mem_cons]
  · exact ⟨hkey, fun m hm => (h.member hm).1⟩
  · exact ⟨ht, fun m hm => (h.member hm).2⟩

/-! ### Schemas -/

theorem dropPseudoType {members : OrderedMap Tree} (h : (Tree.object members).Lacks c) :
    (Tree.object (Schema.dropPseudoType members)).Lacks c := by
  refine h.subset fun m hm => ?_
  rw [Schema.dropPseudoType] at hm
  split at hm
  · exact List.eraseP_subset ((OrderedMap.swapErase_perm members "type").subset hm)
  · exact hm

private theorem lower_and_lowerMember (h : t.Lacks c) :
    (Schema.lower t).Lacks c ∧ ∀ key, (Schema.lowerMember key t).Lacks c := by
  induction h with
  | array hitems ih =>
    refine ⟨.array hitems, fun key => ?_⟩
    rw [Schema.lowerMember]
    split
    · rw [Schema.lowerItems_eq_map]
      exact .array (List.forall_mem_map.2 fun t ht => (ih t ht).1)
    · exact .array hitems
  | @object members hkeys hmembers ih =>
    have hobject : (Tree.object members).Lacks c := .object hkeys hmembers
    have hlowered : (Tree.object (Schema.dropPseudoType (Schema.lowerMembers members))).Lacks c := by
      rw [Schema.lowerMembers_eq_map]
      exact (hobject.mapValues fun m hm => (ih m hm).2 m.1).dropPseudoType
    refine ⟨by rwa [Schema.lower], fun key => ?_⟩
    rw [Schema.lowerMember]
    split
    · exact hlowered
    split
    · rw [Schema.lowerEach_eq_map]
      exact hobject.mapValues fun m hm => (ih m hm).1
    · exact hobject
  | null => exact ⟨.null, fun _ => .null⟩
  | bool b => exact ⟨.bool b, fun _ => .bool b⟩
  | number n => exact ⟨.number n, fun _ => .number n⟩
  | string hs => exact ⟨.string hs, fun _ => .string hs⟩

theorem lower (h : t.Lacks c) : (Schema.lower t).Lacks c := h.lower_and_lowerMember.1

/-! ### Control characters -/

section Control

variable (hc : c.toNat < 32)

include hc

theorem keyword {key : String} (hkey : isClean key.toList = true) (ht : t.Lacks c) {rest : OrderedMap Tree}
    (hrest : (Tree.object rest).Lacks c) : (Tree.object ((key, t) :: rest)).Lacks c :=
  hrest.cons (notMem_of_isClean hc hkey) ht

theorem typed {name : String} (hname : c ∉ name.toList) {rest : OrderedMap Tree}
    (hrest : (Tree.object rest).Lacks c) : (Tree.object (("type", .string name) :: rest)).Lacks c :=
  have hkey : isClean "type".toList = true := isClean_literal rfl
  keyword hc hkey (.string hname) hrest

theorem choice {literals : List Tree} (h : (Tree.array literals).Lacks c) : (Shorthand.choice literals).Lacks c := by
  have hname : isClean Shorthand.enumType.toList = true := isClean_literal rfl
  have hkey : isClean "enum".toList = true := isClean_literal rfl
  exact typed hc (notMem_of_isClean hc hname) (keyword hc hkey h .nil)

theorem ofReversed {cs : List Char} (h : c ∉ cs) : (Shorthand.ofReversed cs).Lacks c := by
  fun_induction Shorthand.ofReversed cs with
  | case1 base ih =>
    have hname : isClean "array".toList = true := isClean_literal rfl
    have hkey : isClean "items".toList = true := isClean_literal rfl
    refine typed hc (notMem_of_isClean hc hname) (keyword hc hkey (ih ?_) .nil)
    exact fun hmem => h (List.mem_cons_of_mem _ (List.mem_cons_of_mem _ hmem))
  | case2 base _ =>
    have hname : c ∉ (String.ofList base.reverse).toList := by simpa using h
    rw [Shorthand.ofBase]
    split
    · exact typed hc hname .nil
    · exact choice hc (.array (by simpa using hname))

/-- What is written out for a schema has no control character but those of the schema. -/
theorem inflate (h : t.Lacks c) : (YamlSchema.inflate t).Lacks c := by
  induction h with
  | null => exact .null
  | bool b => exact .bool b
  | number n => exact .number n
  | string hs => exact ofReversed hc (by simpa using hs)
  | array hitems => exact choice hc (.array hitems)
  | @object members hkeys hmembers ih =>
    have hobject : (Tree.object members).Lacks c := .object hkeys hmembers
    rw [YamlSchema.inflate]
    split
    · exact hobject
    · have hname : isClean "object".toList = true := isClean_literal rfl
      have hproperties : isClean "properties".toList = true := isClean_literal rfl
      have hrequired : isClean "required".toList = true := isClean_literal rfl
      rw [Shorthand.inflateMembers_eq_map]
      refine typed hc (notMem_of_isClean hc hname) (keyword hc hproperties (hobject.mapValues ih) ?_)
      refine keyword hc hrequired (.array ?_) .nil
      rw [List.forall_mem_map, OrderedMap.keys, List.forall_mem_map]
      exact fun m hm => .string (hkeys m hm)

end Control

end Tree.Lacks

/-! ### Trees that are written out -/

namespace Tree

mutual

/-- No byte of a string or a key of a tree is below the space. -/
def hasCleanBytes : Tree → Bool
  | .string s => Text.hasCleanBytes s
  | .array items => itemsHaveCleanBytes items
  | .object members => membersHaveCleanBytes members
  | _ => true

def itemsHaveCleanBytes : List Tree → Bool
  | [] => true
  | t :: rest => t.hasCleanBytes && itemsHaveCleanBytes rest

def membersHaveCleanBytes : List (String × Tree) → Bool
  | [] => true
  | (key, t) :: rest => Text.hasCleanBytes key && t.hasCleanBytes && membersHaveCleanBytes rest

end

variable {c : Char}

mutual

theorem lacks_of_hasCleanBytes (hc : c.toNat < 32) : ∀ {t : Tree}, t.hasCleanBytes = true → t.Lacks c
  | .null, _ => .null
  | .bool b, _ => .bool b
  | .number n, _ => .number n
  | .string _, h => .string (notMem_of_isClean hc (isClean_of_hasCleanBytes h))
  | .array _, h => .array (lacks_of_itemsHaveCleanBytes hc h)
  | .object _, h => lacks_of_membersHaveCleanBytes hc h

theorem lacks_of_itemsHaveCleanBytes (hc : c.toNat < 32) : ∀ {items : List Tree}, itemsHaveCleanBytes items = true →
    ∀ t ∈ items, t.Lacks c
  | [], _ => List.forall_mem_nil _
  | t :: rest, h => by
    rw [itemsHaveCleanBytes, Bool.and_eq_true] at h
    exact List.forall_mem_cons.2 ⟨lacks_of_hasCleanBytes hc h.1, lacks_of_itemsHaveCleanBytes hc h.2⟩

theorem lacks_of_membersHaveCleanBytes (hc : c.toNat < 32) :
    ∀ {members : List (String × Tree)}, membersHaveCleanBytes members = true → (Tree.object members).Lacks c
  | [], _ => .nil
  | (key, t) :: rest, h => by
    rw [membersHaveCleanBytes, Bool.and_eq_true, Bool.and_eq_true] at h
    obtain ⟨⟨hkey, ht⟩, hrest⟩ := h
    exact (lacks_of_membersHaveCleanBytes hc hrest).cons (notMem_of_isClean hc (isClean_of_hasCleanBytes hkey))
      (lacks_of_hasCleanBytes hc ht)

end

end Tree

end YamlSchema
