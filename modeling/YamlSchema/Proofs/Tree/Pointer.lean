import Mathlib.Data.List.Basic
import YamlSchema.Tree.Pointer

/-!
# Where pointers lead

A tree `Leads` along a pointer to one of its nodes.  The pointer as it is written down then names that node
(`pointer?_text`): no key is too odd for its escapes, and an item is found as long as its index is a number of 64 bits.
-/

namespace YamlSchema

/-- The way of a pointer through a tree ends at a node. -/
inductive Tree.Leads : Tree → Pointer → Tree → Prop
  | here (t : Tree) : Leads t [] t
  | member {members : List (String × Tree)} {name : String} {t u : Tree} {p : Pointer}
      (ht : OrderedMap.get? members name = some t) (h : Leads t p u) : Leads (.object members) (.key name :: p) u
  | item {items : List Tree} {i : Nat} {t u : Tree} {p : Pointer} (ht : items[i]? = some t) (h : Leads t p u) :
      Leads (.array items) (.index i :: p) u

/-- Whether every index on the way is a number of 64 bits. -/
def Pointer.IsNarrow (p : Pointer) : Prop := ∀ i, .index i ∈ p → i < 18446744073709551616

/-! ### Digits -/

/-- Numbers are written with digits alone. -/
theorem notMem_toDigits {c : Char} (hc : c.isDigit = false) (n : Nat) : c ∉ Nat.toDigits 10 n := by
  intro h
  have hdigit := Nat.isDigit_of_mem_toDigits (by decide) (by decide) h
  rw [hc] at hdigit
  exact Bool.false_ne_true hdigit

/-- The only number that is written with a zero in front is zero. -/
theorem head_toDigits {n : Nat} (hn : n ≠ 0) (rest : List Char) : Nat.toDigits 10 n ≠ '0' :: rest := by
  induction n using Nat.strongRecOn generalizing rest with
  | _ n ih =>
    rw [Nat.toDigits_eq_if (by decide)]
    split
    · rename_i hlt
      intro heq
      rw [List.cons.injEq, Nat.digitChar_eq_zero] at heq
      exact hn heq.1
    · rename_i hge
      cases hdigits : Nat.toDigits 10 (n / 10) with
      | nil => exact absurd hdigits Nat.toDigits_ne_nil
      | cons c digits =>
        intro heq
        rw [List.cons_append, List.cons.injEq] at heq
        rw [heq.1] at hdigits
        exact ih (n / 10) (by omega) (by omega) digits hdigits

private theorem plus_toDigits (n : Nat) (rest : List Char) : Nat.toDigits 10 n ≠ '+' :: rest := by
  intro heq
  have hplus : '+' ∈ Nat.toDigits 10 n := by rw [heq]; exact List.mem_cons_self ..
  exact notMem_toDigits (by decide) n hplus

/-- The value of the digits as which a number is written. -/
theorem foldl_toDigits (n : Nat) :
    (Nat.toDigits 10 n).foldl (fun n c => n * 10 + (c.toNat - '0'.toNat)) 0 = n := by
  have h := Nat.ofDigitChars_toDigits (b := 10) (n := n) (by decide) (by decide)
  rw [Nat.ofDigitChars_eq_foldl] at h
  simpa only [Nat.mul_comm] using h

private theorem word?_toDigits {n : Nat} (hn : n < 18446744073709551616) : word? (Nat.toDigits 10 n) = some n := by
  have hdigits : (Nat.toDigits 10 n).all Char.isDigit = true :=
    List.all_eq_true.2 fun c hc => Nat.isDigit_of_mem_toDigits (by decide) (by decide) hc
  have hnonempty : (Nat.toDigits 10 n).isEmpty = false := List.isEmpty_eq_false_iff.2 Nat.toDigits_ne_nil
  rw [word?.eq_2 _ (plus_toDigits n)]
  simp only [hdigits, foldl_toDigits, hnonempty, hn, Bool.not_true, Bool.or_self, Bool.false_eq_true, if_false, if_true]

/-- An array index is read as it was written. -/
theorem arrayIndex?_toDigits {n : Nat} (hn : n < 18446744073709551616) :
    arrayIndex? (Nat.toDigits 10 n) = some n := by
  have hzero : ∀ c rest, Nat.toDigits 10 n ≠ '0' :: c :: rest := by
    intro c rest heq
    by_cases h : n = 0
    · subst h
      have hdigits : Nat.toDigits 10 0 = ['0'] := by decide
      rw [hdigits] at heq
      cases heq
    · exact head_toDigits h _ heq
  rw [arrayIndex?.eq_3 _ (plus_toDigits n) hzero]
  exact word?_toDigits hn

/-! ### Steps -/

namespace Step

private theorem slash_notMem_escapeChars (cs : List Char) : '/' ∉ escapeChars cs := by
  induction cs with
  | nil => simp [escapeChars]
  | cons c rest ih =>
    by_cases h : c = '~'
    · subst h; simp [escapeChars, ih]
    · by_cases h' : c = '/'
      · subst h'; simp [escapeChars, ih]
      · rw [escapeChars.eq_4 _ _ h h', List.mem_cons, not_or]
        exact ⟨Ne.symm h', ih⟩

private theorem unescapeChars_of_notMem {cs : List Char} (h : '~' ∉ cs) : unescapeChars cs = cs := by
  induction cs with
  | nil => rfl
  | cons c rest ih =>
    rw [List.mem_cons, not_or] at h
    have hc : c ≠ '~' := Ne.symm h.1
    rw [unescapeChars.eq_4 _ _ (by simp [hc]) (by simp [hc]), ih h.2]

/-- What one reads of a step that is written down. -/
def token : Step → List Char
  | .key name => name.toList
  | .index i => Nat.toDigits 10 i

theorem toList_text_index (i : Nat) : (Step.index i).text.toList = Nat.toDigits 10 i := by
  rw [text, Nat.toString_eq_ofList_toDigits, String.toList_ofList]

theorem slash_notMem_text (s : Step) : '/' ∉ s.text.toList := by
  cases s with
  | key name => rw [text, String.toList_ofList]; exact slash_notMem_escapeChars _
  | index i => rw [toList_text_index]; exact notMem_toDigits (by decide) i

theorem unescapeChars_text (s : Step) : unescapeChars s.text.toList = s.token := by
  cases s with
  | key name => rw [text, String.toList_ofList, unescapeChars_escapeChars, token]
  | index i => rw [toList_text_index, unescapeChars_of_notMem (notMem_toDigits (by decide) i), token]

end Step

/-! ### Written pointers -/

namespace Pointer

theorem toList_text (p : Pointer) : p.text.toList = p.flatMap fun s => '/' :: s.text.toList := by
  induction p with
  | nil => rfl
  | cons s p ih =>
    rw [text, List.map_cons, String.join_cons, String.toList_append, String.toList_append, List.flatMap_cons, ← ih]
    rfl

/-- A written pointer is cut into its steps. -/
private theorem splitChars_text (s : Step) (p : Pointer) :
    splitChars '/' (s.text.toList ++ p.text.toList) = s.text.toList :: p.map fun s => s.text.toList := by
  induction p generalizing s with
  | nil =>
    rw [toList_text, List.flatMap_nil, List.append_nil, splitChars_of_notMem s.slash_notMem_text]
    rfl
  | cons next p ih =>
    rw [toList_text, List.flatMap_cons, ← toList_text, List.cons_append,
      splitChars_append_cons, splitChars_of_notMem s.slash_notMem_text, List.singleton_append, ih, List.map_cons]

theorem text_append (p q : Pointer) : (p ++ q).text = p.text ++ q.text := by
  apply String.toList_inj.1
  rw [String.toList_append, toList_text, toList_text, toList_text, List.flatMap_append]

end Pointer

namespace Tree

/-- A pointer that is written down is read as its steps. -/
theorem pointer?_text_eq (t : Tree) (p : Pointer) : t.pointer? p.text = t.descend? (p.map Step.token) := by
  rw [pointer?]
  cases p with
  | nil => rfl
  | cons s p =>
    rw [Pointer.toList_text, List.flatMap_cons, ← Pointer.toList_text, List.cons_append]
    change t.descend? ((splitChars '/' (s.text.toList ++ (Pointer.text p).toList)).map Step.unescapeChars) = _
    rw [Pointer.splitChars_text, List.map_cons, Step.unescapeChars_text, List.map_map, List.map_cons]
    have htokens : p.map (Step.unescapeChars ∘ fun s => s.text.toList) = p.map Step.token :=
      List.map_congr_left fun s _ => s.unescapeChars_text
    rw [htokens]

theorem descend?_append (t : Tree) (before after : List (List Char)) :
    t.descend? (before ++ after) = (t.descend? before).bind fun u => u.descend? after := by
  induction before generalizing t with
  | nil => rfl
  | cons token rest ih =>
    rw [List.cons_append, descend?, descend?, Option.bind_assoc]
    exact Option.bind_congr fun u _ => ih u

theorem Leads.descend?_eq {t u : Tree} {p : Pointer} (h : Leads t p u) (hp : p.IsNarrow) :
    t.descend? (p.map Step.token) = some u := by
  induction h with
  | here t => rfl
  | @member members name t u p ht _ ih =>
    rw [List.map_cons, descend?, child?, Step.token, String.ofList_toList, ht, Option.bind_some]
    exact ih fun i hi => hp i (List.mem_cons_of_mem _ hi)
  | @item items i t u p ht _ ih =>
    rw [List.map_cons, descend?, child?, Step.token, arrayIndex?_toDigits (hp i (List.mem_cons_self ..)),
      Option.bind_some, ht, Option.bind_some]
    exact ih fun j hj => hp j (List.mem_cons_of_mem _ hj)

/-- A pointer that is written down leads to where it led before. -/
theorem pointer?_text {t u : Tree} {p : Pointer} (h : Leads t p u) (hp : p.IsNarrow) :
    t.pointer? p.text = some u := by
  rw [pointer?_text_eq, h.descend?_eq hp]

theorem Leads.append {t u w : Tree} {p q : Pointer} (h : Leads t p u) (hq : Leads u q w) : Leads t (p ++ q) w := by
  induction h with
  | here t => exact hq
  | member ht _ ih => exact .member ht (ih hq)
  | item ht _ ih => exact .item ht (ih hq)

end Tree

end YamlSchema
