import Mathlib.Data.List.Forall2

/-!
# Steps that may fail

Steps behind each other succeed exactly if each of them does (`bind_eq_ok_iff`), and a list is read item by item exactly
if every item is read (`mapM_eq_ok_iff`, `mapM_eq_some_iff`): what is read stands beside what it was read from.
-/

namespace YamlSchema

variable {ε α β : Type}

/-! ### Lists side by side -/

theorem exists_partner {R : α → β → Prop} {l : List α} {l' : List β} (h : List.Forall₂ R l l') {i : Nat} {a : α}
    (ha : l[i]? = some a) : ∃ b, l'[i]? = some b ∧ R a b := by
  induction h generalizing i with
  | nil => cases ha
  | cons hfirst _ ih =>
    cases i with
    | zero =>
      cases ha
      exact ⟨_, rfl, hfirst⟩
    | succ i => exact ih ha

theorem exists_partner_of_mem {R : α → β → Prop} {l : List α} {l' : List β} (h : List.Forall₂ R l l') {a : α}
    (ha : a ∈ l) : ∃ b ∈ l', R a b := by
  obtain ⟨i, hi⟩ := List.mem_iff_getElem?.1 ha
  obtain ⟨b, hb, hab⟩ := exists_partner h hi
  exact ⟨b, List.mem_of_getElem? hb, hab⟩

/-! ### Steps behind each other -/

theorem bind_eq_ok_iff {r : Except ε α} {f : α → Except ε β} {y : β} :
    r >>= f = .ok y ↔ ∃ x, r = .ok x ∧ f x = .ok y := by
  cases r with
  | error e => exact iff_of_false nofun fun ⟨_, h, _⟩ => nomatch h
  | ok x => exact ⟨fun h => ⟨x, rfl, h⟩, fun ⟨_, h, hf⟩ => Except.ok.inj h ▸ hf⟩

theorem pure_eq_ok_iff {x y : α} : (pure x : Except ε α) = .ok y ↔ x = y :=
  ⟨Except.ok.inj, congrArg _⟩

/-- What comes after a step matters only where the step succeeds. -/
theorem bind_congr_of_ok {r : Except ε α} {f g : α → Except ε β} (h : ∀ x, r = .ok x → f x = g x) :
    r >>= f = r >>= g := by
  cases r with
  | error e => rfl
  | ok x => exact h x rfl

/-! ### Item by item -/

theorem mapM_eq_ok_iff {f : α → Except ε β} {xs : List α} {ys : List β} :
    xs.mapM f = .ok ys ↔ List.Forall₂ (fun x y => f x = .ok y) xs ys := by
  induction xs generalizing ys with
  | nil => rw [List.mapM_nil, pure_eq_ok_iff, List.forall₂_nil_left_iff, eq_comm]
  | cons x xs ih =>
    simp only [List.mapM_cons, bind_eq_ok_iff, pure_eq_ok_iff, ih, List.forall₂_cons_left_iff]
    constructor
    · rintro ⟨y, hy, ys, hys, rfl⟩
      exact ⟨y, ys, hy, hys, rfl⟩
    · rintro ⟨y, ys, hy, hys, rfl⟩
      exact ⟨y, hy, ys, hys, rfl⟩

theorem mapM_eq_some_iff {f : α → Option β} {xs : List α} {ys : List β} :
    xs.mapM f = some ys ↔ List.Forall₂ (fun x y => f x = some y) xs ys := by
  induction xs generalizing ys with
  | nil => rw [List.mapM_nil, Option.pure_def, Option.some.injEq, List.forall₂_nil_left_iff, eq_comm]
  | cons x xs ih =>
    simp only [List.mapM_cons, bind, Option.bind_eq_some_iff, pure, Option.some.injEq, ih, List.forall₂_cons_left_iff]
    constructor
    · rintro ⟨y, hy, ys, hys, rfl⟩
      exact ⟨y, ys, hy, hys, rfl⟩
    · rintro ⟨y, ys, hy, hys, rfl⟩
      exact ⟨y, hy, ys, hys, rfl⟩

theorem exists_of_mem_mapM_eq_ok {f : α → Except ε β} {xs : List α} {ys : List β} (h : xs.mapM f = .ok ys) {y : β}
    (hy : y ∈ ys) : ∃ x ∈ xs, f x = .ok y :=
  exists_partner_of_mem (List.Forall₂.flip (mapM_eq_ok_iff.1 h)) hy

theorem exists_of_mem_mapM_eq_some {f : α → Option β} {xs : List α} {ys : List β} (h : xs.mapM f = some ys) {y : β}
    (hy : y ∈ ys) : ∃ x ∈ xs, f x = some y :=
  exists_partner_of_mem (List.Forall₂.flip (mapM_eq_some_iff.1 h)) hy

section FlatMapM

variable {f g : α → Except ε (List β)} {l : List α} {out : List β}

theorem flatMapM_cons_eq_ok_iff {a : α} : (a :: l).flatMapM f = .ok out ↔
    ∃ first rest, f a = .ok first ∧ l.flatMapM f = .ok rest ∧ out = first ++ rest := by
  simp only [List.flatMapM_cons, bind_eq_ok_iff, pure_eq_ok_iff]
  constructor
  · rintro ⟨first, hfirst, rest, hrest, rfl⟩
    exact ⟨first, rest, hfirst, hrest, rfl⟩
  · rintro ⟨first, rest, hfirst, hrest, rfl⟩
    exact ⟨first, hfirst, rest, hrest, rfl⟩

theorem mem_of_flatMapM (h : l.flatMapM f = .ok out) {b : β} (hb : b ∈ out) :
    ∃ a ∈ l, ∃ part, f a = .ok part ∧ b ∈ part := by
  induction l generalizing out with
  | nil => cases h; cases hb
  | cons a rest ih =>
    obtain ⟨first, more, hfirst, hmore, rfl⟩ := flatMapM_cons_eq_ok_iff.1 h
    rcases List.mem_append.1 hb with hb | hb
    · exact ⟨a, List.mem_cons_self .., first, hfirst, hb⟩
    · obtain ⟨c, hc, hpart⟩ := ih hmore hb
      exact ⟨c, List.mem_cons_of_mem _ hc, hpart⟩

theorem exists_of_flatMapM (h : l.flatMapM f = .ok out) {a : α} (ha : a ∈ l) : ∃ part, f a = .ok part ∧ part ⊆ out := by
  induction l generalizing out with
  | nil => cases ha
  | cons b rest ih =>
    obtain ⟨first, more, hfirst, hmore, rfl⟩ := flatMapM_cons_eq_ok_iff.1 h
    rcases List.mem_cons.1 ha with rfl | ha
    · exact ⟨first, hfirst, List.subset_append_left ..⟩
    · obtain ⟨part, hpart, hsub⟩ := ih hmore ha
      exact ⟨part, hpart, fun b hb => List.mem_append_right _ (hsub hb)⟩

theorem flatMapM_map {change : β → β} (h : l.flatMapM f = .ok out)
    (hchange : ∀ a ∈ l, ∀ part, f a = .ok part → g a = .ok (part.map change)) :
    l.flatMapM g = .ok (out.map change) := by
  induction l generalizing out with
  | nil => cases h; rfl
  | cons a rest ih =>
    obtain ⟨first, more, hfirst, hmore, rfl⟩ := flatMapM_cons_eq_ok_iff.1 h
    rw [List.forall_mem_cons] at hchange
    exact flatMapM_cons_eq_ok_iff.2
      ⟨_, _, hchange.1 first hfirst, ih hmore hchange.2, by rw [List.map_append]⟩

end FlatMapM

end YamlSchema
