import YamlSchema.Schema.Validator

/-!
# Nodes that differ in their links

A node is `Like` another one if both have the same rules and their links stand for each other.  Where the links accept
the same, such nodes accept the same (`Node.Like.accepts_eq`).  What a node asks its links is little: those that are
`inPlace` are asked about the instance itself, and all others only about what stands inside of it (`Asks`).
-/

namespace YamlSchema.Schema

/-! ### Links that stay at an instance -/

mutual

/-- The links of a node that are followed without going into the instance. -/
def Node.inPlace : Node → List Link
  | .always _ | .refused _ => []
  | .rules all => inPlaceOfAll all

def inPlaceOfAll : List Rule → List Link
  | [] => []
  | r :: rest => r.inPlace ++ inPlaceOfAll rest

def Rule.inPlace : Rule → List Link
  | .reference _ link => [link]
  | .dependency _ _ node | .allOf _ node | .not node _ => node.inPlace
  | .anyOf nodes | .oneOf nodes => inPlaceOfNodes nodes
  | .conditional test yes no => test.inPlace ++ inPlaceIfAny yes ++ inPlaceIfAny no
  | .unevaluatedMembers beside _ | .unevaluatedItems beside _ => inPlaceOfAll beside
  | _ => []

def inPlaceOfNodes : List Node → List Link
  | [] => []
  | n :: rest => n.inPlace ++ inPlaceOfNodes rest

def inPlaceIfAny : Option Node → List Link
  | none => []
  | some n => n.inPlace

end

/-! ### Likeness -/

variable {R : Link → Link → Prop}

mutual

/-- Two nodes have the same rules, and their links stand for each other.  The rules are those of Draft 7. -/
inductive Node.Like (R : Link → Link → Prop) : Node → Node → Prop
  | always (b : Bool) : Node.Like R (.always b) (.always b)
  | rules {all all' : List Rule} (h : LikeAll R all all') : Node.Like R (.rules all) (.rules all')
  | refused (why why' : Refusal) : Node.Like R (.refused why) (.refused why')

inductive LikeAll (R : Link → Link → Prop) : List Rule → List Rule → Prop
  | nil : LikeAll R [] []
  | cons {r r' : Rule} {rest rest' : List Rule} (h : Rule.Like R r r') (hrest : LikeAll R rest rest') :
      LikeAll R (r :: rest) (r' :: rest')

inductive Rule.Like (R : Link → Link → Prop) : Rule → Rule → Prop
  | assertion (keyword : String) (a : Assertion) : Rule.Like R (.assertion keyword a) (.assertion keyword a)
  | reference (keyword : String) {link link' : Link} (h : R link link') :
      Rule.Like R (.reference keyword link) (.reference keyword link')
  | property (name : String) {n n' : Node} (h : Node.Like R n n') : Rule.Like R (.property name n) (.property name n')
  | patternProperty (pattern : Pattern) {n n' : Node} (h : Node.Like R n n') :
      Rule.Like R (.patternProperty pattern n) (.patternProperty pattern n')
  | members {named named' : List (String × Node)} {patterned patterned' : List (Pattern × Node)}
      {others others' : Option Node} (hnamed : LikeNamed R named named') (hpatterned : LikePatterned R patterned patterned')
      (hothers : LikeIfAny R others others') : Rule.Like R (.members named patterned others) (.members named' patterned' others')
  | items {n n' : Node} (h : Node.Like R n n') : Rule.Like R (.items n) (.items n')
  | itemAt (keyword : String) (i : Nat) {n n' : Node} (h : Node.Like R n n') :
      Rule.Like R (.itemAt keyword i n) (.itemAt keyword i n')
  | itemsFrom (keyword : String) (count : Nat) {n n' : Node} (h : Node.Like R n n') :
      Rule.Like R (.itemsFrom keyword count n) (.itemsFrom keyword count n')
  | contains {n n' : Node} (h : Node.Like R n n') : Rule.Like R (.contains n) (.contains n')
  | names {n n' : Node} (h : Node.Like R n n') : Rule.Like R (.names n) (.names n')
  | dependency (keyword name : String) {n n' : Node} (h : Node.Like R n n') :
      Rule.Like R (.dependency keyword name n) (.dependency keyword name n')
  | allOf (i : Nat) {n n' : Node} (h : Node.Like R n n') : Rule.Like R (.allOf i n) (.allOf i n')
  | anyOf {nodes nodes' : List Node} (h : LikeNodes R nodes nodes') : Rule.Like R (.anyOf nodes) (.anyOf nodes')
  | oneOf {nodes nodes' : List Node} (h : LikeNodes R nodes nodes') : Rule.Like R (.oneOf nodes) (.oneOf nodes')
  | not {n n' : Node} (h : Node.Like R n n') (schema : Tree) : Rule.Like R (.not n schema) (.not n' schema)
  | conditional {test test' : Node} {yes yes' no no' : Option Node} (htest : Node.Like R test test')
      (hyes : LikeIfAny R yes yes') (hno : LikeIfAny R no no') :
      Rule.Like R (.conditional test yes no) (.conditional test' yes' no')
  | refused (why why' : Refusal) : Rule.Like R (.refused why) (.refused why')

inductive LikeNodes (R : Link → Link → Prop) : List Node → List Node → Prop
  | nil : LikeNodes R [] []
  | cons {n n' : Node} {rest rest' : List Node} (h : Node.Like R n n') (hrest : LikeNodes R rest rest') :
      LikeNodes R (n :: rest) (n' :: rest')

inductive LikeNamed (R : Link → Link → Prop) : List (String × Node) → List (String × Node) → Prop
  | nil : LikeNamed R [] []
  | cons (name : String) {n n' : Node} {rest rest' : List (String × Node)} (h : Node.Like R n n')
      (hrest : LikeNamed R rest rest') : LikeNamed R ((name, n) :: rest) ((name, n') :: rest')

inductive LikePatterned (R : Link → Link → Prop) : List (Pattern × Node) → List (Pattern × Node) → Prop
  | nil : LikePatterned R [] []
  | cons (pattern : Pattern) {n n' : Node} {rest rest' : List (Pattern × Node)} (h : Node.Like R n n')
      (hrest : LikePatterned R rest rest') : LikePatterned R ((pattern, n) :: rest) ((pattern, n') :: rest')

inductive LikeIfAny (R : Link → Link → Prop) : Option Node → Option Node → Prop
  | none : LikeIfAny R none none
  | some {n n' : Node} (h : Node.Like R n n') : LikeIfAny R (some n) (some n')

end

/-! ### Links in place are demanded -/

/-- The demands of a schema, if there is one. -/
def demandsIfAny (node : Option Node) : List Demand := (node.map Node.demands).getD []

theorem demands_conditional (test : Node) (yes no : Option Node) : (Rule.conditional test yes no).demands =
    test.demands ++ demandsIfAny yes ++ demandsIfAny no := by
  cases yes <;> cases no <;> rfl

theorem demands_members (named : List (String × Node)) (patterned : List (Pattern × Node)) (others : Option Node) :
    (Rule.members named patterned others).demands =
      demandsOfPatterned patterned ++ demandsOfNamed named ++ demandsIfAny others := by
  cases others <;> rfl

mutual

theorem Node.Like.demanded {link : Link} : ∀ {n n' : Node}, n.Like R n' → link ∈ n.inPlace → .resolve link ∈ n.demands
  | .always _, _, _, h | .refused _, _, _, h => by simp [Node.inPlace] at h
  | .rules all, _, hlike, h => by
    cases hlike with
    | rules hall => exact demanded_of_likeAll hall h

theorem demanded_of_likeAll {link : Link} : ∀ {all all' : List Rule}, LikeAll R all all' → link ∈ inPlaceOfAll all →
    .resolve link ∈ demandsOfAll all
  | [], _, _, h => by simp [inPlaceOfAll] at h
  | r :: rest, _, hlike, h => by
    cases hlike with
    | cons hr hrest =>
      rw [inPlaceOfAll, List.mem_append] at h
      rw [demandsOfAll, List.mem_append]
      exact h.imp (Rule.Like.demanded hr) (demanded_of_likeAll hrest)

theorem Rule.Like.demanded {link : Link} : ∀ {r r' : Rule}, r.Like R r' → link ∈ r.inPlace → .resolve link ∈ r.demands
  | .reference _ _, _, _, h => by
    rw [Rule.inPlace, List.mem_singleton] at h
    rw [Rule.demands, h]
    exact List.mem_singleton_self _
  | .dependency .., _, hlike, h => by
    cases hlike with
    | dependency _ _ hnode => exact Node.Like.demanded hnode h
  | .allOf .., _, hlike, h => by
    cases hlike with
    | allOf _ hnode => exact Node.Like.demanded hnode h
  | .not .., _, hlike, h => by
    cases hlike with
    | not hnode => exact Node.Like.demanded hnode h
  | .anyOf nodes, _, hlike, h => by
    cases hlike with
    | anyOf hnodes => exact demanded_of_likeNodes hnodes h
  | .oneOf nodes, _, hlike, h => by
    cases hlike with
    | oneOf hnodes => exact demanded_of_likeNodes hnodes h
  | .conditional test yes no, _, hlike, h => by
    cases hlike with
    | conditional htest hyes hno =>
      rw [Rule.inPlace, List.mem_append, List.mem_append] at h
      rw [demands_conditional, List.mem_append, List.mem_append]
      exact h.imp (fun h => h.imp (Node.Like.demanded htest) (demanded_of_likeIfAny hyes)) (demanded_of_likeIfAny hno)
  | .unevaluatedMembers .., _, hlike, _ | .unevaluatedItems .., _, hlike, _ => by cases hlike
  | .assertion .., _, _, h | .property .., _, _, h | .patternProperty .., _, _, h | .members .., _, _, h
  | .items .., _, _, h | .itemAt .., _, _, h | .itemsFrom .., _, _, h | .contains .., _, _, h
  | .containsWithin .., _, _, h | .names .., _, _, h | .refused .., _, _, h => by simp [Rule.inPlace] at h

theorem demanded_of_likeNodes {link : Link} : ∀ {nodes nodes' : List Node}, LikeNodes R nodes nodes' →
    link ∈ inPlaceOfNodes nodes → .resolve link ∈ demandsOfNodes nodes
  | [], _, _, h => by simp [inPlaceOfNodes] at h
  | n :: rest, _, hlike, h => by
    cases hlike with
    | cons hn hrest =>
      rw [inPlaceOfNodes, List.mem_append] at h
      rw [demandsOfNodes, List.mem_append]
      exact h.imp (Node.Like.demanded hn) (demanded_of_likeNodes hrest)

theorem demanded_of_likeIfAny {link : Link} : ∀ {node node' : Option Node}, LikeIfAny R node node' →
    link ∈ inPlaceIfAny node → .resolve link ∈ demandsIfAny node
  | none, _, _, h => by simp [inPlaceIfAny] at h
  | some n, _, hlike, h => by
    cases hlike with
    | some hn => exact Node.Like.demanded hn h

end

/-! ### The demands and the links in place of nodes that are alike -/

inductive Demand.Like (R : Link → Link → Prop) : Demand → Demand → Prop
  | resolve {link link' : Link} (h : R link link') : Demand.Like R (.resolve link) (.resolve link')
  | fail (why why' : Refusal) : Demand.Like R (.fail why) (.fail why')

/-- Everything on the right is like something on the left. -/
def Covers {α : Type} (like : α → α → Prop) (left right : List α) : Prop := ∀ b ∈ right, ∃ a ∈ left, like a b

section Covers

variable {α : Type} {like : α → α → Prop} {left left' right right' : List α}

theorem Covers.nil : Covers like left [] := fun _ h => by cases h

theorem Covers.append (h : Covers like left right) (h' : Covers like left' right') :
    Covers like (left ++ left') (right ++ right') := by
  intro b hb
  rcases List.mem_append.1 hb with hb | hb
  · obtain ⟨a, ha, hlike⟩ := h b hb
    exact ⟨a, List.mem_append_left _ ha, hlike⟩
  · obtain ⟨a, ha, hlike⟩ := h' b hb
    exact ⟨a, List.mem_append_right _ ha, hlike⟩

theorem Covers.singleton {a b : α} (h : like a b) : Covers like [a] [b] := by
  intro c hc
  rw [List.mem_singleton.1 hc]
  exact ⟨a, List.mem_singleton_self a, h⟩

end Covers

mutual

theorem Node.Like.covers : ∀ {n n' : Node}, n.Like R n' →
    Covers (Demand.Like R) n.demands n'.demands ∧ Covers R n.inPlace n'.inPlace
  | .always _, _, hlike => by cases hlike; exact ⟨.nil, .nil⟩
  | .refused _, _, hlike => by cases hlike; exact ⟨.singleton (.fail _ _), .nil⟩
  | .rules all, _, hlike => by
    cases hlike with
    | rules hall => exact covers_of_likeAll hall
termination_by structural n => n

theorem covers_of_likeAll : ∀ {all all' : List Rule}, LikeAll R all all' →
    Covers (Demand.Like R) (demandsOfAll all) (demandsOfAll all') ∧ Covers R (inPlaceOfAll all) (inPlaceOfAll all')
  | [], _, hlike => by cases hlike; exact ⟨.nil, .nil⟩
  | r :: rest, _, hlike => by
    cases hlike with
    | cons hr hrest =>
      obtain ⟨hdemands, hplace⟩ := Rule.Like.covers hr
      obtain ⟨hdemands', hplace'⟩ := covers_of_likeAll hrest
      exact ⟨hdemands.append hdemands', hplace.append hplace'⟩
termination_by structural all => all

theorem Rule.Like.covers : ∀ {r r' : Rule}, r.Like R r' →
    Covers (Demand.Like R) r.demands r'.demands ∧ Covers R r.inPlace r'.inPlace
  | .assertion .., _, hlike => by cases hlike; exact ⟨.nil, .nil⟩
  | .refused _, _, hlike => by cases hlike; exact ⟨.singleton (.fail _ _), .nil⟩
  | .reference .., _, hlike => by
    cases hlike with
    | reference _ h => exact ⟨.singleton (.resolve h), .singleton h⟩
  | .property .., _, hlike => by
    cases hlike with
    | property _ hn => exact ⟨(Node.Like.covers hn).1, .nil⟩
  | .patternProperty .., _, hlike => by
    cases hlike with
    | patternProperty _ hn => exact ⟨(Node.Like.covers hn).1, .nil⟩
  | .members named patterned others, _, hlike => by
    cases hlike with
    | members hnamed hpatterned hothers =>
      rw [demands_members, demands_members]
      exact ⟨((covers_of_likePatterned hpatterned).append (covers_of_likeNamed hnamed)).append
        (covers_of_likeIfAny hothers).1, .nil⟩
  | .items _, _, hlike => by
    cases hlike with
    | items hn => exact ⟨(Node.Like.covers hn).1, .nil⟩
  | .itemAt .., _, hlike => by
    cases hlike with
    | itemAt _ _ hn => exact ⟨(Node.Like.covers hn).1, .nil⟩
  | .itemsFrom .., _, hlike => by
    cases hlike with
    | itemsFrom _ _ hn => exact ⟨(Node.Like.covers hn).1, .nil⟩
  | .contains _, _, hlike => by
    cases hlike with
    | contains hn => exact ⟨(Node.Like.covers hn).1, .nil⟩
  | .names _, _, hlike => by
    cases hlike with
    | names hn => exact ⟨(Node.Like.covers hn).1, .nil⟩
  | .dependency .., _, hlike => by
    cases hlike with
    | dependency _ _ hn => exact Node.Like.covers hn
  | .allOf .., _, hlike => by
    cases hlike with
    | allOf _ hn => exact Node.Like.covers hn
  | .not .., _, hlike => by
    cases hlike with
    | not hn => exact Node.Like.covers hn
  | .anyOf _, _, hlike => by
    cases hlike with
    | anyOf hnodes => exact covers_of_likeNodes hnodes
  | .oneOf _, _, hlike => by
    cases hlike with
    | oneOf hnodes => exact covers_of_likeNodes hnodes
  | .conditional test yes no, _, hlike => by
    cases hlike with
    | conditional htest hyes hno =>
      obtain ⟨hdemands, hplace⟩ := Node.Like.covers htest
      obtain ⟨hyesDemands, hyesPlace⟩ := covers_of_likeIfAny hyes
      obtain ⟨hnoDemands, hnoPlace⟩ := covers_of_likeIfAny hno
      rw [demands_conditional, demands_conditional]
      exact ⟨(hdemands.append hyesDemands).append hnoDemands, (hplace.append hyesPlace).append hnoPlace⟩
  | .containsWithin .., _, hlike | .unevaluatedMembers .., _, hlike | .unevaluatedItems .., _, hlike => by cases hlike
termination_by structural r => r

theorem covers_of_likeNodes : ∀ {nodes nodes' : List Node}, LikeNodes R nodes nodes' →
    Covers (Demand.Like R) (demandsOfNodes nodes) (demandsOfNodes nodes') ∧
      Covers R (inPlaceOfNodes nodes) (inPlaceOfNodes nodes')
  | [], _, hlike => by cases hlike; exact ⟨.nil, .nil⟩
  | n :: rest, _, hlike => by
    cases hlike with
    | cons hn hrest =>
      obtain ⟨hdemands, hplace⟩ := Node.Like.covers hn
      obtain ⟨hdemands', hplace'⟩ := covers_of_likeNodes hrest
      exact ⟨hdemands.append hdemands', hplace.append hplace'⟩
termination_by structural nodes => nodes

theorem covers_of_likeNamed : ∀ {named named' : List (String × Node)}, LikeNamed R named named' →
    Covers (Demand.Like R) (demandsOfNamed named) (demandsOfNamed named')
  | [], _, hlike => by cases hlike; exact .nil
  | (_, n) :: rest, _, hlike => by
    cases hlike with
    | cons _ hn hrest => exact (Node.Like.covers hn).1.append (covers_of_likeNamed hrest)
termination_by structural named => named

theorem covers_of_likePatterned : ∀ {patterned patterned' : List (Pattern × Node)},
    LikePatterned R patterned patterned' →
    Covers (Demand.Like R) (demandsOfPatterned patterned) (demandsOfPatterned patterned')
  | [], _, hlike => by cases hlike; exact .nil
  | (_, n) :: rest, _, hlike => by
    cases hlike with
    | cons _ hn hrest => exact (Node.Like.covers hn).1.append (covers_of_likePatterned hrest)
termination_by structural patterned => patterned

theorem covers_of_likeIfAny : ∀ {node node' : Option Node}, LikeIfAny R node node' →
    Covers (Demand.Like R) (demandsIfAny node) (demandsIfAny node') ∧
      Covers R (inPlaceIfAny node) (inPlaceIfAny node')
  | none, _, hlike => by cases hlike; exact ⟨.nil, .nil⟩
  | some n, _, hlike => by
    cases hlike with
    | some hn => exact Node.Like.covers hn
termination_by structural node => node

end

/-! ### What stands inside of an instance -/

theorem depth_pos (t : Tree) : 0 < t.depth := by
  cases t <;> simp [Tree.depth]

theorem depth_lt_of_mem_itemsOf {t v : Tree} (h : t ∈ itemsOf v) : t.depth < v.depth := by
  have hitems : ∀ items : List Tree, t ∈ items → t.depth ≤ Tree.depthItems items := by
    intro items
    induction items with
    | nil => intro h; cases h
    | cons u rest ih =>
      intro h
      rw [Tree.depthItems]
      rcases List.mem_cons.1 h with rfl | h
      · exact Nat.le_max_left ..
      · exact Nat.le_trans (ih h) (Nat.le_max_right ..)
  cases v with
  | array items =>
    rw [Tree.depth]
    exact Nat.lt_succ_of_le (hitems items h)
  | _ => cases h

theorem depth_lt_of_mem_membersOf {m : String × Tree} {v : Tree} (h : m ∈ membersOf v) : m.2.depth < v.depth := by
  have hmembers : ∀ members : List (String × Tree), m ∈ members → m.2.depth ≤ Tree.depthMembers members := by
    intro members
    induction members with
    | nil => intro h; cases h
    | cons other rest ih =>
      intro h
      rw [Tree.depthMembers]
      rcases List.mem_cons.1 h with rfl | h
      · exact Nat.le_max_left ..
      · exact Nat.le_trans (ih h) (Nat.le_max_right ..)
  cases v with
  | object members =>
    rw [Tree.depth]
    exact Nat.lt_succ_of_le (hmembers members h)
  | _ => cases h

/-- A name is no deeper than what stands under it. -/
theorem depth_name_lt {m : String × Tree} {v : Tree} (h : m ∈ membersOf v) : (Tree.string m.1).depth < v.depth :=
  Nat.lt_of_le_of_lt (depth_pos m.2) (depth_lt_of_mem_membersOf h)

/-! ### What links are asked -/

/-- What links are asked about an instance: those in place about itself, all others about what is less deep. -/
def Asks (inPlace : List Link) (demands : List Demand) (v : Tree) (link : Link) (u : Tree) : Prop :=
  link ∈ inPlace ∧ u = v ∨ .resolve link ∈ demands ∧ u.depth < v.depth

/-- Behind links that stand for each other the same is accepted, as far as it is asked. -/
def Agree (R : Link → Link → Prop) (b b' : Behind) (asked : Link → Tree → Prop) : Prop :=
  ∀ link link' u, R link link' → asked link u → b.accepts link u = b'.accepts link' u

section Agree

variable {b b' : Behind} {inPlace inPlace' : List Link} {demands demands' : List Demand} {v u : Tree}

theorem Agree.mono {asked asked' : Link → Tree → Prop} (h : Agree R b b' asked)
    (hasked : ∀ link u, asked' link u → asked link u) : Agree R b b' asked' :=
  fun link link' u hlink hu => h link link' u hlink (hasked link u hu)

/-- A part that is asked about the same instance. -/
theorem Agree.part (h : Agree R b b' (Asks inPlace demands v)) (hplace : ∀ link ∈ inPlace', link ∈ inPlace)
    (hdemands : ∀ d ∈ demands', d ∈ demands) : Agree R b b' (Asks inPlace' demands' v) :=
  h.mono fun link _ hasked => hasked.imp (And.imp_left (hplace link)) (And.imp_left (hdemands _))

/-- A part that is asked about something inside of the instance. -/
theorem Agree.inside {n n' : Node} (h : Agree R b b' (Asks inPlace demands v)) (hlike : n.Like R n')
    (hdemands : ∀ d ∈ n.demands, d ∈ demands) (hu : u.depth < v.depth) :
    Agree R b b' (Asks n.inPlace n.demands u) := by
  refine h.mono fun link w hasked => .inr ?_
  rcases hasked with ⟨hplace, rfl⟩ | ⟨hdemand, hw⟩
  · exact ⟨hdemands _ (hlike.demanded hplace), hu⟩
  · exact ⟨hdemands _ hdemand, Nat.lt_trans hw hu⟩

theorem Agree.insideIfAny {node node' : Option Node} (h : Agree R b b' (Asks inPlace demands v))
    (hlike : LikeIfAny R node node') (hdemands : ∀ d ∈ demandsIfAny node, d ∈ demands) (hu : u.depth < v.depth) :
    Agree R b b' (Asks (inPlaceIfAny node) (demandsIfAny node) u) := by
  cases hlike with
  | none =>
    rintro link link' w - (⟨hplace, -⟩ | ⟨hdemand, -⟩)
    · cases hplace
    · cases hdemand
  | some hn => exact h.inside hn hdemands hu

end Agree

/-! ### Nodes that are alike accept the same -/

section Accepts

variable {b b' : Behind}

private theorem all_congr_of_mem {α : Type} {l : List α} {p q : α → Bool} (h : ∀ a ∈ l, p a = q a) :
    l.all p = l.all q := by
  rw [Bool.eq_iff_iff, List.all_eq_true, List.all_eq_true]
  exact forall₂_congr fun a ha => by rw [h a ha]

private theorem any_congr_of_mem {α : Type} {l : List α} {p q : α → Bool} (h : ∀ a ∈ l, p a = q a) :
    l.any p = l.any q := by
  rw [Bool.eq_iff_iff, List.any_eq_true, List.any_eq_true]
  exact exists_congr fun a => and_congr_right fun ha => by rw [h a ha]

mutual

theorem Node.Like.accepts_eq : ∀ {n n' : Node} {v : Tree}, n.Like R n' → Agree R b b' (Asks n.inPlace n.demands v) →
    n.accepts b v = n'.accepts b' v
  | .always _, _, v, hlike, _ => by cases hlike; rfl
  | .refused _, _, v, hlike, _ => by cases hlike; rfl
  | .rules all, _, v, hlike, h => by
    cases hlike with
    | rules hall => exact acceptsAll_of_likeAll hall h
termination_by structural n => n

theorem acceptsAll_of_likeAll : ∀ {all all' : List Rule} {v : Tree}, LikeAll R all all' →
    Agree R b b' (Asks (inPlaceOfAll all) (demandsOfAll all) v) → acceptsAll b all v = acceptsAll b' all' v
  | [], _, v, hlike, _ => by cases hlike; rfl
  | r :: rest, _, v, hlike, h => by
    cases hlike with
    | cons hr hrest =>
      have hhead := Rule.Like.accepts_eq hr (h.part (fun _ => List.mem_append_left _) fun _ => List.mem_append_left _)
      have htail := acceptsAll_of_likeAll hrest
        (h.part (fun _ => List.mem_append_right _) fun _ => List.mem_append_right _)
      rw [acceptsAll, acceptsAll, hhead, htail]
termination_by structural n => n

theorem Rule.Like.accepts_eq : ∀ {r r' : Rule} {v : Tree}, r.Like R r' → Agree R b b' (Asks r.inPlace r.demands v) →
    r.accepts b v = r'.accepts b' v
  | .assertion .., _, v, hlike, _ => by cases hlike; rfl
  | .refused _, _, v, hlike, _ => by cases hlike; rfl
  | .reference _ link, _, v, hlike, h => by
    cases hlike with
    | reference _ hlink => exact h link _ v hlink (.inl ⟨List.mem_singleton_self _, rfl⟩)
  | .property name n, _, v, hlike, h => by
    cases hlike with
    | property _ hn =>
      rw [Rule.accepts, Rule.accepts]
      cases hget : OrderedMap.get? (membersOf v) name with
      | none => rfl
      | some t =>
        have ht : t.depth < v.depth := depth_lt_of_mem_membersOf (OrderedMap.mem_of_get? hget)
        exact Node.Like.accepts_eq hn (h.inside hn (fun _ => id) ht)
  | .patternProperty pattern n, _, v, hlike, h => by
    cases hlike with
    | patternProperty _ hn =>
      rw [Rule.accepts, Rule.accepts]
      refine all_congr_of_mem fun m hm => ?_
      rw [Node.Like.accepts_eq hn (h.inside hn (fun _ => id) (depth_lt_of_mem_membersOf hm))]
  | .members named patterned others, _, v, hlike, h => by
    cases hlike with
    | members hnamed hpatterned hothers =>
      rw [demands_members] at h
      rw [Rule.accepts, Rule.accepts]
      refine all_congr_of_mem fun m hm => ?_
      have hdepth := depth_lt_of_mem_membersOf hm
      rw [acceptsNamed_of_like m.1 hnamed (fun d hd => List.mem_append_left _ (List.mem_append_right _ hd)) h hdepth,
        acceptsMatching_of_like m.1 hpatterned (fun d hd => List.mem_append_left _ (List.mem_append_left _ hd)) h hdepth,
        acceptsOr_of_like false hothers (h.insideIfAny hothers (fun d hd => List.mem_append_right _ hd) hdepth)]
  | .items n, _, v, hlike, h => by
    cases hlike with
    | items hn =>
      rw [Rule.accepts, Rule.accepts]
      exact all_congr_of_mem fun t ht =>
        Node.Like.accepts_eq hn (h.inside hn (fun _ => id) (depth_lt_of_mem_itemsOf ht))
  | .itemAt _ i n, _, v, hlike, h => by
    cases hlike with
    | itemAt _ _ hn =>
      rw [Rule.accepts, Rule.accepts]
      cases hget : (itemsOf v)[i]? with
      | none => rfl
      | some t =>
        have ht : t.depth < v.depth := depth_lt_of_mem_itemsOf (List.mem_of_getElem? hget)
        exact Node.Like.accepts_eq hn (h.inside hn (fun _ => id) ht)
  | .itemsFrom _ count n, _, v, hlike, h => by
    cases hlike with
    | itemsFrom _ _ hn =>
      rw [Rule.accepts, Rule.accepts]
      exact all_congr_of_mem fun t ht =>
        Node.Like.accepts_eq hn (h.inside hn (fun _ => id) (depth_lt_of_mem_itemsOf (List.mem_of_mem_drop ht)))
  | .contains n, _, v, hlike, h => by
    cases hlike with
    | contains hn =>
      cases v with
      | array items =>
        rw [Rule.accepts, Rule.accepts]
        refine any_congr_of_mem fun t ht => ?_
        have hdepth : t.depth < (Tree.array items).depth := depth_lt_of_mem_itemsOf (v := .array items) ht
        exact Node.Like.accepts_eq hn (h.inside hn (fun _ => id) hdepth)
      | _ => rfl
  | .names n, _, v, hlike, h => by
    cases hlike with
    | names hn =>
      rw [Rule.accepts, Rule.accepts]
      exact all_congr_of_mem fun m hm => Node.Like.accepts_eq hn (h.inside hn (fun _ => id) (depth_name_lt hm))
  | .dependency _ name n, _, v, hlike, h => by
    cases hlike with
    | dependency _ _ hn => rw [Rule.accepts, Rule.accepts, Node.Like.accepts_eq hn h]
  | .allOf _ n, _, v, hlike, h => by
    cases hlike with
    | allOf _ hn => rw [Rule.accepts, Rule.accepts, Node.Like.accepts_eq hn h]
  | .not n _, _, v, hlike, h => by
    cases hlike with
    | not hn => rw [Rule.accepts, Rule.accepts, Node.Like.accepts_eq hn h]
  | .anyOf nodes, _, v, hlike, h => by
    cases hlike with
    | anyOf hnodes => rw [Rule.accepts, Rule.accepts, countAccepting_of_like hnodes h]
  | .oneOf nodes, _, v, hlike, h => by
    cases hlike with
    | oneOf hnodes => rw [Rule.accepts, Rule.accepts, countAccepting_of_like hnodes h]
  | .conditional test yes no, _, v, hlike, h => by
    cases hlike with
    | conditional htest hyes hno =>
      rw [demands_conditional, Rule.inPlace] at h
      have hleft := h.part (fun _ => List.mem_append_left _) fun _ => List.mem_append_left _
      have hright := h.part (fun _ => List.mem_append_right _) fun _ => List.mem_append_right _
      rw [Rule.accepts, Rule.accepts,
        Node.Like.accepts_eq htest (hleft.part (fun _ => List.mem_append_left _) fun _ => List.mem_append_left _),
        acceptsOr_of_like true hyes
          (hleft.part (fun _ => List.mem_append_right _) fun _ => List.mem_append_right _),
        acceptsOr_of_like true hno hright]
  | .containsWithin .., _, _, hlike, _ | .unevaluatedMembers .., _, _, hlike, _
  | .unevaluatedItems .., _, _, hlike, _ => by cases hlike
termination_by structural n => n

theorem acceptsOr_of_like (otherwise : Bool) : ∀ {node node' : Option Node} {v : Tree}, LikeIfAny R node node' →
    Agree R b b' (Asks (inPlaceIfAny node) (demandsIfAny node) v) →
    acceptsOr b otherwise node v = acceptsOr b' otherwise node' v
  | none, _, v, hlike, _ => by cases hlike; rfl
  | some n, _, v, hlike, h => by
    cases hlike with
    | some hn => exact Node.Like.accepts_eq hn h
termination_by structural n => n

theorem countAccepting_of_like : ∀ {nodes nodes' : List Node} {v : Tree}, LikeNodes R nodes nodes' →
    Agree R b b' (Asks (inPlaceOfNodes nodes) (demandsOfNodes nodes) v) →
    countAccepting b nodes v = countAccepting b' nodes' v
  | [], _, v, hlike, _ => by cases hlike; rfl
  | n :: rest, _, v, hlike, h => by
    cases hlike with
    | cons hn hrest =>
      have hhead := Node.Like.accepts_eq hn (h.part (fun _ => List.mem_append_left _) fun _ => List.mem_append_left _)
      have htail := countAccepting_of_like hrest
        (h.part (fun _ => List.mem_append_right _) fun _ => List.mem_append_right _)
      rw [countAccepting, countAccepting, hhead, htail]
termination_by structural n => n

theorem acceptsNamed_of_like (name : String) {inPlace : List Link} {demands : List Demand} {v u : Tree} :
    ∀ {named named' : List (String × Node)}, LikeNamed R named named' → (∀ d ∈ demandsOfNamed named, d ∈ demands) →
    Agree R b b' (Asks inPlace demands v) → u.depth < v.depth →
    acceptsNamed b named name u = acceptsNamed b' named' name u
  | [], _, hlike, _, _, _ => by cases hlike; rfl
  | (key, n) :: rest, _, hlike, hdemands, h, hu => by
    cases hlike with
    | cons _ hn hrest =>
      have hhead := Node.Like.accepts_eq hn (h.inside hn (fun d hd => hdemands d (List.mem_append_left _ hd)) hu)
      have htail := acceptsNamed_of_like name hrest (fun d hd => hdemands d (List.mem_append_right _ hd)) h hu
      rw [acceptsNamed, acceptsNamed, hhead, htail]
termination_by structural n => n

theorem acceptsMatching_of_like (name : String) {inPlace : List Link} {demands : List Demand} {v u : Tree} :
    ∀ {patterned patterned' : List (Pattern × Node)}, LikePatterned R patterned patterned' →
    (∀ d ∈ demandsOfPatterned patterned, d ∈ demands) → Agree R b b' (Asks inPlace demands v) → u.depth < v.depth →
    acceptsMatching b patterned name u = acceptsMatching b' patterned' name u
  | [], _, hlike, _, _, _ => by cases hlike; rfl
  | (pattern, n) :: rest, _, hlike, hdemands, h, hu => by
    cases hlike with
    | cons _ hn hrest =>
      have hhead := Node.Like.accepts_eq hn (h.inside hn (fun d hd => hdemands d (List.mem_append_left _ hd)) hu)
      have htail := acceptsMatching_of_like name hrest (fun d hd => hdemands d (List.mem_append_right _ hd)) h hu
      rw [acceptsMatching, acceptsMatching, hhead, htail]
termination_by structural n => n

end

end Accepts

end YamlSchema.Schema
