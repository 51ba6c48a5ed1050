import Mathlib.Data.List.Forall2
import YamlSchema.Proofs.Schema.Likeness
import YamlSchema.Proofs.Schema.Nameless

/-!
# Reading a schema in another place

A nameless schema that is read by Draft 7 at two places comes to nodes that are alike, as long as each of its references
means the same at both (`read_like`): what a keyword becomes depends on the draft, on the trees beside it and on the
nodes in it (`Reading.keywordRules_like`), and the place only comes into it by the links.
-/

namespace YamlSchema.Schema

variable {R : Link → Link → Prop}

/-! ### Lists of rules that are alike -/

theorem LikeAll.append {all all' more more' : List Rule} (h : LikeAll R all all') (hmore : LikeAll R more more') :
    LikeAll R (all ++ more) (all' ++ more') := by
  match all, all', h with
  | [], [], _ => exact hmore
  | _ :: _, _ :: _, .cons hr hrest => exact .cons hr (hrest.append hmore)

theorem LikeAll.singleton {r r' : Rule} (h : r.Like R r') : LikeAll R [r] [r'] := .cons h .nil

theorem LikeNodes.mapIdx {nodes nodes' : List Node} (h : LikeNodes R nodes nodes') (rule : Nat → Node → Rule)
    (hrule : ∀ i n n', n.Like R n' → (rule i n).Like R (rule i n')) :
    LikeAll R (nodes.mapIdx rule) (nodes'.mapIdx rule) := by
  match nodes, nodes', h with
  | [], [], _ => exact .nil
  | _ :: _, _ :: _, .cons hn hrest =>
    rw [List.mapIdx_cons, List.mapIdx_cons]
    exact .cons (hrule _ _ _ hn) (hrest.mapIdx (fun i => rule (i + 1)) fun i => hrule (i + 1))

theorem LikeNamed.map {named named' : List (String × Node)} (h : LikeNamed R named named')
    (rule : String → Node → Rule) (hrule : ∀ name n n', n.Like R n' → (rule name n).Like R (rule name n')) :
    LikeAll R (named.map fun e => rule e.1 e.2) (named'.map fun e => rule e.1 e.2) := by
  match named, named', h with
  | [], [], _ => exact .nil
  | _ :: _, _ :: _, .cons _ hn hrest => exact .cons (hrule _ _ _ hn) (hrest.map rule hrule)

theorem LikeNamed.zip {named named' : List (String × Node)} (h : LikeNamed R named named')
    (members : List (String × Tree)) :
    List.Forall₂ (fun e e' => e.1.1 = e'.1.1 ∧ e.1.2.Like R e'.1.2 ∧ e.2 = e'.2) (named.zip members)
      (named'.zip members) := by
  induction members generalizing named named' with
  | nil =>
    rw [List.zip_nil_right, List.zip_nil_right]
    exact .nil
  | cons m rest ih =>
    cases h with
    | nil => exact .nil
    | cons name hn hrest => exact .cons ⟨rfl, hn, rfl⟩ (ih hrest)

/-- A rule that holds no schema. -/
def Rule.isFlat : Rule → Bool
  | .assertion .. | .refused _ => true
  | _ => false

theorem LikeAll.of_isFlat {all : List Rule} (h : all.all Rule.isFlat = true) : LikeAll R all all := by
  induction all with
  | nil => exact .nil
  | cons r rest ih =>
    rw [List.all_cons, Bool.and_eq_true] at h
    refine .cons ?_ (ih h.2)
    cases r with
    | assertion keyword a => exact .assertion keyword a
    | refused why => exact .refused why why
    | _ => exact absurd h.1 (by simp [Rule.isFlat])

namespace Reading

structure Like (R : Link → Link → Prop) (r r' : Reading) : Prop where
  tree : r.tree = r'.tree
  node : r.node.Like R r'.node
  elements : LikeNodes R r.elements r'.elements
  entries : LikeNamed R r.entries r'.entries

/-- Siblings with the same keywords, whose values are read alike. -/
def LikeSiblings (R : Link → Link → Prop) (all all' : Siblings) : Prop :=
  List.Forall₂ (fun e e' => e.1 = e'.1 ∧ e.2.Like R e'.2) all all'

section Siblings

variable {all all' : Siblings} {keyword : String}

theorem LikeSiblings.get? (h : LikeSiblings R all all') (keyword : String) :
    Option.Rel (Like R) (OrderedMap.get? all keyword) (OrderedMap.get? all' keyword) := by
  induction h with
  | nil => exact .none
  | @cons e e' _ _ he _ ih =>
    obtain ⟨key, r⟩ := e
    obtain ⟨key', r'⟩ := e'
    obtain ⟨rfl, hr⟩ := he
    by_cases hk : key = keyword
    · simp only [OrderedMap.get?, hk, if_true]
      exact .some hr
    · simpa only [OrderedMap.get?, hk, if_false] using ih

theorem LikeSiblings.tree? (h : LikeSiblings R all all') (keyword : String) :
    Reading.tree? all' keyword = Reading.tree? all keyword := by
  have hget := h.get? keyword
  rw [Reading.tree?, Reading.tree?]
  generalize OrderedMap.get? all keyword = o, OrderedMap.get? all' keyword = o' at hget ⊢
  cases hget with
  | none => rfl
  | some hr => rw [Option.map_some, Option.map_some, hr.tree]

theorem LikeSiblings.node? (h : LikeSiblings R all all') (keyword : String) :
    LikeIfAny R (Reading.node? all keyword) (Reading.node? all' keyword) := by
  have hget := h.get? keyword
  rw [Reading.node?, Reading.node?]
  generalize OrderedMap.get? all keyword = o, OrderedMap.get? all' keyword = o' at hget ⊢
  cases hget with
  | none => exact .none
  | some hr => exact .some hr.node

theorem LikeSiblings.isClosed (h : LikeSiblings R all all') : Reading.isClosed all' = Reading.isClosed all := by
  rw [Reading.isClosed, Reading.isClosed, h.tree?]

end Siblings

/-! ### Keywords without schemas -/

section Flat

variable {s s' : Setting} {keyword : String} {value : Tree}

theorem isFlat_counted (a : Nat → Assertion) : (counted s keyword value a).all Rule.isFlat = true := by
  unfold counted
  split <;> rfl

theorem isFlat_numeric (a : Number → Assertion) : (numeric keyword value a).all Rule.isFlat = true := by
  unfold numeric
  split <;> rfl

theorem isFlat_named {rule : List String → List Rule} (h : ∀ names, (rule names).all Rule.isFlat = true) :
    (named value rule).all Rule.isFlat = true := by
  unfold named
  split
  · split
    · exact h _
    · rfl
  · rfl

theorem isFlat_typed : (typed s value).all Rule.isFlat = true := by
  unfold typed
  dsimp only
  split
  · split <;> rfl
  · split <;> rfl
  · split <;> rfl
  · rfl

theorem isFlat_bound (all : Siblings) (exclusive : String) (a exclusively : Number → Assertion) :
    (bound s all keyword exclusive value a exclusively).all Rule.isFlat = true := by
  unfold bound
  split
  · exact isFlat_numeric _
  · exact isFlat_numeric _

theorem isFlat_content (all : Siblings) (mediaType : String) : (content all mediaType).all Rule.isFlat = true := by
  unfold content
  split
  · rfl
  · split
    · rfl
    · split <;> rfl
    · rfl

theorem isFlat_requiredRules (r : Reading) : (requiredRules keyword r).all Rule.isFlat = true := by
  unfold requiredRules
  split
  · rw [List.all_flatMap, List.all_eq_true]
    intro e _
    split
    · split
      · rfl
      · exact isFlat_named fun _ => rfl
    · rfl
  · rfl

theorem isFlat_formatRules (r : Reading) : (formatRules s keyword r).all Rule.isFlat = true := by
  unfold formatRules
  split
  · rfl
  · split
    · cases Format.ofName? s.draft _ <;> rfl
    · rfl

end Flat

/-! ### Patterns -/

/-- Two readings of what stands under a pattern. -/
inductive LikeEntry (R : Link → Link → Prop) : Except Refusal (Pattern × Node) → Except Refusal (Pattern × Node) → Prop
  | ok (pattern : Pattern) {n n' : Node} (h : n.Like R n') : LikeEntry R (.ok (pattern, n)) (.ok (pattern, n'))
  | error (why : Refusal) : LikeEntry R (.error why) (.error why)

theorem Like.patterned {r r' : Reading} (hr : r.Like R r') :
    List.Forall₂ (LikeEntry R) (Reading.patterned r) (Reading.patterned r') := by
  rw [Reading.patterned, Reading.patterned, ← hr.tree, List.forall₂_map_left_iff, List.forall₂_map_right_iff]
  refine (LikeNamed.zip hr.entries _).imp ?_
  rintro ⟨⟨name, n⟩, m⟩ ⟨⟨_, n'⟩, _⟩ ⟨rfl, hn, rfl⟩
  dsimp only
  cases Pattern.read? name with
  | none => exact .error _
  | some pattern => exact .ok pattern hn

theorem likeAll_patternRules {entries entries' : List (Except Refusal (Pattern × Node))}
    (h : List.Forall₂ (LikeEntry R) entries entries') : LikeAll R (patternRules entries) (patternRules entries') := by
  induction h with
  | nil => exact .nil
  | cons he _ ih =>
    refine .cons ?_ ih
    cases he with
    | ok pattern hn => exact .patternProperty pattern hn
    | error why => exact .refused why why

/-- Where every pattern can be read, the schemas under them are alike; or else there is one that cannot be read. -/
theorem mapM_id_of_likeEntry {entries entries' : List (Except Refusal (Pattern × Node))}
    (h : List.Forall₂ (LikeEntry R) entries entries') :
    (∃ ps ps', entries.mapM id = .ok ps ∧ entries'.mapM id = .ok ps' ∧ LikePatterned R ps ps') ∨
      ∃ why, entries.mapM id = .error why ∧ entries'.mapM id = .error why := by
  induction h with
  | nil => exact .inl ⟨[], [], rfl, rfl, .nil⟩
  | cons he _ ih =>
    rw [List.mapM_cons, List.mapM_cons]
    cases he with
    | error why => exact .inr ⟨why, rfl, rfl⟩
    | ok pattern hn =>
      rcases ih with ⟨ps, ps', hps, hps', hlike⟩ | ⟨why, hwhy, hwhy'⟩
      · rw [hps, hps']
        exact .inl ⟨_, _, rfl, rfl, .cons pattern hn hlike⟩
      · rw [hwhy, hwhy']
        exact .inr ⟨why, rfl, rfl⟩

/-! ### Keywords with schemas -/

section Keywords

variable {s s' : Setting} {all all' : Siblings} {r r' : Reading}

theorem tellsEvaluated_of_draft7 (hs : s.draft = .draft7) : tellsEvaluated s = false := by
  rw [tellsEvaluated, hs]
  decide

theorem isObject_of_rel {o o' : Option Reading} (h : Option.Rel (Like R) o o') :
    (o'.all fun r => r.tree.object?.isSome) = o.all fun r => r.tree.object?.isSome := by
  cases h with
  | none => rfl
  | some h => rw [Option.all_some, Option.all_some, h.tree]

/-- The rule that takes the named and the patterned members with it. -/
theorem closing_members_like {properties properties' patterns patterns' : Option Reading}
    {others others' : Option Node} : Option.Rel (Like R) properties properties' →
    Option.Rel (Like R) patterns patterns' → LikeIfAny R others others' → LikeAll R
      (match properties, patterns, others, ((patterns.map patterned).getD []).mapM id with
        | none, none, none, _ => [.assertion "additionalProperties" .noMembers]
        | _, _, _, .ok ps => [.members ((properties.map Reading.entries).getD []) ps others]
        | _, _, _, .error _ => patternRules ((patterns.map patterned).getD []))
      (match properties', patterns', others', ((patterns'.map patterned).getD []).mapM id with
        | none, none, none, _ => [.assertion "additionalProperties" .noMembers]
        | _, _, _, .ok ps => [.members ((properties'.map Reading.entries).getD []) ps others']
        | _, _, _, .error _ => patternRules ((patterns'.map patterned).getD [])) := by
  intro hproperties hpatterns hothers
  have hentries : List.Forall₂ (LikeEntry R) ((patterns.map patterned).getD []) ((patterns'.map patterned).getD []) := by
    cases hpatterns with
    | none => exact .nil
    | some h => exact h.patterned
  have hnamed : LikeNamed R ((properties.map Reading.entries).getD []) ((properties'.map Reading.entries).getD []) := by
    cases hproperties with
    | none => exact .nil
    | some h => exact h.entries
  rcases mapM_id_of_likeEntry hentries with ⟨ps, ps', hps, hps', hlike⟩ | ⟨why, hwhy, hwhy'⟩
  · rw [hps, hps']
    have hmembers := LikeAll.singleton (Rule.Like.members hnamed hlike hothers)
    cases hproperties with
    | some => exact hmembers
    | none =>
      cases hpatterns with
      | some => exact hmembers
      | none =>
        cases hothers with
        | some => exact hmembers
        | none => exact .of_isFlat rfl
  · rw [hwhy, hwhy']
    have hrules := likeAll_patternRules hentries
    cases hproperties with
    | some => exact hrules
    | none =>
      cases hpatterns with
      | some => exact hrules
      | none =>
        cases hothers with
        | some => exact hrules
        | none => exact .of_isFlat rfl

theorem closing_like (hs : s.draft = .draft7) (hs' : s'.draft = .draft7) (hall : LikeSiblings R all all')
    (hr : r.Like R r') : LikeAll R (closing s all r) (closing s' all' r') := by
  have hproperties := hall.get? "properties"
  have hpatterns := hall.get? "patternProperties"
  unfold closing
  rw [tellsEvaluated_of_draft7 hs, tellsEvaluated_of_draft7 hs', ← hr.tree]
  dsimp only
  simp only [isObject_of_rel hpatterns, isObject_of_rel hproperties]
  split
  · exact .of_isFlat rfl
  split
  · exact .nil
  split
  · exact .of_isFlat rfl
  refine closing_members_like hproperties hpatterns ?_
  split
  · exact .none
  · exact .some hr.node

theorem itemRules_like (hs : s.draft = .draft7) (hs' : s'.draft = .draft7) (hall : LikeSiblings R all all')
    (hr : r.Like R r') : LikeAll R (itemRules s all r) (itemRules s' all' r') := by
  unfold itemRules
  rw [tellsEvaluated_of_draft7 hs, tellsEvaluated_of_draft7 hs', hall.tree?, ← hr.tree]
  dsimp only
  split
  · exact hr.elements.mapIdx _ fun i n n' hn => .itemAt _ i hn
  · split
    · exact .singleton (.itemsFrom _ _ hr.node)
    · exact .singleton (.items hr.node)
  · split
    · exact .singleton (.itemsFrom _ _ hr.node)
    · exact .singleton (.items hr.node)
  · exact .nil
  · exact .nil

theorem additionalItemRules_like (hs : s.draft = .draft7) (hs' : s'.draft = .draft7)
    (hall : LikeSiblings R all all') (hr : r.Like R r') (keyword : String) :
    LikeAll R (additionalItemRules s all keyword r) (additionalItemRules s' all' keyword r') := by
  unfold additionalItemRules
  rw [tellsEvaluated_of_draft7 hs, tellsEvaluated_of_draft7 hs', hall.tree?, ← hr.tree]
  split
  · split
    · exact .singleton (.itemsFrom _ _ hr.node)
    · exact .of_isFlat rfl
    · exact .nil
    · exact .nil
  · exact .of_isFlat rfl
  · exact .nil
  · exact .nil
  · exact .nil
  · exact .of_isFlat rfl

theorem containing_like (hs : s.draft = .draft7) (hs' : s'.draft = .draft7) (hr : r.Like R r') :
    LikeAll R (containing s all r) (containing s' all' r') := by
  rw [containing, containing, tellsEvaluated_of_draft7 hs, tellsEvaluated_of_draft7 hs']
  exact .singleton (.contains hr.node)

theorem rel_find?_of_likeNamed {named named' : List (String × Node)} (h : LikeNamed R named named')
    (p : String → Bool) : Option.Rel (fun n n' => n.1 = n'.1 ∧ n.2.Like R n'.2) (named.find? fun n => p n.1)
      (named'.find? fun n => p n.1) := by
  match named, named', h with
  | [], [], _ => exact .none
  | (name, n) :: _, _ :: _, .cons _ hn hrest =>
    rw [List.find?_cons, List.find?_cons]
    by_cases hp : p name = true
    · rw [hp]
      exact .some ⟨rfl, hn⟩
    · rw [Bool.not_eq_true] at hp
      rw [hp]
      exact rel_find?_of_likeNamed hrest p

theorem dependencyRules_like (hr : r.Like R r') (keyword : String) :
    LikeAll R (dependencyRules keyword r) (dependencyRules keyword r') := by
  unfold dependencyRules
  rw [← hr.tree]
  split
  · rename_i members hmembers
    clear hmembers
    induction members with
    | nil => exact .nil
    | cons e rest ih =>
      rw [List.flatMap_cons, List.flatMap_cons]
      refine LikeAll.append ?_ ih
      split
      · exact .of_isFlat (isFlat_named fun _ => rfl)
      · have hfind := rel_find?_of_likeNamed hr.entries fun name => name = e.1
        generalize r.entries.find? _ = o, r'.entries.find? _ = o' at hfind ⊢
        cases hfind with
        | none => exact .nil
        | @some n n' h =>
          obtain ⟨name, node⟩ := n
          obtain ⟨name', node'⟩ := n'
          obtain ⟨rfl, hnode⟩ := h
          exact .singleton (.dependency _ _ hnode)
  · exact .of_isFlat rfl

theorem keywordRules_like (hs : s.draft = .draft7) (hs' : s'.draft = .draft7) (hall : LikeSiblings R all all')
    (hr : r.Like R r') {keyword : String} (hkeyword : keyword ∉ ["$ref", "$dynamicRef", "$recursiveRef"]) :
    LikeAll R (keywordRules s all keyword r) (keywordRules s' all' keyword r') := by
  have hdraft : s'.draft = s.draft := hs'.trans hs.symm
  have htyped : typed s' r.tree = typed s r.tree := by unfold typed; rw [hdraft]
  have hcounted : ∀ (a : Nat → Assertion), counted s' keyword r.tree a = counted s keyword r.tree a := by
    intro a
    rw [counted, counted, hdraft]
  have hbound : ∀ (exclusive : String) (a exclusively : Number → Assertion),
      bound s' all' keyword exclusive r.tree a exclusively = bound s all keyword exclusive r.tree a exclusively := by
    intro exclusive a exclusively
    rw [bound, bound, hdraft, hall.tree?]
  have hcontent : ∀ mediaType : String, content all' mediaType = content all mediaType := by
    intro mediaType
    rw [content, content, hall.tree?]
  have hformat : formatRules s' keyword r' = formatRules s keyword r := by
    rw [formatRules, formatRules, hdraft, hr.tree]
  have hrequired : requiredRules keyword r' = requiredRules keyword r := by
    rw [requiredRules, requiredRules, hr.tree]
  unfold keywordRules
  split
  all_goals (try simp only [hall.isClosed, ← hr.tree])
  -- references
  · exact absurd (by simp) hkeyword
  · exact absurd (by simp) hkeyword
  · exact absurd (by simp) hkeyword
  -- keywords with no schema in them
  · rw [htyped]; exact .of_isFlat isFlat_typed
  · split <;> exact .of_isFlat rfl
  · exact .of_isFlat rfl
  · exact .of_isFlat (isFlat_numeric _)
  · rw [hbound]; exact .of_isFlat (isFlat_bound _ _ _ _)
  · exact .of_isFlat (isFlat_numeric _)
  · rw [hbound]; exact .of_isFlat (isFlat_bound _ _ _ _)
  · exact .of_isFlat (isFlat_numeric _)
  iterate 6
    · rw [hcounted]; exact .of_isFlat (isFlat_counted _)
  · split
    · split <;> exact .of_isFlat rfl
    · exact .of_isFlat rfl
  · split <;> exact .of_isFlat rfl
  · exact .of_isFlat (isFlat_named fun _ => rfl)
  · rw [hrequired]; exact .of_isFlat (isFlat_requiredRules _)
  · rw [hformat]; exact .of_isFlat (isFlat_formatRules _)
  · have hmedia := hall.get? "contentMediaType"
    have hsome : (OrderedMap.get? all' "contentMediaType").isSome = (OrderedMap.get? all "contentMediaType").isSome := by
      generalize OrderedMap.get? all "contentMediaType" = o, OrderedMap.get? all' "contentMediaType" = o' at hmedia ⊢
      cases hmedia <;> rfl
    rw [hsome]
    split
    · exact .nil
    · split <;> exact .of_isFlat rfl
  · split
    · rw [hcontent]; exact .of_isFlat (isFlat_content _ _)
    · exact .of_isFlat rfl
  · split
    · exact .nil
    · split
      · exact hr.entries.map Rule.property fun name n n' hn => .property name hn
      · exact .of_isFlat rfl
  · split
    · exact .nil
    · split
      · exact likeAll_patternRules hr.patterned
      · exact .of_isFlat rfl
  · exact closing_like hs hs' hall hr
  · split
    · exact hr.elements.mapIdx _ fun i n n' hn => .itemAt _ i hn
    · exact .of_isFlat rfl
  · exact itemRules_like hs hs' hall hr
  · exact additionalItemRules_like hs hs' hall hr _
  · exact containing_like hs hs' hr
  · split
    · exact .singleton (.names hr.node)
    · exact .of_isFlat rfl
    · exact .nil
  · exact dependencyRules_like hr _
  · split
    · exact hr.entries.map (Rule.dependency _) fun name n n' hn => .dependency _ name hn
    · exact .of_isFlat rfl
  · split
    · exact hr.elements.mapIdx _ fun i n n' hn => .allOf i hn
    · exact .of_isFlat rfl
  · split
    · exact .singleton (.anyOf hr.elements)
    · exact .of_isFlat rfl
  · split
    · exact .singleton (.oneOf hr.elements)
    · exact .of_isFlat rfl
  · exact .singleton (.not hr.node _)
  · have hyes := hall.node? "then"
    have hno := hall.node? "else"
    rw [tellsEvaluated_of_draft7 hs, tellsEvaluated_of_draft7 hs']
    generalize Reading.node? all "then" = yes, Reading.node? all' "then" = yes' at hyes ⊢
    generalize Reading.node? all "else" = no, Reading.node? all' "else" = no' at hno ⊢
    cases hyes with
    | some hn => exact .singleton (.conditional hr.node (.some hn) hno)
    | none =>
      cases hno with
      | some hn => exact .singleton (.conditional hr.node .none (.some hn))
      | none => exact .nil
  · exact .nil

theorem knownRules_like (hs : s.draft = .draft7) (hs' : s'.draft = .draft7) (hall : LikeSiblings R all all')
    (hr : r.Like R r') {keyword : String} (hkeyword : keyword ≠ "$ref") :
    LikeAll R (knownRules s all (keyword, r)) (knownRules s' all' (keyword, r')) := by
  rw [knownRules, knownRules, hasKeyword_eq hs, hasKeyword_eq hs']
  dsimp only
  split
  · rename_i hknown
    refine keywordRules_like hs hs' hall hr ?_
    -- the other keywords for references are those of later drafts
    rintro hmem
    simp only [List.mem_cons, List.not_mem_nil, or_false] at hmem
    rcases hmem with h | h | h
    · exact hkeyword h
    · rw [h] at hknown
      exact absurd hknown (by decide)
    · rw [h] at hknown
      exact absurd hknown (by decide)
  · exact .nil

end Keywords

end Reading

/-! ### Trees -/

/-- A reference means links that stand for each other at two places, or it means nothing at both. -/
def LikeReference (R : Link → Link → Prop) (s s' : Setting) (reference : String) : Prop :=
  (∃ link link', Link.ofReference s reference = .ok link ∧ Link.ofReference s' reference = .ok link' ∧ R link link') ∨
    ∃ fault fault', Link.ofReference s reference = .error fault ∧ Link.ofReference s' reference = .error fault'

theorem LikeReference.of_eq {s : Setting} {reference : String} : LikeReference Eq s s reference := by
  rw [LikeReference]
  cases Link.ofReference s reference with
  | ok link => exact .inl ⟨link, link, rfl, rfl, rfl⟩
  | error fault => exact .inr ⟨fault, fault, rfl, rfl⟩

theorem LikeReference.flip {R : Link → Link → Prop} {s s' : Setting} {reference : String}
    (h : LikeReference R s s' reference) : LikeReference (fun l' l => R l l') s' s reference := by
  rcases h with ⟨link, link', hlink, hlink', hlike⟩ | ⟨fault, fault', hfault, hfault'⟩
  · exact .inl ⟨link', link, hlink', hlink, hlike⟩
  · exact .inr ⟨fault', fault, hfault', hfault⟩

open Reading

variable {s s' : Setting}

theorem referenceRules_like {r r' : Reading} (htree : r.tree = r'.tree) (keyword : String)
    (h : ∀ reference, r.tree = .string reference → LikeReference R s s' reference) :
    LikeAll R (referenceRules s keyword r) (referenceRules s' keyword r') := by
  rw [referenceRules, referenceRules, ← htree]
  split
  · rename_i reference htext
    rcases h reference htext with ⟨link, link', hlink, hlink', hlike⟩ | ⟨fault, fault', hfault, hfault'⟩
    · rw [hlink, hlink']
      exact .singleton (.reference keyword hlike)
    · rw [hfault, hfault']
      exact .singleton (.refused _ _)
  · exact .of_isFlat rfl

/-- Every keyword sees all the siblings, whatever part of them is gone through. -/
private theorem flatMap_knownRules_like (hs : s.draft = .draft7) (hs' : s'.draft = .draft7)
    (hall : LikeSiblings R all all') {some some' : Siblings} (hsome : LikeSiblings R some some')
    (hne : ∀ e ∈ some, e.1 ≠ "$ref") :
    LikeAll R (some.flatMap (knownRules s all)) (some'.flatMap (knownRules s' all')) := by
  induction hsome with
  | nil => exact .nil
  | @cons e e' _ _ he _ ih =>
    obtain ⟨key, r⟩ := e
    obtain ⟨key', r'⟩ := e'
    obtain ⟨rfl, hr⟩ := he
    rw [List.forall_mem_cons] at hne
    rw [List.flatMap_cons, List.flatMap_cons]
    exact (knownRules_like hs hs' hall hr hne.1).append (ih hne.2)

theorem assemble_like (hs : s.draft = .draft7) (hs' : s'.draft = .draft7) {members : List (String × Tree)}
    (hreferences : ∀ w, Refers (.object members) w → LikeReference R s s' w)
    (hall : LikeSiblings R (readMembers s members) (readMembers s' members)) :
    (read s (.object members)).node.Like R (read s' (.object members)).node := by
  cases href : OrderedMap.get? members "$ref" with
  | some t =>
    -- a reference hides what stands beside it
    have hhides : Draft.draft7.hidesSiblings = true := by decide
    rw [read, read, assemble, assemble, get?_readMembers, get?_readMembers, href, Option.map_some, Option.map_some, hs,
      hs', hhides]
    refine .rules (referenceRules_like ?_ _ fun w hw => hreferences w ⟨members, .refl _, ?_⟩)
    · rw [tree_read, tree_read]
    · rw [tree_read] at hw
      rw [← hw]
      exact OrderedMap.mem_of_get? href
  | none =>
    rw [node_of_object hs href, node_of_object hs' href]
    have hkeys : ∀ e ∈ readMembers s members, e.1 ≠ "$ref" := by
      intro e he heq
      rw [readMembers_eq_map, List.mem_map] at he
      obtain ⟨m, hm, rfl⟩ := he
      exact OrderedMap.get?_eq_none_iff.1 href (List.mem_map.2 ⟨m, hm, heq⟩)
    exact .rules (flatMap_knownRules_like hs hs' hall hall hkeys)

mutual

/-- What a nameless tree is read to depends on the place around it only by what its references mean there. -/
theorem read_like (hs : s.draft = .draft7) (hs' : s'.draft = .draft7) : ∀ t : Tree, IsNameless t →
    (∀ w, Refers t w → LikeReference R s s' w) → (read s t).Like R (read s' t)
  | .object members, h, hreferences => by
    have hall := readMembers_like hs hs' members (fun m hm => h.member hm) fun m hm w hw =>
      hreferences w (hw.of_hasPart (.member hm (.refl _)))
    refine ⟨by rw [tree_read, tree_read], assemble_like hs hs' hreferences hall, ?_, ?_⟩
    · rw [read, read]
      exact .nil
    · rw [read, read]
      dsimp only
      generalize readMembers s members = all, readMembers s' members = all' at hall
      induction hall with
      | nil => exact .nil
      | @cons e e' _ _ he _ ih =>
        obtain ⟨key, r⟩ := e
        obtain ⟨key', r'⟩ := e'
        obtain ⟨rfl, hr⟩ := he
        exact .cons key hr.node ih
  | .array items, h, hreferences => by
    refine ⟨by rw [tree_read, tree_read], ?_, ?_, ?_⟩
    · rw [read, read]
      exact .refused _ _
    · rw [read, read]
      exact readItems_like hs hs' items (fun t ht => h.item ht) fun t ht w hw =>
        hreferences w (hw.of_hasPart (.item ht (.refl _)))
    · rw [read, read]
      exact .nil
  | .bool b, _, _ => by
    rw [read, read]
    exact ⟨rfl, .always b, .nil, .nil⟩
  | .null, _, _ | .number _, _, _ | .string _, _, _ => by
    rw [read, read]
    · exact ⟨rfl, .refused _ _, .nil, .nil⟩
    all_goals simp

theorem readMembers_like (hs : s.draft = .draft7) (hs' : s'.draft = .draft7) : ∀ members : List (String × Tree),
    (∀ m ∈ members, IsNameless m.2) → (∀ m ∈ members, ∀ w, Refers m.2 w → LikeReference R s s' w) →
    LikeSiblings R (readMembers s members) (readMembers s' members)
  | [], _, _ => by
    rw [readMembers, readMembers]
    exact .nil
  | (key, t) :: rest, h, hreferences => by
    rw [List.forall_mem_cons] at h hreferences
    rw [readMembers, readMembers, h.1.entering hs, h.1.entering hs']
    exact .cons ⟨rfl, read_like hs hs' t h.1 hreferences.1⟩ (readMembers_like hs hs' rest h.2 hreferences.2)

theorem readItems_like (hs : s.draft = .draft7) (hs' : s'.draft = .draft7) : ∀ items : List Tree,
    (∀ t ∈ items, IsNameless t) → (∀ t ∈ items, ∀ w, Refers t w → LikeReference R s s' w) →
    LikeNodes R ((readItems s items).map fun r => r.node) ((readItems s' items).map fun r => r.node)
  | [], _, _ => by
    rw [readItems, readItems]
    exact .nil
  | t :: rest, h, hreferences => by
    rw [List.forall_mem_cons] at h hreferences
    rw [readItems, readItems, h.1.entering hs, h.1.entering hs']
    exact .cons (read_like hs hs' t h.1 hreferences.1).node (readItems_like hs hs' rest h.2 hreferences.2)

end

end YamlSchema.Schema
