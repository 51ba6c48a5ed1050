import YamlSchema.Proofs.Glob.Spelling

/-!
# Texts that stand for one token

Most characters stand for themselves in a pattern, and brackets around a character take its meaning away
(`spells_singleton`, `spells_bracketed`).  A pattern that is put together from such texts is read text by text, wherever
they stand in it (`scan_texts`), and component by component (`segments_of_pieces`).
-/

namespace YamlSchema.Glob

/-! ### Tokens -/

namespace Token

/-- A text stands for a token, whatever is before it and behind it. -/
def Spells (text : List Char) (token : Token) : Prop :=
  text ≠ [] ∧ ∀ position before rest, atHead position before (text ++ rest) = .ok (token, text.length)

/-- A character has no meaning in patterns. -/
def IsPlain (c : Char) : Prop := c ≠ '?' ∧ c ≠ '*' ∧ c ≠ '['

instance (c : Char) : Decidable (IsPlain c) := inferInstanceAs (Decidable (_ ∧ _))

/-- A text has no character with a meaning in patterns. -/
def ArePlain (cs : List Char) : Prop := ∀ c ∈ cs, IsPlain c

instance (cs : List Char) : Decidable (ArePlain cs) := List.decidableBAll IsPlain cs

theorem spells_singleton {c : Char} (h : IsPlain c) : Spells [c] (.exactly c) := by
  refine ⟨List.cons_ne_nil _ _, fun position before rest => ?_⟩
  obtain ⟨hany, hstar, hopen⟩ := h
  rw [List.singleton_append, atHead]
  · rfl
  · simpa using hany
  · simpa using hopen
  · simpa using hstar

/-- What a bracket around a character alone stands for; after an opening bracket `!` has a meaning of its own. -/
def bracketed (c : Char) : List Char := if c = '!' then "[b-a!]".toList else ['[', c, ']']

def bracketedToken (c : Char) : Token := if c = '!' then .oneOf [('b', 'a'), ('!', '!')] else .oneOf [(c, c)]

theorem spells_bracketed (c : Char) : Spells (bracketed c) (bracketedToken c) := by
  rw [bracketed, bracketedToken]
  split
  · refine ⟨by decide, fun position before rest => ?_⟩
    simp [atHead, range?, Token.bracketed?, ranges]
  · rename_i hc
    refine ⟨by simp, fun position before rest => ?_⟩
    have hrange : range? (c :: ']' :: rest) = some (.oneOf [(c, c)], 2) := by
      rw [range?]
      · simp [Token.bracketed?, ranges]
      · simpa using hc
    simp [atHead, hrange]

theorem scan_skip {cs : List Char} (position : Nat) (before : Option Char) (rest : List Char) :
    scan cs.length position before (cs ++ rest) = scan 0 (position + cs.length) (cs.getLast?.or before) rest := by
  induction cs generalizing position before with
  | nil => rfl
  | cons c cs ih =>
    rw [List.length_cons, List.cons_append, scan, ih, Nat.add_right_comm, Nat.add_assoc]
    cases cs <;> rfl

theorem scan_text {text : List Char} {token : Token} (h : Spells text token) (position : Nat) (before : Option Char)
    (rest : List Char) : scan 0 position before (text ++ rest) =
      (scan 0 (position + text.length) text.getLast? rest).map (token :: ·) := by
  obtain ⟨hne, hhead⟩ := h
  have hfirst := hhead position before rest
  cases text with
  | nil => contradiction
  | cons c cs =>
    rw [List.cons_append] at hfirst ⊢
    rw [scan, hfirst, List.length_cons]
    change (scan cs.length (position + 1) (some c) (cs ++ rest)).bind _ = _
    rw [scan_skip, Nat.add_assoc, Nat.add_comm 1, List.getLast?_cons, Option.or_some]
    cases scan 0 (position + (cs.length + 1)) (some (cs.getLast?.getD c)) rest <;> rfl

/-- Texts that stand for tokens are read one after the other. -/
theorem scan_texts {texts : List (List Char × Token)} (h : ∀ t ∈ texts, Spells t.1 t.2) (position : Nat)
    (before : Option Char) (rest : List Char) :
    ∃ position', scan 0 position before (texts.flatMap Prod.fst ++ rest) =
      (scan 0 position' ((texts.flatMap Prod.fst).getLast?.or before) rest).map (texts.map Prod.snd ++ ·) := by
  induction texts generalizing position before with
  | nil =>
    refine ⟨position, ?_⟩
    rw [List.flatMap_nil, List.nil_append, List.getLast?_nil, Option.none_or]
    cases scan 0 position before rest <;> rfl
  | cons t texts ih =>
    rw [List.forall_mem_cons] at h
    obtain ⟨position', hrest⟩ := ih h.2 (position + t.1.length) t.1.getLast?
    refine ⟨position', ?_⟩
    have hlast : t.1.getLast?.or before = t.1.getLast? := Option.or_of_isSome (List.getLast?_isSome.2 h.1.1)
    rw [List.flatMap_cons, List.append_assoc, scan_text h.1, hrest, List.getLast?_append, Option.or_assoc, hlast]
    cases scan 0 position' ((texts.flatMap Prod.fst).getLast?.or t.1.getLast?) rest <;> rfl

theorem ofChars_texts {texts : List (List Char × Token)} (h : ∀ t ∈ texts, Spells t.1 t.2) :
    ofChars (texts.flatMap Prod.fst) = .ok (texts.map Prod.snd) := by
  obtain ⟨position, hscan⟩ := scan_texts h 0 none []
  rw [List.append_nil] at hscan
  rw [ofChars, hscan]
  simp [scan, Except.map]

/-! ### What fits -/

/-- A token stands for one character and for no other text. -/
def IsOnly (c : Char) (token : Token) : Prop :=
  token ≠ .anyChars ∧ token ≠ .anyDirectories ∧ ∀ d, token.accepts d = true ↔ d = c

theorem isOnly_exactly (c : Char) : IsOnly c (.exactly c) :=
  ⟨Token.noConfusion, Token.noConfusion, fun _ => decide_eq_true_iff⟩

theorem isOnly_bracketedToken (c : Char) : IsOnly c (bracketedToken c) := by
  have hone (d : Char) : accepts d (.oneOf [(c, c)]) = true ↔ d = c := by
    change ([(c, c)].any fun r => decide (r.1 ≤ d) && decide (d ≤ r.2)) = true ↔ _
    simp only [List.any_cons, List.any_nil, Bool.or_false, Bool.and_eq_true, decide_eq_true_eq]
    exact ⟨fun h => Char.le_antisymm h.2 h.1, fun h => by rw [h]; exact ⟨Char.le_refl c, Char.le_refl c⟩⟩
  rw [bracketedToken]
  split
  · rename_i hc
    refine ⟨Token.noConfusion, Token.noConfusion, fun d => ?_⟩
    -- no character is between `b` and `a`
    have hnone : ¬ ('b' ≤ d ∧ d ≤ 'a') := fun h => absurd (Char.le_trans h.1 h.2) (by decide)
    rw [← hone d, hc]
    change ([('b', 'a'), ('!', '!')].any fun r => decide (r.1 ≤ d) && decide (d ≤ r.2)) = true ↔
      ([('!', '!')].any fun r => decide (r.1 ≤ d) && decide (d ≤ r.2)) = true
    simp [hnone]
  · exact ⟨Token.noConfusion, Token.noConfusion, hone⟩

theorem IsOnly.advance_eq {c : Char} {token : Token} (h : IsOnly c token) (rests : List (List Char)) :
    advance rests token = rests.filterMap fun rest => match rest with
      | [] => none
      | d :: rest => if d = c then some rest else none := by
  obtain ⟨hchars, hdirectories, haccepts⟩ := h
  rw [advance]
  · refine congrArg (rests.filterMap ·) (funext fun rest => ?_)
    cases rest with
    | nil => rfl
    | cons d rest => exact if_congr (haccepts d) rfl rfl
  · exact hchars
  · exact hdirectories

/-- Tokens that stand for one character each fit just one text. -/
theorem fit_of_isOnly {text : List Char} {tokens : List Token} (h : List.Forall₂ IsOnly text tokens) (cs : List Char) :
    fit tokens cs = true ↔ cs = text := by
  have hnothing : ∀ {text tokens}, List.Forall₂ IsOnly text tokens → tokens.foldl advance [] = [] := by
    intro text tokens h
    induction h with
    | nil => rfl
    | cons htoken _ ih => rwa [List.foldl_cons, htoken.advance_eq, List.filterMap_nil]
  rw [fit]
  induction h generalizing cs with
  | nil => simp
  | @cons c token text tokens htoken hrest ih =>
    rw [List.foldl_cons, htoken.advance_eq]
    cases cs with
    | nil => simp [hnothing hrest]
    | cons d cs =>
      by_cases hd : d = c
      · simpa [hd] using ih cs
      · simp [hd, hnothing hrest]

/-! ### Texts of plain characters -/

/-- A text of which each character stands for itself. -/
def plain (cs : List Char) : List (List Char × Token) := cs.map fun c => ([c], .exactly c)

theorem flatMap_plain (cs : List Char) : (plain cs).flatMap Prod.fst = cs := by
  simp [plain, List.flatMap_map]

theorem map_plain (cs : List Char) : (plain cs).map Prod.snd = cs.map .exactly := by
  simp [plain]

theorem spells_plain {cs : List Char} (h : ArePlain cs) : ∀ t ∈ plain cs, Spells t.1 t.2 := by
  intro t ht
  obtain ⟨c, hc, rfl⟩ := List.mem_map.1 ht
  exact spells_singleton (h c hc)

theorem ofChars_plain {cs : List Char} (h : ArePlain cs) : ofChars cs = .ok (cs.map .exactly) := by
  have htexts := ofChars_texts (spells_plain h)
  rwa [flatMap_plain, map_plain] at htexts

end Token

/-! ### Components -/

/-- A component of a pattern is read as a segment. -/
def Reads (piece : List Char) (segment : Segment) : Prop :=
  (Token.ofChars piece).map Segment.ofTokens = .ok segment

theorem reads_plain {cs : List Char} (h : Token.ArePlain cs) : Reads cs (.literal (String.ofList cs)) := by
  rw [Reads, Token.ofChars_plain h, Except.map, Segment.ofTokens_exactly]

theorem splitChars_intercalate {separator : Char} {pieces : List (List Char)} (hne : pieces ≠ [])
    (h : ∀ piece ∈ pieces, separator ∉ piece) : splitChars separator (List.intercalate [separator] pieces) = pieces := by
  induction pieces with
  | nil => contradiction
  | cons piece rest ih =>
    rw [List.forall_mem_cons] at h
    cases rest with
    | nil => simpa [List.intercalate] using splitChars_of_notMem h.1
    | cons next rest =>
      have hjoin : List.intercalate [separator] (piece :: next :: rest) =
          piece ++ separator :: List.intercalate [separator] (next :: rest) := by
        simp [List.intercalate]
      rw [hjoin, splitChars_append_cons, splitChars_of_notMem h.1, ih (List.cons_ne_nil _ _) h.2,
        List.singleton_append]

theorem segments_of_pieces {cs : List Char} {found : List Segment} (hlast : (splitChars '/' cs).getLast? ≠ some [])
    (h : List.Forall₂ Reads (splitChars '/' cs) found) : segments cs = .ok found := by
  rw [segments, if_neg fun hempty => hlast hempty.2]
  exact mapM_eq_ok_iff.2 h

/-- What a pattern matches, once it is read. -/
theorem expand_of_segments {fs : FileSystem} {pattern : String} {tokens : List Token} {found : List Segment}
    (htokens : Token.ofChars pattern.toList = .ok tokens)
    (hsegments : segments (if Path.isAbsolute pattern = true then pattern.toList.drop 1 else pattern.toList) = .ok found)
    (hlast : pattern.toList.getLast? ≠ some '/') :
    expand fs pattern = .ok (((start fs (Path.isAbsolute pattern)).map (visit found)).getD []) := by
  simp only [Path.isAbsolute, decide_eq_true_eq] at hsegments
  simp only [expand, htokens, hsegments, bind, Except.bind, pure, Except.pure, if_neg hlast, Path.isAbsolute]
  cases start fs (decide (pattern.toList.head? = some '/')) <;> rfl

/-- A component of a pattern is made of texts that stand for one token each, and has no star at its end. -/
structure IsQuoted (piece : List Char) : Prop where
  exists_texts : ∃ texts : List (List Char × Token), (∀ t ∈ texts, Token.Spells t.1 t.2) ∧ piece = texts.flatMap Prod.fst
  slash_notMem : '/' ∉ piece
  exists_last : ∃ c, piece.getLast? = some c ∧ c ≠ '*'

/-- The pattern of some components. -/
def patternOf (isAbsolute : Bool) (pieces : List (List Char)) : String :=
  String.ofList ((if isAbsolute then ['/'] else []) ++ List.intercalate ['/'] pieces)

theorem exists_texts_intercalate {pieces : List (List Char)} (h : ∀ piece ∈ pieces, IsQuoted piece) :
    ∃ texts : List (List Char × Token), (∀ t ∈ texts, Token.Spells t.1 t.2) ∧
      List.intercalate ['/'] pieces = texts.flatMap Prod.fst := by
  have hslash : Token.Spells ['/'] (.exactly '/') := Token.spells_singleton (by decide)
  induction pieces with
  | nil => exact ⟨[], List.forall_mem_nil _, rfl⟩
  | cons piece rest ih =>
    rw [List.forall_mem_cons] at h
    obtain ⟨texts, hspells, hpiece⟩ := h.1.exists_texts
    obtain ⟨others, hothers, hrest⟩ := ih h.2
    cases rest with
    | nil => exact ⟨texts, hspells, by simpa [List.intercalate] using hpiece⟩
    | cons next rest =>
      refine ⟨texts ++ (['/'], .exactly '/') :: others, ?_, ?_⟩
      · rw [List.forall_mem_append, List.forall_mem_cons]
        exact ⟨hspells, hslash, hothers⟩
      · rw [List.flatMap_append, List.flatMap_cons, ← hpiece, ← hrest]
        simp [List.intercalate]

theorem getLast?_intercalate {pieces : List (List Char)} (hne : pieces ≠ []) (h : ∀ piece ∈ pieces, IsQuoted piece) :
    ∃ c, (List.intercalate ['/'] pieces).getLast? = some c ∧ c ≠ '*' ∧ c ≠ '/' := by
  induction pieces with
  | nil => contradiction
  | cons piece rest ih =>
    rw [List.forall_mem_cons] at h
    cases rest with
    | nil =>
      obtain ⟨c, hc, hstar⟩ := h.1.exists_last
      refine ⟨c, by simpa [List.intercalate] using hc, hstar, fun heq => h.1.slash_notMem ?_⟩
      exact heq ▸ List.mem_of_getLast? hc
    | cons next rest =>
      obtain ⟨c, hc, hne⟩ := ih (List.cons_ne_nil _ _) h.2
      refine ⟨c, ?_, hne⟩
      have hjoin : List.intercalate ['/'] (piece :: next :: rest) =
          piece ++ '/' :: List.intercalate ['/'] (next :: rest) := by
        simp [List.intercalate]
      rw [hjoin, List.getLast?_append, List.getLast?_cons, hc]
      rfl

/-- Only a pattern that ends with a star is not the pattern of its files. -/
theorem filePattern_of_getLast? {pattern : String} {c : Char} (h : pattern.toList.getLast? = some c) (hc : c ≠ '*') :
    filePattern pattern = pattern := by
  rw [filePattern, if_neg]
  rintro (rfl | hsuffix)
  · exact hc (Option.some.inj h).symm
  · obtain ⟨before, hbefore⟩ := List.isSuffixOf_iff_suffix.1 hsuffix
    rw [← hbefore, List.getLast?_append] at h
    exact hc (Option.some.inj h).symm

section PatternOf

variable {pieces : List (List Char)} (isAbsolute : Bool)

theorem toList_patternOf :
    (patternOf isAbsolute pieces).toList = (if isAbsolute then ['/'] else []) ++ List.intercalate ['/'] pieces :=
  String.toList_ofList

theorem getLast?_patternOf (hne : pieces ≠ []) (h : ∀ piece ∈ pieces, IsQuoted piece) :
    ∃ c, (patternOf isAbsolute pieces).toList.getLast? = some c ∧ c ≠ '*' ∧ c ≠ '/' := by
  obtain ⟨c, hlast, hc⟩ := getLast?_intercalate hne h
  exact ⟨c, by rw [toList_patternOf, List.getLast?_append, hlast, Option.some_or], hc⟩

theorem exists_tokens_patternOf (h : ∀ piece ∈ pieces, IsQuoted piece) :
    ∃ tokens, Token.ofChars (patternOf isAbsolute pieces).toList = .ok tokens := by
  obtain ⟨texts, hspells, htexts⟩ := exists_texts_intercalate h
  rw [toList_patternOf, htexts]
  cases isAbsolute with
  | true =>
    have hall : ∀ t ∈ (['/'], Token.exactly '/') :: texts, Token.Spells t.1 t.2 :=
      List.forall_mem_cons.2 ⟨Token.spells_singleton (by decide), hspells⟩
    exact ⟨_, Token.ofChars_texts hall⟩
  | false => exact ⟨_, Token.ofChars_texts hspells⟩

theorem splitChars_intercalate_quoted (hne : pieces ≠ []) (h : ∀ piece ∈ pieces, IsQuoted piece) :
    splitChars '/' (List.intercalate ['/'] pieces) = pieces :=
  splitChars_intercalate hne fun piece hpiece => (h piece hpiece).slash_notMem

theorem nil_notMem_of_quoted (h : ∀ piece ∈ pieces, IsQuoted piece) : [] ∉ pieces := by
  intro hmem
  obtain ⟨c, hc, -⟩ := (h [] hmem).exists_last
  cases hc

/-- Components that are not empty do not begin with a separator. -/
theorem isAbsolute_patternOf (hne : pieces ≠ []) (h : ∀ piece ∈ pieces, IsQuoted piece) :
    Path.isAbsolute (patternOf isAbsolute pieces) = isAbsolute := by
  rw [Path.isAbsolute, toList_patternOf]
  cases isAbsolute with
  | true => rfl
  | false =>
    rw [decide_eq_false_iff_not]
    intro hhead
    obtain ⟨rest, hrest⟩ := List.head?_eq_some_iff.1 hhead
    have hsplit : splitChars '/' ('/' :: rest) = pieces := by
      rw [← hrest]
      exact splitChars_intercalate_quoted hne h
    refine nil_notMem_of_quoted h ?_
    rw [← hsplit, splitChars, if_pos rfl]
    exact List.mem_cons_self

theorem segments_intercalate {found : List Segment} (hne : pieces ≠ []) (h : ∀ piece ∈ pieces, IsQuoted piece)
    (hreads : List.Forall₂ Reads pieces found) : segments (List.intercalate ['/'] pieces) = .ok found := by
  have hsplit := splitChars_intercalate_quoted hne h
  refine segments_of_pieces ?_ (hsplit.symm ▸ hreads)
  rw [hsplit]
  exact fun hlast => nil_notMem_of_quoted h (List.mem_of_getLast? hlast)

/-- A pattern of components finds what their segments visit. -/
theorem expand_patternOf (fs : FileSystem) {found : List Segment} (hne : pieces ≠ [])
    (hquoted : ∀ piece ∈ pieces, IsQuoted piece) (hreads : List.Forall₂ Reads pieces found) :
    expand fs (filePattern (patternOf isAbsolute pieces)) =
      .ok (((start fs isAbsolute).map (visit found)).getD []) := by
  obtain ⟨c, hlast, hstar, hslash⟩ := getLast?_patternOf isAbsolute hne hquoted
  obtain ⟨tokens, htokens⟩ := exists_tokens_patternOf isAbsolute hquoted
  have habsolute := isAbsolute_patternOf isAbsolute hne hquoted
  have hparts : segments (if Path.isAbsolute (patternOf isAbsolute pieces) = true then
      (patternOf isAbsolute pieces).toList.drop 1 else (patternOf isAbsolute pieces).toList) = .ok found := by
    rw [habsolute, toList_patternOf]
    cases isAbsolute <;> exact segments_intercalate hne hquoted hreads
  rw [filePattern_of_getLast? hlast hstar, expand_of_segments htokens hparts (by rw [hlast]; simpa using hslash),
    habsolute]

end PatternOf

end YamlSchema.Glob
