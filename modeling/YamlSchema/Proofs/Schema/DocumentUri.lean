import Mathlib.Data.List.TakeWhile
import YamlSchema.Proofs.Directive.Extraction
import YamlSchema.Proofs.Tree.Pointer
import YamlSchema.Schema.Resources

/-!
# The URIs of registered schemas

A schema that is compiled has the root URI, and one that it names by an identifier has the URI that the identifier means
there: its `documentUri`.  References mean the same in both documents (`resolve_documentUri`), except for those that
have no path of their own; in the compiled document these only reach the document itself.
-/

namespace YamlSchema

open Schema in
/-- A word stands in a path as it is. -/
theorem IsWord.isPathChar {name : String} (h : IsWord name) :
    ∀ c ∈ name.toList, UriReference.isPathChar false c = true ∧ c ≠ '%' := by
  intro c hc
  refine ⟨?_, fun heq => h.notMem (by decide) (heq ▸ hc)⟩
  have hword := h.2 c hc
  simp only [Directive.isWordChar, Bool.or_eq_true, decide_eq_true_eq] at hword
  rcases hword with (hword | rfl) | rfl
  · simp [UriReference.isPathChar, UriReference.isNameChar, UriReference.isUnreserved, hword]
  · decide
  · decide

namespace Schema

/-- The URI of a document that is named by its identifier. -/
def documentUri (name : String) : Uri := rootUri ++ name

/-- A URI means the document that is compiled, whatever query or fragment it ends in. -/
def IsRoot (uri : Uri) : Prop := uri.toList.takeWhile (fun c => c ≠ '#' && c ≠ '?') = rootUri.toList

theorem isRoot_rootUri : IsRoot rootUri := rfl

section Word

variable {name : String} (h : IsWord name)

include h

theorem documentUri_ne : documentUri name ≠ rootUri := by
  intro heq
  have hchars := congrArg String.toList heq
  rw [documentUri, String.toList_append] at hchars
  exact h.1 (List.append_right_eq_self.1 hchars)

theorem hash_notMem_documentUri : '#' ∉ (documentUri name).toList := by
  rw [documentUri, String.toList_append, List.mem_append, not_or]
  exact ⟨by decide, h.notMem (by decide)⟩

end Word

/-! ### Reading URIs -/

namespace UriReference

theorem spanEscaped_of_all {p : Char → Bool} {cs : List Char} (h : ∀ c ∈ cs, p c = true ∧ c ≠ '%') :
    ∀ i, ∃ j, spanEscaped p i cs = .ok (cs, ⟨[], j⟩) := by
  induction cs with
  | nil => exact fun i => ⟨i, by simp [spanEscaped]⟩
  | cons c rest ih =>
    intro i
    rw [List.forall_mem_cons] at h
    obtain ⟨j, hj⟩ := ih h.2 (i + c.utf8Size)
    refine ⟨j, ?_⟩
    rw [spanEscaped]
    · rw [if_pos h.1.1, hj]
      rfl
    · exact fun heq => h.1.2 heq

theorem after?_of_notMem {r : Rest} {text : String} {c : Char} (hc : c ∈ text.toList) (h : c ∉ r.chars) :
    r.after? text = none := by
  rw [Rest.after?, if_neg]
  rw [List.isPrefixOf_iff_prefix]
  exact fun hstart => h (hstart.subset hc)

theorem parse_of_isWord {name : String} (h : IsWord name) : parse name = .ok ⟨none, none, name.toList, none, none⟩ := by
  have hcolon : ':' ∉ name.toList := h.notMem (by decide)
  have hslash : '/' ∉ name.toList := h.notMem (by decide)
  have hsegment : ∀ c ∈ name.toList, (isPathChar false c && c ≠ '/' && c ≠ ':') = true ∧ c ≠ '%' := by
    intro c hc
    obtain ⟨hpath, hescape⟩ := h.isPathChar c hc
    have hs : c ≠ '/' := fun heq => hslash (heq ▸ hc)
    have hc' : c ≠ ':' := fun heq => hcolon (heq ▸ hc)
    simp [hpath, hescape, hs, hc']
  obtain ⟨i, hi⟩ := spanEscaped_of_all hsegment 0
  obtain ⟨j, hj⟩ := spanEscaped_of_all h.isPathChar 0
  have hslashes : (Rest.mk name.toList 0).after? "//" = none := after?_of_notMem (by decide) hslash
  have hscheme : ∀ n, ((Rest.mk name.toList 0).skip n).after? ":" = none :=
    fun n => after?_of_notMem (List.mem_singleton_self ':') fun hmem => hcolon (List.mem_of_mem_drop hmem)
  rw [parse, UriReference.read]
  dsimp only
  rw [hscheme, hslashes]
  simp only [Rest.span, hi]
  rw [readHierarchy, hslashes]
  simp only [Rest.span, hj]
  rfl

/-- What URIs with a path below the root URI are read to. -/
def below (path : List Char) : UriReference := ⟨some "json-schema".toList, some [], '/' :: path, none, none⟩

theorem parse_documentUri {name : String} (h : IsWord name) : parse (documentUri name) = .ok (below name.toList) := by
  have hchars : (documentUri name).toList =
      ['j', 's', 'o', 'n', '-', 's', 'c', 'h', 'e', 'm', 'a', ':', '/', '/', '/'] ++ name.toList := by
    simp [documentUri, rootUri]
  have hscheme : (documentUri name).toList.takeWhile isSchemeChar =
      ['j', 's', 'o', 'n', '-', 's', 'c', 'h', 'e', 'm', 'a'] := by
    rw [hchars]
    rfl
  have hcolon : Rest.after? (Rest.skip ⟨(documentUri name).toList, 0⟩
      ['j', 's', 'o', 'n', '-', 's', 'c', 'h', 'e', 'm', 'a'].length) ":" =
        some ⟨['/', '/', '/'] ++ name.toList, 12⟩ := by
    rw [hchars]
    rfl
  have hslashes : (Rest.mk (['/', '/', '/'] ++ name.toList) 12).after? "//" = some ⟨'/' :: name.toList, 14⟩ := rfl
  have hauthority : skipAuthority false ⟨'/' :: name.toList, 14⟩ = .ok ⟨'/' :: name.toList, 14⟩ := rfl
  have hpath : ∀ c ∈ '/' :: name.toList, isPathChar false c = true ∧ c ≠ '%' := by
    rw [List.forall_mem_cons]
    exact ⟨by decide, h.isPathChar⟩
  obtain ⟨j, hj⟩ := spanEscaped_of_all hpath 14
  rw [parse, UriReference.read]
  dsimp only
  rw [hscheme, hcolon]
  dsimp only
  rw [if_pos (by decide), readHierarchy, hslashes]
  dsimp only
  rw [hauthority]
  simp only [bind, Except.bind, Rest.span, hj]
  simp
  rfl

/-! ### Normal forms -/

theorem normalizeEscapes_of_notMem {cs : List Char} (h : '%' ∉ cs) : normalizeEscapes cs = cs := by
  induction cs with
  | nil => rfl
  | cons c rest ih =>
    rw [List.mem_cons, not_or] at h
    rw [normalizeEscapes, ih h.2]
    rintro a b rest' rfl
    exact absurd rfl h.1

theorem withoutDots_of_isWord {name : String} (h : IsWord name) :
    withoutDots ('/' :: name.toList) = '/' :: name.toList := by
  have hdot : '.' ∉ name.toList := h.notMem (by decide)
  rw [withoutDots, splitChars_of_notMem (h.notMem (by decide)), removeDots]
  · simp [removeDots, List.intercalate]
  · intro heq
    rw [heq] at hdot
    simp at hdot
  · intro heq
    rw [heq] at hdot
    simp at hdot

theorem text_normalize_below {name : String} (h : IsWord name) :
    (below name.toList).normalize.text = documentUri name := by
  have hpath : (below name.toList).normalize.path = '/' :: name.toList := by
    change withoutDots (normalizeEscapes ('/' :: name.toList)) = _
    rw [normalizeEscapes_of_notMem, withoutDots_of_isWord h]
    rw [List.mem_cons, not_or]
    exact ⟨by decide, h.notMem (by decide)⟩
  rw [← String.toList_inj, text, String.toList_ofList, chars, hpath, documentUri, String.toList_append]
  change _ ++ [] ++ [] = _
  rw [List.append_nil, List.append_nil]
  rfl

/-- With a query or a fragment, the root URI still means the document that is compiled. -/
theorem isRoot_text (query fragment : Option (List Char)) :
    IsRoot (normalize { below [] with query, fragment }).text := by
  have htail : ∃ tail : List Char, (tail = [] ∨ tail.head? = some '#' ∨ tail.head? = some '?') ∧
      (normalize { below [] with query, fragment }).text.toList = rootUri.toList ++ tail := by
    cases query with
    | some q => exact ⟨'?' :: _, .inr (.inr rfl), by rw [text, String.toList_ofList]; rfl⟩
    | none =>
      cases fragment with
      | some f => exact ⟨'#' :: _, .inr (.inl rfl), by rw [text, String.toList_ofList]; rfl⟩
      | none => exact ⟨[], .inl rfl, by rw [text, String.toList_ofList]; rfl⟩
  obtain ⟨tail, hhead, htext⟩ := htail
  rw [IsRoot, htext, List.takeWhile_append_of_pos (List.all_eq_true.1 rfl)]
  cases tail with
  | nil => rw [List.takeWhile_nil, List.append_nil]
  | cons c rest =>
    rw [List.takeWhile_cons_of_neg, List.append_nil]
    rcases hhead with h | h | h
    · cases h
    · cases h; decide
    · cases h; decide

/-! ### Resolution -/

/-- A reference with a path of its own does not see the last segment of the base. -/
theorem resolve_below {path : List Char} (hpath : '/' ∉ path) (r : UriReference) :
    resolve (below path) r = resolve (below []) r ∨
      resolve (below []) r = { below [] with query := r.query, fragment := r.fragment } := by
  have hmerge : ∀ path : List Char, '/' ∉ path → merge (below path) r.path = '/' :: r.path := by
    intro path hpath
    have hdirectory : (('/' :: path).reverse.dropWhile (· ≠ '/')).reverse = ['/'] := by
      rw [List.reverse_cons, List.dropWhile_append_of_pos]
      · rfl
      · intro c hc
        rw [decide_eq_true_eq]
        rintro rfl
        exact hpath (List.mem_reverse.1 hc)
    rw [merge, if_neg (by simp [below])]
    change (('/' :: path).reverse.dropWhile _).reverse ++ r.path = _
    rw [hdirectory]
    rfl
  unfold resolve
  split
  · exact .inl rfl
  · split
    · exact .inl rfl
    · split
      · right
        cases r.query <;> rfl
      · left
        rw [hmerge path hpath, hmerge [] List.not_mem_nil]
        rfl

end UriReference

open UriReference (below)

theorem resolve_of_parsed {base : Uri} {path : List Char} (h : Uri.parsed base = below path) (hbase : '#' ∉ base.toList)
    (reference : String) : Uri.resolve base reference =
      (UriReference.parse reference).map fun r => ((below path).resolve r).normalize.text := by
  have hfragment : ¬ (reference.toList.head? = some '#' && reference.toList.isSuffixOf base.toList) = true := by
    rw [Bool.and_eq_true, decide_eq_true_eq, List.isSuffixOf_iff_suffix]
    rintro ⟨hhead, hsuffix⟩
    exact hbase (hsuffix.subset (List.mem_of_mem_head? hhead))
  rw [Uri.resolve, if_neg hfragment, h]
  cases UriReference.parse reference with
  | error fault => rfl
  | ok r => rfl

theorem resolve_rootUri (reference : String) : Uri.resolve rootUri reference =
    (UriReference.parse reference).map fun r => ((below []).resolve r).normalize.text :=
  resolve_of_parsed rfl (by decide) reference

theorem resolve_rootUri_empty : Uri.resolve rootUri "" = .ok rootUri := rfl

section Word

variable {name : String} (h : IsWord name)

include h

private theorem resolve_documentUri_eq (reference : String) : Uri.resolve (documentUri name) reference =
    (UriReference.parse reference).map fun r => ((below name.toList).resolve r).normalize.text := by
  refine resolve_of_parsed ?_ (hash_notMem_documentUri h) reference
  rw [Uri.parsed, UriReference.parse_documentUri h]

/-- In the document of an identifier a reference means what it means in the document that is compiled, unless it means
that document itself. -/
theorem resolve_documentUri (reference : String) :
    Uri.resolve (documentUri name) reference = Uri.resolve rootUri reference ∨
      ∃ uri uri', Uri.resolve rootUri reference = .ok uri ∧ Uri.resolve (documentUri name) reference = .ok uri' ∧
        IsRoot uri := by
  rw [resolve_rootUri, resolve_documentUri_eq h]
  cases UriReference.parse reference with
  | error fault => exact .inl rfl
  | ok r =>
    have hslash : '/' ∉ name.toList := h.notMem (by decide)
    rcases UriReference.resolve_below hslash r with hsame | hroot
    · left
      rw [Except.map, Except.map, hsame]
    · refine .inr ⟨_, _, rfl, rfl, ?_⟩
      change IsRoot ((below []).resolve r).normalize.text
      rw [hroot]
      exact UriReference.isRoot_text r.query r.fragment

theorem resolve_documentUri_empty : Uri.resolve (documentUri name) "" = .ok (documentUri name) := by
  rw [resolve_documentUri_eq h]
  conv_rhs => rw [← UriReference.text_normalize_below h]
  rfl

/-- An identifier means its document. -/
theorem resolve_of_isWord : Uri.resolve rootUri name = .ok (documentUri name) := by
  have hresolve : (below []).resolve ⟨none, none, name.toList, none, none⟩ = below name.toList := by
    have hhead : ¬ name.toList.head? = some '/' := fun heq => h.notMem (by decide) (List.mem_of_mem_head? heq)
    rw [UriReference.resolve, if_neg (by simp), if_neg (by simp), if_neg h.1, if_neg hhead]
    change (⟨_, _, UriReference.withoutDots ('/' :: name.toList), _, _⟩ : UriReference) = _
    rw [UriReference.withoutDots_of_isWord h]
    rfl
  rw [resolve_rootUri, UriReference.parse_of_isWord h, Except.map, hresolve, UriReference.text_normalize_below h]

/-! ### What a URI is made of -/

omit h in
theorem splitFragment_of_notMem {uri : Uri} (h : '#' ∉ uri.toList) : Uri.splitFragment uri = (uri, none) := by
  have htake : uri.toList.takeWhile (· ≠ '#') = uri.toList := by
    rw [List.takeWhile_eq_self_iff]
    intro c hc
    rw [decide_eq_true_eq]
    rintro rfl
    exact h hc
  unfold Uri.splitFragment
  dsimp only
  rw [htake, if_pos rfl]

theorem splitFragment_documentUri : Uri.splitFragment (documentUri name) = (documentUri name, none) :=
  splitFragment_of_notMem (hash_notMem_documentUri h)

theorem splitFragment_of_isWord : Uri.splitFragment name = (name, none) :=
  splitFragment_of_notMem (h.notMem (by decide))

theorem lastSegment_documentUri : Uri.lastSegment (documentUri name) = name := by
  have hslash : '/' ∉ name.toList.reverse := by
    rw [List.mem_reverse]
    exact h.notMem (by decide)
  have hchars : (documentUri name).toList.reverse = name.toList.reverse ++ '/' :: "json-schema://".toList.reverse := by
    rw [documentUri, String.toList_append, List.reverse_append]
    rfl
  have hdrop : (documentUri name).toList.reverse.dropWhile (· = '/') = (documentUri name).toList.reverse := by
    rw [hchars]
    cases hcs : name.toList.reverse with
    | nil => exact absurd (List.reverse_eq_nil_iff.1 hcs) h.1
    | cons c rest =>
      rw [List.cons_append, List.dropWhile_cons_of_neg]
      rw [hcs, List.mem_cons, not_or] at hslash
      rw [decide_eq_true_eq]
      exact fun heq => hslash.1 heq.symm
  unfold Uri.lastSegment
  dsimp only
  rw [hdrop, hchars, List.takeWhile_append_of_pos, List.takeWhile_cons_of_neg, List.append_nil, List.reverse_reverse,
    String.ofList_toList]
  · decide
  · intro c hc
    rw [decide_eq_true_eq]
    rintro rfl
    exact hslash hc

theorem namesPublished_of_isWord : namesPublished name = false := by
  have hcolon : ':' ∉ name.toList := h.notMem (by decide)
  rw [namesPublished, List.any_eq_false]
  intro home hhome
  have hmem : ':' ∈ home.toList := by
    revert hhome
    revert home
    decide
  rw [startsWith, List.isPrefixOf_iff_prefix]
  exact fun hstart => hcolon (hstart.subset hmem)

theorem startsWith_hash_of_isWord : startsWith name "#" = false := by
  have hhash : '#' ∉ name.toList := h.notMem (by decide)
  rw [startsWith, Bool.eq_false_iff, ne_eq, List.isPrefixOf_iff_prefix]
  exact fun hstart => hhash (hstart.subset (List.mem_singleton_self '#'))

end Word

/-- A URI without its fragment is what it is up to the fragment. -/
theorem toList_splitFragment (uri : Uri) : (Uri.splitFragment uri).1.toList = uri.toList.takeWhile (· ≠ '#') := by
  unfold Uri.splitFragment
  dsimp only
  split
  · rename_i hlength
    exact (List.IsPrefix.eq_of_length (List.takeWhile_prefix _) hlength).symm
  · exact String.toList_ofList ..

/-- What means the compiled document with a fragment or without one is its URI. -/
theorem isRoot_of_splitFragment {uri : Uri} (h : (Uri.splitFragment uri).1 = rootUri) : IsRoot uri := by
  have hchars := toList_splitFragment uri
  have hwhole : rootUri.toList.takeWhile (· ≠ '?') = rootUri.toList := by decide
  rw [h] at hchars
  rw [IsRoot, ← hwhole, hchars, List.takeWhile_takeWhile]
  congr 1
  funext c
  simp [and_comm]

/-- The URIs of the drafts' documents have a scheme and no fragment. -/
theorem plain_of_mem_bundled : ∀ key ∈ OrderedMap.keys Resources.bundled.documents,
    key.toList.head? = some 'h' ∧ (Uri.splitFragment key).1 = key := by decide +kernel

/-- The documents of the drafts have other URIs. -/
theorem not_contains_bundled (path : String) :
    OrderedMap.contains Resources.bundled.documents (rootUri ++ path) = false := by
  rw [Bool.eq_false_iff, ne_eq, OrderedMap.contains_iff]
  intro hmem
  have hhead := (plain_of_mem_bundled _ hmem).1
  rw [String.toList_append] at hhead
  exact absurd hhead (by simp [rootUri])

theorem not_contains_rootUri : OrderedMap.contains Resources.bundled.documents rootUri = false :=
  not_contains_bundled ""

end Schema

end YamlSchema
