import YamlSchema.Proofs.Glob.Subtree

/-!
# Patterns for one file

Every file that a pattern matches has a pattern of its own, which matches that file and no other, whatever characters are
in its name (`exists_solitary`): the names on the way to it are written in brackets.
-/

namespace YamlSchema

/-! ### Names on the way -/

/-- What a name leads to, however long it is. -/
def Location.enter (l : Location) (name : String) : Option Location :=
  if name = ".." then
    if l.entry.isDirectory then some (match l.around with
      | [] => l
      | outer :: rest => ⟨outer, rest⟩)
    else none
  else (l.entry.child? name).map fun e => ⟨e, l.entry :: l.around⟩

/-- A piece of a path that leads to another place. -/
def IsPiece (name : String) : Prop := name ≠ "" ∧ name ≠ "." ∧ '/' ∉ name.toList

theorem IsEntryName.isPiece {name : String} (h : IsEntryName name) : IsPiece name := ⟨h.1, h.2.1, h.2.2.2⟩

namespace Location

variable {l next : Location} {name : String}

theorem enter_of_step (hempty : name ≠ "") (hcurrent : name ≠ ".") (h : l.step name = .ok next) :
    l.enter name = some next := by
  rw [step, if_neg (by simp [hempty, hcurrent] : ¬ (name = "" ∨ name = "."))] at h
  split at h
  · cases h
  · rename_i hdirectory
    rw [enter]
    split at h
    · rename_i houter
      rw [if_pos houter, if_pos (by simpa using hdirectory)]
      split at h <;> cases h <;> simp_all
    · rename_i houter
      rw [if_neg houter]
      split at h
      · cases h
      · split at h
        · rename_i e hchild
          cases h
          rw [hchild]
          rfl
        · cases h

theorem step_of_enter (h : l.enter ".." = some next) :
    l.step ".." = .ok next ∧ l.entry.isDirectory = true := by
  obtain ⟨e, around⟩ := l
  rw [enter, if_pos rfl] at h
  split at h
  · rename_i hdirectory
    rw [step, if_neg (by simp [hdirectory]), if_neg (by decide), if_pos rfl]
    cases h
    cases around <;> exact ⟨rfl, hdirectory⟩
  · cases h

theorem eq_of_step (hname : name = "" ∨ name = ".") (h : l.step name = .ok next) :
    next = l ∧ l.entry.isDirectory = true := by
  rw [step] at h
  split at h
  · cases h
  · rename_i hdirectory
    cases h
    exact ⟨rfl, by simpa using hdirectory⟩

end Location

namespace Glob

variable {fs : FileSystem} {f g : Found}

/-- Something is found by names from where a pattern starts, under a path with these names. -/
structure Found.IsLed (fs : FileSystem) (isAbsolute : Bool) (here : Location) (g : Found) : Prop where
  isFound : g.IsFound fs
  exists_names : ∃ names : List String, (∀ name ∈ names, IsPiece name) ∧
    names.foldlM Location.enter here = some g.location ∧
    (names ≠ [] → g.location.entry.isDirectory = false → Path.EndsInName g.path) ∧
    (Path.components g.path = (if isAbsolute then [.root] else []) ++ names.map .named ∨
      isAbsolute = false ∧ Path.components g.path = .current :: names.map .named ∧
        (names = [] ∨ names.head? = some ".."))

theorem endsInName_join {path name : String} (hpath : path ≠ "") (h : IsPiece name) :
    Path.EndsInName (Path.join path name) := by
  obtain ⟨ps, -, hjoin, -⟩ := Path.exists_pieces_join hpath h.2.2
  exact ⟨ps, name, hjoin, h.1, h.2.1⟩

theorem endsInName_pathWithin {path name : String} (hpath : path ≠ "") (h : IsPiece name) :
    Path.EndsInName (pathWithin path name) := by
  rw [pathWithin]
  split
  · exact ⟨[], name, Path.pieces_of_notMem h.2.2, h.1, h.2.1⟩
  · exact endsInName_join hpath h

namespace Found.IsLed

variable {isAbsolute : Bool} {here : Location}

/-- One name further. -/
theorem concat {path name : String} {l : Location} (h : f.IsLed fs isAbsolute here) (hname : IsPiece name)
    (hfound : Found.IsFound fs ⟨name, path, l⟩) (henter : f.location.enter name = some l)
    (hends : Path.EndsInName path)
    (hpath : Path.components path = stem f.path ++ [.named name] ∨
      name = ".." ∧ Path.components path = Path.components f.path ++ [.named name]) :
    Found.IsLed fs isAbsolute here ⟨name, path, l⟩ := by
  obtain ⟨-, names, hnames, hway, -, hcomponents⟩ := h
  refine ⟨hfound, names ++ [name], ?_, ?_, fun _ _ => hends, ?_⟩
  · rw [List.forall_mem_append, List.forall_mem_singleton]
    exact ⟨hnames, hname⟩
  · rw [List.foldlM_append, hway]
    change f.location.enter name >>= (fun next => some next) = some l
    rw [henter]
    rfl
  · have hjoined (hstem : stem f.path = Path.components f.path) :
        Path.components path = Path.components f.path ++ [.named name] := by
      rcases hpath with hpath | ⟨-, hpath⟩
      · rw [hpath, hstem]
      · exact hpath
    rcases hcomponents with hcomponents | ⟨hrelative, hcomponents, hnames⟩
    · have hstem : stem f.path = Path.components f.path := by
        refine if_neg fun hcurrent => ?_
        rw [hcomponents] at hcurrent
        cases isAbsolute <;> cases names <;> simp at hcurrent
      rw [hjoined hstem, hcomponents]
      exact .inl (by simp)
    · cases names with
      | nil =>
        have hstem : stem f.path = [] := if_pos hcomponents
        rcases hpath with hpath | ⟨rfl, hpath⟩
        · exact .inl (by rw [hpath, hstem, hrelative]; rfl)
        · exact .inr ⟨hrelative, by rw [hpath, hcomponents]; rfl, .inr rfl⟩
      | cons first rest =>
        have hstem : stem f.path = Path.components f.path := if_neg (by rw [hcomponents]; simp)
        refine .inr ⟨hrelative, by rw [hjoined hstem, hcomponents]; simp, .inr ?_⟩
        simpa using hnames

/-- Nowhere further. -/
theorem stay {name path : String} (h : f.IsLed fs isAbsolute here)
    (hfound : Found.IsFound fs ⟨name, path, f.location⟩) (hdirectory : f.location.entry.isDirectory = true)
    (hpath : Path.components path = Path.components f.path) :
    Found.IsLed fs isAbsolute here ⟨name, path, f.location⟩ := by
  obtain ⟨-, names, hnames, hway, -, hcomponents⟩ := h
  refine ⟨hfound, names, hnames, hway, fun _ hfile => ?_, by rwa [hpath]⟩
  rw [hdirectory] at hfile
  cases hfile

end Found.IsLed

/-- A pattern goes on from what names lead to. -/
theorem isClosed_isLed (hroot : fs.root.IsProper) (isAbsolute : Bool) (here : Location) :
    IsClosed (Found.IsLed fs isAbsolute here) where
  step {f name l} h hname hne hstep := by
    have hfound := (isClosed_isFound hroot).step h.isFound hname hne hstep
    by_cases hpiece : name = "" ∨ name = "."
    · obtain ⟨rfl, hdirectory⟩ := Location.eq_of_step hpiece hstep
      refine h.stay hfound hdirectory ?_
      rw [pathWithin] at hne ⊢
      split
      · rename_i hcurrent
        rw [if_pos hcurrent] at hne
        rw [hpiece.resolve_left hne, hcurrent]
        rfl
      · rw [Path.components_join h.isFound.isSpelled.1 hname]
        rcases hpiece with rfl | rfl <;> exact List.append_nil _
    · rw [not_or] at hpiece
      exact h.concat ⟨hpiece.1, hpiece.2, hname⟩ hfound (Location.enter_of_step hpiece.1 hpiece.2 hstep)
        (endsInName_pathWithin h.isFound.isSpelled.1 ⟨hpiece.1, hpiece.2, hname⟩)
        (.inl (components_pathWithin h.isFound.isSpelled.1 hpiece.1 hpiece.2 hname))
  dots {f name l} h hname hstep := by
    have hfound := (isClosed_isFound hroot).dots h.isFound hname hstep
    have hslash : '/' ∉ name.toList := by rcases hname with rfl | rfl <;> decide
    have hjoin := Path.components_join h.isFound.isSpelled.1 hslash
    rcases hname with rfl | rfl
    · obtain ⟨rfl, hdirectory⟩ := Location.eq_of_step (.inr rfl) hstep
      exact h.stay hfound hdirectory (hjoin.trans (List.append_nil _))
    · have hpiece : IsPiece ".." := ⟨by decide, by decide, hslash⟩
      exact h.concat hpiece hfound (Location.enter_of_step hpiece.1 hpiece.2.1 hstep)
        (endsInName_join h.isFound.isSpelled.1 hpiece) (.inr ⟨rfl, hjoin⟩)
  inner {f entries entry} h hentries hentry := by
    obtain ⟨hname, hfound⟩ := h.isFound.isFound_inner hroot hentries hentry
    refine h.concat hname.isPiece hfound ?_ (endsInName_pathWithin h.isFound.isSpelled.1 hname.isPiece)
      (.inl (components_inner h.isFound.isSpelled.1 hname))
    have hproper := h.isFound.isAt.isProper hroot
    rw [hentries] at hproper
    rw [Location.enter, if_neg hname.2.2.1, hentries, hproper.child?_of_mem hentry]
    rfl

theorem path_of_start {isAbsolute : Bool} (h : start fs isAbsolute = some f) :
    f.path = if isAbsolute then "/" else "." := by
  rcases start_cases h with ⟨rfl, rfl⟩ | ⟨rfl, l, -, rfl⟩ <;> rfl

theorem components_of_stem {path : String} (h : stem path ≠ []) : Path.components path = stem path := by
  rw [stem] at h ⊢
  split
  · rename_i hcurrent
    exact absurd (if_pos hcurrent) h
  · rfl

theorem stem_of_start {isAbsolute : Bool} (h : start fs isAbsolute = some f) :
    stem f.path = if isAbsolute then [.root] else [] := by
  rw [path_of_start h]
  cases isAbsolute <;> decide

theorem isLed_start {isAbsolute : Bool} (h : start fs isAbsolute = some f) : f.IsLed fs isAbsolute f.location := by
  refine ⟨isFound_start h, [], List.forall_mem_nil _, rfl, fun hne => absurd rfl hne, ?_⟩
  rw [path_of_start h]
  cases isAbsolute with
  | true => exact .inl (by decide : Path.components "/" = [.root])
  | false => exact .inr ⟨rfl, (by decide : Path.components "." = [.current]), .inl rfl⟩

/-- From a file, no pattern leads anywhere. -/
theorem visit_of_not_isDirectory {segments : List Segment} (hne : segments ≠ [])
    (h : f.location.entry.isDirectory = false) : visit segments f = [] := by
  have hstep (name : String) : f.location.step name = .error .notDirectory := by
    rw [Location.step, h]
    rfl
  have hbelow := below_of_not_isDirectory h
  fun_induction visit segments f with
  | case1 => contradiction
  | case2 name rest f g hg =>
    obtain ⟨l, -, hl, -⟩ := exists_of_step? hg
    rw [hstep] at hl
    cases hl
  | case3 => rfl
  | case4 tokens rest f =>
    have hdots : dotEntries tokens f = [] := if_neg fun hdots => by
      rw [Found.isDirectory, h] at hdots
      cases hdots.2
    have hchildren : children f = [] := by
      rw [List.eq_nil_iff_forall_not_mem]
      intro g hg
      obtain ⟨entries, hentries, -⟩ := mem_children_iff.1 hg
      rw [hentries] at h
      cases h
    rw [hdots, hchildren]
    rfl
  | case5 f =>
    rw [Found.below] at hbelow
    rw [hbelow]
    rfl
  | case6 rest f ih => exact ih (List.cons_ne_nil _ _) h hstep hbelow
  | case7 segment rest f =>
    rw [Found.below] at hbelow
    rw [hbelow]
    rfl

/-! ### A pattern for each way -/

/-- How a piece of a path is written in a pattern: with each character in brackets, so that it stands for itself. -/
def quoted (name : String) : List Char :=
  if name = ".." then "..".toList else name.toList.flatMap Token.bracketed

def quotedSegment (name : String) : Segment :=
  if name = ".." then .literal ".." else .wild (name.toList.map Token.bracketedToken)

theorem getLast?_bracketed (c : Char) : (Token.bracketed c).getLast? = some ']' := by
  rw [Token.bracketed]
  split
  · decide
  · rfl

theorem mem_of_mem_bracketed {c d : Char} (h : d ∈ Token.bracketed c) : d = c ∨ d ∈ "[b-a!]".toList := by
  rw [Token.bracketed] at h
  split at h
  · exact .inr h
  · simp only [List.mem_cons, List.not_mem_nil, or_false] at h
    rcases h with rfl | rfl | rfl
    · exact .inr (by decide)
    · exact .inl rfl
    · exact .inr (by decide)

/-- The texts of a piece in brackets. -/
def bracketedTexts (cs : List Char) : List (List Char × Token) :=
  cs.map fun c => (Token.bracketed c, Token.bracketedToken c)

theorem spells_bracketedTexts (cs : List Char) : ∀ t ∈ bracketedTexts cs, Token.Spells t.1 t.2 := by
  intro t ht
  obtain ⟨c, -, rfl⟩ := List.mem_map.1 ht
  exact Token.spells_bracketed c

theorem flatMap_bracketedTexts (cs : List Char) : (bracketedTexts cs).flatMap Prod.fst = cs.flatMap Token.bracketed := by
  rw [bracketedTexts, List.flatMap_map]

theorem map_bracketedTexts (cs : List Char) : (bracketedTexts cs).map Prod.snd = cs.map Token.bracketedToken := by
  rw [bracketedTexts, List.map_map]
  rfl

theorem bracketedToken_ne_exactly (c d : Char) : Token.bracketedToken c ≠ .exactly d := by
  rw [Token.bracketedToken]
  split <;> exact Token.noConfusion

theorem isQuoted_flatMap_bracketed (texts : List (List Char × Token)) {before cs : List Char}
    (hspells : ∀ t ∈ texts, Token.Spells t.1 t.2) (htexts : before = texts.flatMap Prod.fst) (hbefore : '/' ∉ before)
    (hne : cs ≠ []) (hslash : '/' ∉ cs) : IsQuoted (before ++ cs.flatMap Token.bracketed) where
  exists_texts := by
    refine ⟨texts ++ bracketedTexts cs, List.forall_mem_append.2 ⟨hspells, spells_bracketedTexts cs⟩, ?_⟩
    rw [List.flatMap_append, flatMap_bracketedTexts, htexts]
  slash_notMem h := by
    rcases List.mem_append.1 h with h | h
    · exact hbefore h
    · obtain ⟨c, hc, hmem⟩ := List.mem_flatMap.1 h
      rcases mem_of_mem_bracketed hmem with rfl | hmem
      · exact hslash hc
      · exact absurd hmem (by decide)
  exists_last := by
    obtain ⟨init, c, rfl⟩ : ∃ init c, cs = init ++ [c] :=
      ⟨cs.dropLast, cs.getLast hne, (List.dropLast_append_getLast hne).symm⟩
    refine ⟨']', ?_, by decide⟩
    rw [List.flatMap_append, List.getLast?_append, List.getLast?_append, List.flatMap_singleton, getLast?_bracketed]
    rfl

theorem isQuoted_quoted {name : String} (h : IsPiece name) : IsQuoted (quoted name) := by
  rw [quoted]
  split
  · exact ⟨⟨Token.plain "..".toList, Token.spells_plain (by decide), (Token.flatMap_plain _).symm⟩, by decide,
      '.', by decide, by decide⟩
  · exact isQuoted_flatMap_bracketed [] (List.forall_mem_nil _) rfl List.not_mem_nil
      (fun heq => h.1 (String.toList_eq_nil_iff.1 heq)) h.2.2

theorem reads_quoted {name : String} (h : IsPiece name) : Reads (quoted name) (quotedSegment name) := by
  rw [quoted, quotedSegment]
  split
  · exact (reads_plain (by decide) : Reads "..".toList _)
  · have hchars := Token.ofChars_texts (spells_bracketedTexts name.toList)
    rw [flatMap_bracketedTexts, map_bracketedTexts] at hchars
    rw [Reads, hchars]
    refine congrArg Except.ok ?_
    cases hname : name.toList with
    | nil => exact absurd (String.toList_eq_nil_iff.1 hname) h.1
    | cons c cs =>
      refine Segment.ofTokens_of_mem (fun hdeep => ?_) List.mem_cons_self (bracketedToken_ne_exactly c)
      obtain ⟨d, -, hd⟩ := List.mem_map.1 hdeep
      exact (Token.isOnly_bracketedToken d).2.1 hd

theorem isQuoted_of_mem_map {names : List String} (h : ∀ name ∈ names, IsPiece name) :
    ∀ piece ∈ names.map quoted, IsQuoted piece :=
  List.forall_mem_map.2 fun name hname => isQuoted_quoted (h name hname)

theorem forall₂_reads_quoted {names : List String} (h : ∀ name ∈ names, IsPiece name) :
    List.Forall₂ Reads (names.map quoted) (names.map quotedSegment) := by
  rw [List.forall₂_map_left_iff, List.forall₂_map_right_iff, List.forall₂_same]
  exact fun name hname => reads_quoted (h name hname)

theorem fit_bracketed (cs ds : List Char) : Token.fit (cs.map Token.bracketedToken) ds = true ↔ ds = cs := by
  refine Token.fit_of_isOnly ?_ ds
  rw [List.forall₂_map_right_iff, List.forall₂_same]
  exact fun c _ => Token.isOnly_bracketedToken c

/-- Of different names, one is equal to a name. -/
theorem flatMap_ite_eq {α β : Type} {xs : List (String × α)} (h : String × α → List β) (hnodup : (xs.map Prod.fst).Nodup)
    {x : String × α} (hx : x ∈ xs) : (xs.flatMap fun y => if y.1 = x.1 then h y else []) = h x := by
  induction xs with
  | nil => cases hx
  | cons first rest ih =>
    rw [List.map_cons, List.nodup_cons] at hnodup
    rw [List.flatMap_cons]
    rcases List.mem_cons.1 hx with rfl | hx
    · have hrest : (rest.flatMap fun y => if y.1 = x.1 then h y else []) = [] := by
        rw [List.flatMap_eq_nil_iff]
        intro y hy
        exact if_neg fun (heq : y.1 = x.1) => hnodup.1 (heq ▸ List.mem_map_of_mem hy)
      rw [if_pos rfl, hrest, List.append_nil]
    · have hne : first.1 ≠ x.1 := fun heq => hnodup.1 (heq ▸ List.mem_map_of_mem hx)
      rw [if_neg hne, List.nil_append, ih hnodup.2 hx]

/-- Of what is in a directory, one entry is visited by its name in brackets. -/
theorem visit_bracketed {entries : List (String × Entry)} (hproper : (Entry.directory entries).IsProper)
    (hentries : f.location.entry = .directory entries) {entry : String × Entry} (hentry : entry ∈ entries)
    (rest : List Segment) :
    visit (.wild (entry.1.toList.map Token.bracketedToken) :: rest) f = visit rest (f.inner entry) := by
  have hdots : dotEntries (entry.1.toList.map Token.bracketedToken) f = [] := by
    refine if_neg fun hdots => ?_
    obtain ⟨c, -, hc⟩ := List.mem_map.1 (List.mem_of_mem_head? hdots.1)
    exact bracketedToken_ne_exactly c '.' hc
  have hchildren : children f = (entries.mergeSort fun a b => !decide (b.1 < a.1)).map f.inner := by
    rw [children, hentries]
    exact List.map_congr_left fun e _ => by rw [Found.inner, hentries]
  have hnodup : ((entries.mergeSort fun a b => !decide (b.1 < a.1)).map Prod.fst).Nodup := by
    cases hproper with
    | directory hnodup _ _ => exact ((List.mergeSort_perm _ _).map _).nodup_iff.2 hnodup
  rw [visit, hdots, hchildren, List.flatMap_nil, List.nil_append, List.flatMap_map,
    ← flatMap_ite_eq (fun e => visit rest (f.inner e)) hnodup (List.mem_mergeSort.2 hentry)]
  refine List.flatMap_congr fun e _ => ?_
  simp only [Found.inner, fit_bracketed, String.toList_inj]

theorem stem_pathWithin {path name : String} (hpath : path ≠ "") (h : IsPiece name) :
    stem (pathWithin path name) = stem path ++ [.named name] := by
  rw [stem, components_pathWithin hpath h.1 h.2.1 h.2.2, if_neg (concat_named_ne _ _)]

/-- A piece in brackets leads where the piece leads, and nowhere else. -/
theorem visit_quoted_cons (hroot : fs.root.IsProper) (hf : f.IsFound fs) {name : String} (hpiece : IsPiece name)
    {next : Location} (hnext : f.location.enter name = some next) (rest : List Segment) :
    visit (quotedSegment name :: rest) f = visit rest ⟨name, pathWithin f.path name, next⟩ ∧
      Found.IsFound fs ⟨name, pathWithin f.path name, next⟩ := by
  by_cases hname : name = ".."
  · subst hname
    obtain ⟨hstep, -⟩ := Location.step_of_enter hnext
    have hne : pathWithin f.path ".." ≠ "" := by
      rw [pathWithin]
      split
      · decide
      · exact join_ne_empty hf.isSpelled.1
    have hgo : step? f ".." = some ⟨"..", pathWithin f.path "..", next⟩ := by
      rw [step?, if_neg hne, hstep]
    refine ⟨?_, (isClosed_isFound hroot).step hf hpiece.2.2 hne hstep⟩
    rw [quotedSegment, if_pos rfl, visit, hgo]
  · rw [Location.enter, if_neg hname, Option.map_eq_some_iff] at hnext
    obtain ⟨e, hchild, rfl⟩ := hnext
    cases hentries : f.location.entry with
    | directory entries =>
      rw [hentries, Entry.child?, Option.map_eq_some_iff] at hchild
      obtain ⟨entry, hfind, rfl⟩ := hchild
      obtain rfl : entry.1 = name := by simpa using List.find?_some hfind
      have hentry := List.mem_of_find?_eq_some hfind
      have hproper := hf.isAt.isProper hroot
      rw [hentries] at hproper
      rw [quotedSegment, if_neg hname, ← hentries]
      exact ⟨visit_bracketed hproper hentries hentry _, (hf.isFound_inner hroot hentries hentry).2⟩
    | _ =>
      rw [hentries] at hchild
      cases hchild

/-- The pieces of a path lead to one thing if they are written in brackets. -/
theorem exists_visit_quoted (hroot : fs.root.IsProper) {names : List String} {l : Location}
    (hnames : ∀ name ∈ names, IsPiece name) (hf : f.IsFound fs) (h : names.foldlM Location.enter f.location = some l) :
    ∃ g, visit (names.map quotedSegment) f = [g] ∧ g.location = l ∧ g.IsFound fs ∧
      stem g.path = stem f.path ++ names.map .named := by
  induction names generalizing f with
  | nil =>
    cases h
    exact ⟨f, rfl, rfl, hf, (List.append_nil _).symm⟩
  | cons name names ih =>
    rw [List.forall_mem_cons] at hnames
    rw [List.foldlM_cons, Option.bind_eq_bind, Option.bind_eq_some_iff] at h
    obtain ⟨next, hnext, hrest⟩ := h
    obtain ⟨hvisit, hfound⟩ := visit_quoted_cons hroot hf hnames.1 hnext (names.map quotedSegment)
    obtain ⟨g, hg, hlocation, hgfound, hstem⟩ := ih hnames.2 hfound hrest
    refine ⟨g, hvisit.trans hg, hlocation, hgfound, ?_⟩
    rw [hstem, stem_pathWithin hf.isSpelled.1 hnames.1, List.append_assoc, List.singleton_append, List.map_cons]

/-! ### The directory around the current one -/

/-- How `..` is written behind a `.` that the path keeps. -/
def quotedOuter : List Char := '.' :: Token.bracketed '.'

def quotedOuterSegment : Segment := .wild [.exactly '.', Token.bracketedToken '.']

theorem isQuoted_quotedOuter : IsQuoted quotedOuter :=
  isQuoted_flatMap_bracketed (Token.plain ['.']) (Token.spells_plain (by decide)) rfl (by decide)
    (List.cons_ne_nil '.' []) (by decide)

theorem reads_quotedOuter : Reads quotedOuter quotedOuterSegment := by
  rfl

theorem visit_quotedOuter (hroot : fs.root.IsProper) (hf : f.IsFound fs) {next : Location}
    (hnext : f.location.enter ".." = some next) (rest : List Segment) :
    visit (quotedOuterSegment :: rest) f = visit rest ⟨"..", Path.join f.path "..", next⟩ := by
  obtain ⟨hstep, hdirectory⟩ := Location.step_of_enter hnext
  have hfit (cs : List Char) : Token.fit [.exactly '.', Token.bracketedToken '.'] cs = true ↔ cs = "..".toList :=
    Token.fit_of_isOnly (.cons (Token.isOnly_exactly '.') (.cons (Token.isOnly_bracketedToken '.') .nil)) cs
  have hdots : dotEntries [.exactly '.', Token.bracketedToken '.'] f = [⟨"..", Path.join f.path "..", next⟩] := by
    rw [dotEntries, if_pos ⟨rfl, hdirectory⟩]
    simp [hfit, hstep, Except.toOption]
  have hchildren : (children f).flatMap (fun g =>
      if Token.fit [.exactly '.', Token.bracketedToken '.'] g.name.toList then visit rest g else []) = [] := by
    rw [List.flatMap_eq_nil_iff]
    intro g hg
    obtain ⟨entries, hentries, entry, hentry, rfl⟩ := mem_children_iff.1 hg
    obtain ⟨hname, -⟩ := hf.isFound_inner hroot hentries hentry
    refine if_neg fun hfits => hname.2.2.1 ?_
    rw [hfit, String.toList_inj] at hfits
    exact hfits
  rw [quotedOuterSegment, visit, hdots, hchildren, List.append_nil, List.flatMap_singleton]

end Glob

/-! ### Files -/

variable {fs : FileSystem} {pattern path : String}

/-- Names lead to a file that a pattern matches, at least one. -/
theorem Matches.exists_names (hroot : fs.root.IsProper) (h : Matches fs pattern path) :
    ∃ isAbsolute f l names, Glob.start fs isAbsolute = some f ∧ names ≠ [] ∧ (∀ name ∈ names, IsPiece name) ∧
      names.foldlM Location.enter f.location = some l ∧ l.entry.isDirectory = false ∧ Path.EndsInName path ∧
      (Path.components path = (if isAbsolute then [.root] else []) ++ names.map .named ∨
        isAbsolute = false ∧ Path.components path = .current :: names.map .named ∧ names.head? = some "..") := by
  obtain ⟨found, hfound, g, hg, rfl, hfile⟩ := h.exists_found
  obtain ⟨isAbsolute, f, segments, hstart, hne, hlevel, hg⟩ := Glob.exists_visit_of_mem_expand hfound hg
  have hled := (Glob.isClosed_isLed hroot isAbsolute f.location).of_mem_visit segments f hlevel
    (Glob.isLed_start hstart) g hg
  obtain ⟨names, hnames, hway, hends, hcomponents⟩ := hled.exists_names
  have hsome : names ≠ [] := by
    rintro rfl
    have hhere : f.location = g.location := Option.some.inj hway
    rw [Glob.visit_of_not_isDirectory hne (by rw [hhere]; exact hfile)] at hg
    cases hg
  refine ⟨isAbsolute, f, g.location, names, hstart, hsome, hnames, hway, hfile, hends hsome hfile, ?_⟩
  exact hcomponents.imp_right fun ⟨hrelative, hcurrent, hhead⟩ => ⟨hrelative, hcurrent, hhead.resolve_left hsome⟩

/-- Paths of one file, as their components tell, are read alike. -/
theorem Matches.read_eq (hroot : fs.root.IsProper) (h : Matches fs pattern path) {other path' : String}
    (hother : Matches fs other path') (hsame : Path.components path = Path.components path') :
    fs.read path = fs.read path' := by
  obtain ⟨-, -, -, -, -, -, -, -, -, hends, -⟩ := h.exists_names hroot
  obtain ⟨-, -, -, -, -, -, -, -, -, hends', -⟩ := hother.exists_names hroot
  exact FileSystem.read_eq_of_components_eq hends hends' hsame

theorem globFiles_patternOf {isAbsolute : Bool} {f g : Glob.Found} (hstart : Glob.start fs isAbsolute = some f)
    {pieces : List (List Char)} {segments : List Glob.Segment} (hne : pieces ≠ [])
    (hquoted : ∀ piece ∈ pieces, Glob.IsQuoted piece) (hreads : List.Forall₂ Glob.Reads pieces segments)
    (hvisit : Glob.visit segments f = [g]) (hfile : g.location.entry.isDirectory = false) :
    globFiles fs [Glob.patternOf isAbsolute pieces] = .ok [g.path] := by
  have hexpand := Glob.expand_patternOf isAbsolute fs hne hquoted hreads
  rw [hstart, Option.map_some, Option.getD_some, hvisit] at hexpand
  rw [Glob.globFiles_of_expand hexpand, Glob.filesOf, List.filter_cons_of_pos (by simp [Glob.Found.isDirectory, hfile])]
  rfl

/-- Every file that a pattern matches has a pattern of its own. -/
theorem Matches.exists_solitary (hroot : fs.root.IsProper) (h : Matches fs pattern path) :
    ∃ own path', globFiles fs [own] = .ok [path'] ∧ Path.components path' = Path.components path := by
  obtain ⟨isAbsolute, f, l, names, hstart, hne, hnames, hway, hfile, -, hcomponents⟩ := h.exists_names hroot
  have hf := Glob.isFound_start hstart
  rcases hcomponents with hcomponents | ⟨rfl, hcomponents, hhead⟩
  · obtain ⟨g, hvisit, rfl, -, hg⟩ := Glob.exists_visit_quoted hroot hnames hf hway
    rw [Glob.stem_of_start hstart, ← hcomponents] at hg
    refine ⟨_, g.path, globFiles_patternOf hstart (by simpa using hne) (Glob.isQuoted_of_mem_map hnames)
      (Glob.forall₂_reads_quoted hnames) hvisit hfile, ?_⟩
    rw [Glob.components_of_stem (by rw [hg, hcomponents]; simpa using fun _ => hne), hg]
  · cases names with
    | nil => cases hhead
    | cons name names =>
      obtain rfl : name = ".." := Option.some.inj hhead
      rw [List.forall_mem_cons] at hnames
      rw [List.foldlM_cons, Option.bind_eq_bind, Option.bind_eq_some_iff] at hway
      obtain ⟨next, hnext, hrest⟩ := hway
      have houter := (Glob.isClosed_isFound hroot).dots hf (.inr rfl) (Location.step_of_enter hnext).1
      obtain ⟨g, hvisit, rfl, -, hg⟩ := Glob.exists_visit_quoted hroot hnames.2 houter hrest
      have hstems : Glob.stem (Path.join f.path "..") = [.current, .named ".."] := by
        rw [Glob.path_of_start hstart]
        decide
      rw [hstems] at hg
      refine ⟨_, g.path, globFiles_patternOf hstart (List.cons_ne_nil Glob.quotedOuter _)
        (List.forall_mem_cons.2 ⟨Glob.isQuoted_quotedOuter, Glob.isQuoted_of_mem_map hnames.2⟩)
        (.cons Glob.reads_quotedOuter (Glob.forall₂_reads_quoted hnames.2))
        ((Glob.visit_quotedOuter hroot hf hnext _).trans hvisit) hfile, ?_⟩
      rw [Glob.components_of_stem (by rw [hg]; simp), hg, hcomponents]
      rfl

end YamlSchema
