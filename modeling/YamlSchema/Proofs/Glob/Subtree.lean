import YamlSchema.Proofs.Glob.Quoting
import YamlSchema.Proofs.Run.Partition

/-!
# What is below a directory

Behind the path of a directory, `**` lists the files below the directory at any depth, each of them once, and nothing
else (`globFiles_below`).  The path may be written in any way but one: where it begins with a `.`, an empty piece behind
that leads nowhere.
-/

namespace YamlSchema

/-- A path has an empty piece behind the `.` that it begins with. -/
def Path.HasGap (path : String) : Prop :=
  (Path.pieces path).head? = some "." ∧ ((Path.pieces path).dropWhile (· = ".")).head? = some ""

instance (path : String) : Decidable (Path.HasGap path) := inferInstanceAs (Decidable (_ ∧ _))

/-- The paths are those of the files below a place, at any depth, each file once. -/
structure FileSystem.ListsBelow (fs : FileSystem) (way : List String) (files : List String) : Prop where
  nodup : (files.map fs.place).Nodup
  mem_iff : ∀ whole, whole ∈ files.map fs.place ↔ ∃ (names : List String) (l : Location), names ≠ [] ∧
    whole = way ++ names ∧ l.IsAt fs.root whole ∧ l.entry.isDirectory = false

namespace Glob

variable {fs : FileSystem} {f g : Found}

/-! ### Descendants -/

/-- The components of a path as they stand before the name of something in the directory there. -/
def stem (path : String) : List Path.Component :=
  if Path.components path = [.current] then [] else Path.components path

theorem components_of_notMem {name : String} (hempty : name ≠ "") (hcurrent : name ≠ ".") (hslash : '/' ∉ name.toList) :
    Path.components name = [.named name] := by
  have hlead : Path.lead [name] = [] := by
    unfold Path.lead
    split <;> simp_all
  rw [Path.components_eq, Path.pieces_of_notMem hslash, hlead, Path.names,
    List.filter_cons_of_pos (by simp [hempty, hcurrent])]
  rfl

theorem concat_named_ne (components : List Path.Component) (name : String) :
    components ++ [.named name] ≠ [.current] := fun h => by
  have hlast := congrArg List.getLast? h
  simp at hlast

theorem components_pathWithin {path name : String} (hpath : path ≠ "") (hempty : name ≠ "") (hcurrent : name ≠ ".")
    (hslash : '/' ∉ name.toList) : Path.components (pathWithin path name) = stem path ++ [.named name] := by
  rw [pathWithin, stem]
  split
  · exact components_of_notMem hempty hcurrent hslash
  · rw [Path.components_join hpath hslash, Path.names, List.filter_cons_of_pos (by simp [hempty, hcurrent])]
    rfl

theorem components_inner (hpath : f.path ≠ "") {entry : String × Entry} (h : IsEntryName entry.1) :
    Path.components (f.inner entry).path = stem f.path ++ [.named entry.1] :=
  components_pathWithin hpath h.1 h.2.1 h.2.2.2

theorem place_inner (hpath : f.path ≠ "") {entry : String × Entry} (h : IsEntryName entry.1) :
    fs.place (f.inner entry).path = fs.place f.path ++ [entry.1] := by
  obtain ⟨hempty, hcurrent, houter, hslash⟩ := h
  rw [Found.inner, place_pathWithin hpath hslash, Path.onwards, if_neg (by simp [hempty, hcurrent]), if_neg houter]

theorem stem_inner (hpath : f.path ≠ "") {entry : String × Entry} (h : IsEntryName entry.1) :
    stem (f.inner entry).path = stem f.path ++ [.named entry.1] := by
  rw [stem, components_inner hpath h, if_neg (concat_named_ne _ _)]

/-- What is below something has names behind its own. -/
theorem exists_names_of_mem_below (hroot : fs.root.IsProper) {f : Found} (hf : f.IsFound fs) (hg : g ∈ f.below) :
    g.IsFound fs ∧ ∃ names ≠ [], fs.place g.path = fs.place f.path ++ names ∧
      Path.components g.path = stem f.path ++ names.map .named := by
  cases hentries : f.location.entry with
  | directory entries =>
    obtain ⟨entry, hentry, hg⟩ := (mem_below_iff hentries).1 hg
    obtain ⟨hname, hinner⟩ := hf.isFound_inner hroot hentries hentry
    rcases hg with rfl | hg
    · exact ⟨hinner, [entry.1], List.cons_ne_nil _ _, place_inner hf.isSpelled.1 hname,
        components_inner hf.isSpelled.1 hname⟩
    · obtain ⟨hfound, names, -, hplace, hcomponents⟩ := exists_names_of_mem_below hroot hinner hg
      refine ⟨hfound, entry.1 :: names, List.cons_ne_nil _ _, ?_, ?_⟩
      · rw [hplace, place_inner hf.isSpelled.1 hname, List.append_assoc, List.singleton_append]
      · rw [hcomponents, stem_inner hf.isSpelled.1 hname, List.append_assoc, List.singleton_append, List.map_cons]
  | _ =>
    rw [below_of_not_isDirectory (by rw [hentries]; rfl)] at hg
    cases hg
termination_by sizeOf f.location.entry
decreasing_by
  rw [hentries]
  exact sizeOf_inner_lt hentry

/-- Whatever has names behind those of something is below it. -/
theorem exists_mem_below (hroot : fs.root.IsProper) {names : List String} (hne : names ≠ []) {l : Location}
    (hf : f.IsFound fs) (hl : l.IsAt fs.root (fs.place f.path ++ names)) :
    ∃ g ∈ f.below, fs.place g.path = fs.place f.path ++ names ∧ g.location = l := by
  induction names generalizing f with
  | nil => contradiction
  | cons name names ih =>
    rw [List.append_cons] at hl
    obtain ⟨between, hbetween⟩ := hl.exists_of_append
    obtain ⟨outer, e, houter, hchild, -⟩ := hbetween.exists_of_concat
    obtain rfl := houter.unique hf.isAt
    cases hentries : f.location.entry with
    | directory entries =>
      rw [hentries, Entry.child?, Option.map_eq_some_iff] at hchild
      obtain ⟨entry, hfind, -⟩ := hchild
      obtain rfl : entry.1 = name := by simpa using List.find?_some hfind
      have hentry := List.mem_of_find?_eq_some hfind
      obtain ⟨hname, hinner⟩ := hf.isFound_inner hroot hentries hentry
      have hplace : fs.place (f.inner entry).path = fs.place f.path ++ [entry.1] := place_inner hf.isSpelled.1 hname
      rw [← hplace] at hl
      cases names with
      | nil =>
        rw [List.append_nil] at hl
        exact ⟨f.inner entry, (mem_below_iff hentries).2 ⟨entry, hentry, .inl rfl⟩, hplace, hinner.isAt.unique hl⟩
      | cons next names =>
        obtain ⟨g, hg, hgplace, hglocation⟩ := ih (List.cons_ne_nil _ _) hinner hl
        refine ⟨g, (mem_below_iff hentries).2 ⟨entry, hentry, .inr hg⟩, ?_, hglocation⟩
        rw [hgplace, hplace, List.append_assoc, List.singleton_append]
    | _ =>
      rw [hentries] at hchild
      cases hchild

/-! ### Ways -/

theorem visit_literals (names : List String) (rest : List Segment) (f : Found) :
    visit (names.map .literal ++ rest) f = ((names.foldlM step? f).map (visit rest)).getD [] := by
  induction names generalizing f with
  | nil => rfl
  | cons name names ih =>
    rw [List.map_cons, List.cons_append, visit, List.foldlM_cons]
    cases step? f name with
    | none => rfl
    | some next => exact ih next

/-- An empty piece leads nowhere from the current directory. -/
theorem foldlM_step?_of_gap {names : List String} (hf : Path.components f.path = [.current])
    (hgap : (names.dropWhile (· = ".")).head? = some "") : names.foldlM step? f = none := by
  induction names generalizing f with
  | nil => cases hgap
  | cons name names ih =>
    rw [List.foldlM_cons, step?, pathWithin, if_pos hf]
    by_cases hname : name = "."
    · rw [hname, List.dropWhile_cons_of_pos (by simp)] at hgap
      rw [hname, if_neg (by decide)]
      cases f.location.step "." with
      | error fault => rfl
      | ok next => exact ih (show Path.components "." = _ by decide) hgap
    · rw [List.dropWhile_cons_of_neg (by simpa using hname)] at hgap
      rw [if_pos (Option.some.inj hgap)]
      rfl

theorem current_of_pathWithin {path name : String} (hpath : path ≠ "") (hslash : '/' ∉ name.toList)
    (h : Path.components (pathWithin path name) = [.current]) : Path.components path = [.current] ∧ name = "." := by
  rw [pathWithin] at h
  split at h
  · rename_i hcurrent
    refine ⟨hcurrent, ?_⟩
    by_cases hempty : name = ""
    · rw [hempty] at h
      exact absurd h (by decide)
    · by_contra hname
      rw [components_of_notMem hempty hname hslash] at h
      exact concat_named_ne [] name h
  · rename_i hcurrent
    rw [Path.components_join hpath hslash] at h
    by_cases hname : name = "" ∨ name = "."
    · have hnames : Path.names [name] = [] := by rcases hname with rfl | rfl <;> rfl
      rw [hnames] at h
      exact absurd ((List.append_nil _).symm.trans h) hcurrent
    · have hnames : Path.names [name] = [name] := by simpa [Path.names, not_or] using hname
      rw [hnames] at h
      exact absurd h (concat_named_ne _ name)

/-- Where some pieces lead, a pattern of them leads too, unless it goes on from the current directory with an empty
one. -/
theorem exists_foldlM_step? (hroot : fs.root.IsProper) {names : List String}
    (hslash : ∀ name ∈ names, '/' ∉ name.toList) (hf : f.IsFound fs)
    (hgap : Path.components f.path = [.current] → (names.dropWhile (· = ".")).head? ≠ some "") {l : Location}
    (h : f.location.follow names = .ok l) : ∃ g, names.foldlM step? f = some g ∧ g.location = l ∧ g.IsFound fs ∧
      fs.place g.path = names.foldl Path.onwards (fs.place f.path) := by
  induction names generalizing f with
  | nil =>
    cases h
    exact ⟨f, rfl, rfl, hf, rfl⟩
  | cons name names ih =>
    rw [List.forall_mem_cons] at hslash
    rw [Location.follow, List.foldlM_cons] at h
    cases hnext : f.location.step name with
    | error fault =>
      rw [hnext] at h
      cases h
    | ok next =>
      rw [hnext] at h
      have hne : pathWithin f.path name ≠ "" := by
        rw [pathWithin]
        split
        · rename_i hcurrent
          rintro rfl
          exact hgap hcurrent rfl
        · exact join_ne_empty hf.isSpelled.1
      have hstep : step? f name = some ⟨name, pathWithin f.path name, next⟩ := by
        rw [step?, if_neg hne, hnext]
      have hgap' : Path.components (pathWithin f.path name) = [.current] →
          (names.dropWhile (· = ".")).head? ≠ some "" := fun hcurrent => by
        obtain ⟨hhere, rfl⟩ := current_of_pathWithin hf.isSpelled.1 hslash.1 hcurrent
        exact hgap hhere
      have hnextFound := (isClosed_isFound hroot).step hf hslash.1 hne hnext
      obtain ⟨g, hg, hlocation, hfound, hplace⟩ := ih hslash.2 hnextFound hgap' h
      refine ⟨g, ?_, hlocation, hfound, ?_⟩
      · rw [List.foldlM_cons, hstep]
        exact hg
      · rw [hplace, place_pathWithin hf.isSpelled.1 hslash.1]
        rfl

/-! ### Files below a directory -/

theorem fit_anyChars (cs : List Char) : Token.fit [.anyChars] cs = true := by
  have hmem : [] ∈ Token.remainders cs := by
    induction cs with
    | nil => exact List.mem_singleton_self _
    | cons c cs ih => exact List.mem_cons_of_mem _ ih
  simpa [Token.fit, Token.advance] using hmem

theorem visit_below (f : Found) : visit [.deep, .wild [.anyChars]] f = f.below := by
  have hvisit : visit [.deep, .wild [.anyChars]] f = f.below.flatMap fun g => [g] := by
    rw [visit.eq_6 _ _ _ (by simp)]
    exact List.flatMap_congr fun g _ => if_pos (fit_anyChars g.name.toList)
  rw [hvisit, List.flatMap_singleton']

/-- The files among what a pattern matches. -/
def filesOf (found : List Found) : List String := (found.filter fun g => !g.isDirectory).map Found.path

theorem mem_filesOf_iff {found : List Found} {path : String} :
    path ∈ filesOf found ↔ ∃ g ∈ found, g.isDirectory = false ∧ g.path = path := by
  simp [filesOf, and_assoc]

theorem globFiles_of_expand {pattern : String} {found : List Found} (h : expand fs (filePattern pattern) = .ok found) :
    globFiles fs [pattern] = .ok (appendNew [] (filesOf found)) := by
  rw [globFiles, List.foldlM_cons, matchedFiles, h]
  rfl

/-- The files below something are listed once each. -/
theorem Found.IsFound.listsBelow (hroot : fs.root.IsProper) (hf : f.IsFound fs) :
    fs.ListsBelow (fs.place f.path) (appendNew [] (filesOf f.below)) where
  nodup := by
    rw [List.Nodup, List.pairwise_map]
    refine (isDistinct_appendNew .nil (filesOf f.below)).imp_of_mem fun {p q} hp hq hne hplace => hne ?_
    have hbelow {path : String} (h : path ∈ appendNew [] (filesOf f.below)) : ∃ names,
        fs.place path = fs.place f.path ++ names ∧ Path.components path = stem f.path ++ names.map .named := by
      obtain ⟨g, hg, -, rfl⟩ := mem_filesOf_iff.1 ((mem_or_mem_of_mem_appendNew h).resolve_left List.not_mem_nil)
      obtain ⟨-, names, -, hnames⟩ := exists_names_of_mem_below hroot hf hg
      exact ⟨names, hnames⟩
    obtain ⟨names, hnames, hp⟩ := hbelow hp
    obtain ⟨names', hnames', hq⟩ := hbelow hq
    rw [hnames, hnames', List.append_cancel_left_eq] at hplace
    rw [hp, hq, hplace]
  mem_iff := by
    refine fun whole => ⟨fun h => ?_, ?_⟩
    · obtain ⟨path, hpath, rfl⟩ := List.mem_map.1 h
      obtain ⟨g, hg, hfile, rfl⟩ :=
        mem_filesOf_iff.1 ((mem_or_mem_of_mem_appendNew hpath).resolve_left List.not_mem_nil)
      obtain ⟨hfound, names, hne, hplace, -⟩ := exists_names_of_mem_below hroot hf hg
      exact ⟨names, g.location, hne, hplace, hfound.isAt, hfile⟩
    · rintro ⟨names, l, hne, rfl, hl, hfile⟩
      obtain ⟨g, hg, hplace, rfl⟩ := exists_mem_below hroot hne hf hl
      have hlisted : isListed (appendNew [] (filesOf f.below)) g.path = true := by
        rw [isListed_appendNew, Bool.or_eq_true]
        exact .inr (isListed_iff.2 ⟨g.path, mem_filesOf_iff.2 ⟨g, hg, hfile, rfl⟩, rfl⟩)
      obtain ⟨path, hpath, hsame⟩ := isListed_iff.1 hlisted
      obtain ⟨g', hg', -, rfl⟩ :=
        mem_filesOf_iff.1 ((mem_or_mem_of_mem_appendNew hpath).resolve_left List.not_mem_nil)
      rw [← hplace, Path.place_eq_of_components_eq (exists_names_of_mem_below hroot hf hg).1.isSpelled.1
        (exists_names_of_mem_below hroot hf hg').1.isSpelled.1 hsame]
      exact List.mem_map_of_mem hpath

/-! ### Patterns -/

/-- The pieces of a path from where it starts. -/
def steps (path : String) : List String :=
  if Path.isAbsolute path = true then (Path.pieces path).drop 1 else Path.pieces path

theorem slash_notMem_of_mem_steps {path name : String} (h : name ∈ steps path) : '/' ∉ name.toList := by
  have hpieces : name ∈ Path.pieces path := by
    rw [steps] at h
    split at h
    · exact List.mem_of_mem_drop h
    · exact h
  obtain ⟨piece, hpiece, rfl⟩ := List.mem_map.1 hpieces
  rw [String.toList_ofList]
  exact slash_notMem_of_mem_splitChars hpiece

theorem pieces_eq_steps (path : String) :
    Path.pieces path = if Path.isAbsolute path = true then "" :: steps path else steps path := by
  cases habsolute : Path.isAbsolute path with
  | true =>
    obtain ⟨rest, hpieces⟩ := List.head?_eq_some_iff.1 (Path.isAbsolute_iff.1 habsolute).2
    rw [if_pos rfl, steps, if_pos habsolute, hpieces]
    rfl
  | false => rw [if_neg Bool.false_ne_true, steps, if_neg (by simp [habsolute])]

theorem follow_of_find {path : String} {l : Location} (h : fs.find path = .ok l) :
    Location.follow ⟨fs.root, []⟩
      (if Path.isAbsolute path = true then steps path else fs.directory ++ steps path) = .ok l := by
  rw [FileSystem.find] at h
  split at h
  · cases h
  rename_i hne
  split at h
  · cases h
  cases habsolute : Path.isAbsolute path with
  | true =>
    rw [pieces_eq_steps, if_pos habsolute] at h
    exact h
  | false =>
    split at h
    · rename_i rest hpieces
      rw [Path.isAbsolute_iff.2 ⟨hne, by rw [hpieces]; rfl⟩] at habsolute
      cases habsolute
    · rw [pieces_eq_steps, habsolute] at h
      exact h

/-- What a path leads to is found from where a pattern of it starts. -/
theorem exists_start_of_find {path : String} {l : Location} (h : fs.find path = .ok l) :
    ∃ f, start fs (Path.isAbsolute path) = some f ∧ f.location.follow (steps path) = .ok l ∧
      fs.place path = (steps path).foldl Path.onwards (fs.place f.path) ∧
      (Path.components f.path = [.current] → Path.isAbsolute path = false) := by
  have hfollow := follow_of_find h
  cases habsolute : Path.isAbsolute path with
  | true =>
    rw [if_pos habsolute] at hfollow
    refine ⟨_, rfl, hfollow, ?_, fun hcurrent => absurd hcurrent (by decide : Path.components "/" ≠ [.current])⟩
    have hroot : fs.place "/" = [] := by
      rw [FileSystem.place, if_pos (by decide)]
      rfl
    rw [hroot, FileSystem.place, if_pos habsolute, pieces_eq_steps, if_pos habsolute]
    rfl
  | false =>
    rw [habsolute, if_neg Bool.false_ne_true, Location.follow, List.foldlM_append, bind_eq_ok_iff] at hfollow
    obtain ⟨here, hhere, hrest⟩ := hfollow
    refine ⟨⟨"", ".", here⟩, ?_, hrest, ?_, fun _ => rfl⟩
    · rw [start, if_neg (by decide), Location.follow, hhere]
      rfl
    · have hplace : fs.place "." = fs.directory.foldl Path.onwards [] := place_of_current (by decide)
      rw [hplace, FileSystem.place, pieces_eq_steps, habsolute, if_neg Bool.false_ne_true, if_neg Bool.false_ne_true,
        List.foldl_append]

theorem segments_deep {cs : List Char} (h : Token.ArePlain cs) :
    segments (cs ++ "/**/*".toList) =
      .ok (((splitChars '/' cs).map fun piece => .literal (String.ofList piece)) ++ [.deep, .wild [.anyChars]]) := by
  have hpieces : splitChars '/' (cs ++ "/**/*".toList) = splitChars '/' cs ++ ["**".toList, "*".toList] := by
    change splitChars '/' (cs ++ '/' :: "**/*".toList) = _
    rw [splitChars_append_cons]
    rfl
  refine segments_of_pieces ?_ ?_
  · rw [hpieces]
    simp
  · rw [hpieces]
    refine List.rel_append ?_ (.cons rfl (.cons rfl .nil))
    rw [List.forall₂_map_right_iff, List.forall₂_same]
    exact fun piece hpiece => reads_plain fun c hc => h c (mem_of_mem_splitChars hpiece hc)

theorem filePattern_deep (path : String) : filePattern (path ++ "/**") = path ++ "/**/*" := by
  rw [filePattern, if_pos (.inr (by simp [String.toList_append])), String.append_assoc]
  rfl

theorem isAbsolute_deep {path : String} (hne : path ≠ "") :
    Path.isAbsolute (path ++ "/**/*") = Path.isAbsolute path := by
  cases hpath : path.toList with
  | nil => exact absurd (String.toList_eq_nil_iff.1 hpath) hne
  | cons c cs => simp [Path.isAbsolute, String.toList_append, hpath]

theorem exists_tokens_deep {path : String} (hplain : Token.ArePlain path.toList) :
    ∃ tokens, Token.ofChars (path ++ "/**/*").toList = .ok tokens := by
  have hslash : Token.ArePlain (path.toList ++ ['/']) := by
    rw [Token.ArePlain, List.forall_mem_append, List.forall_mem_singleton]
    exact ⟨hplain, by decide⟩
  obtain ⟨position, hscan⟩ := Token.scan_texts (Token.spells_plain hslash) 0 none "**/*".toList
  rw [Token.flatMap_plain, List.getLast?_concat, List.append_assoc] at hscan
  rw [String.toList_append]
  exact ⟨_, hscan⟩

theorem segments_deep_steps {path : String} (hplain : Token.ArePlain path.toList) :
    segments ((if Path.isAbsolute path = true then path.toList.drop 1 else path.toList) ++ "/**/*".toList) =
      .ok ((steps path).map .literal ++ [.deep, .wild [.anyChars]]) := by
  rw [steps, Path.pieces]
  split
  · rename_i habsolute
    obtain ⟨cs, hcs⟩ := List.head?_eq_some_iff.1 (of_decide_eq_true habsolute)
    rw [hcs] at hplain
    rw [hcs, splitChars, if_pos rfl, List.map_cons, List.drop_succ_cons, List.drop_zero, List.drop_succ_cons,
      List.drop_zero, List.map_map]
    exact segments_deep fun c hc => hplain c (List.mem_cons_of_mem _ hc)
  · rw [List.map_map]
    exact segments_deep hplain

/-- A path with `**` behind it stands for everything below what a pattern of the path matches. -/
theorem expand_deep (fs : FileSystem) {path : String} (hne : path ≠ "") (hplain : Token.ArePlain path.toList) :
    expand fs (filePattern (path ++ "/**")) = .ok (((start fs (Path.isAbsolute path)).map fun f =>
      (((steps path).foldlM step? f).map Found.below).getD []).getD []) := by
  obtain ⟨tokens, htokens⟩ := exists_tokens_deep hplain
  have hchars : (path ++ "/**/*").toList = path.toList ++ "/**/*".toList := String.toList_append
  have hsegments : segments (if Path.isAbsolute (path ++ "/**/*") = true then (path ++ "/**/*").toList.drop 1
      else (path ++ "/**/*").toList) = .ok ((steps path).map .literal ++ [.deep, .wild [.anyChars]]) := by
    have hlength : 1 ≤ path.toList.length := List.length_pos_iff.2 fun hnil => hne (String.toList_eq_nil_iff.1 hnil)
    rw [isAbsolute_deep hne, hchars, List.drop_append_of_le_length hlength, ← segments_deep_steps hplain]
    split <;> rfl
  rw [filePattern_deep, expand_of_segments htokens hsegments (by simp [hchars]), isAbsolute_deep hne]
  congr 2
  cases start fs (Path.isAbsolute path) with
  | none => rfl
  | some f =>
    change some (visit _ f) = some _
    rw [visit_literals, funext visit_below]

end Glob

/-- A directory that holds a file and a hidden directory with another. -/
def vendored : FileSystem where
  root := .directory [("vendor", .directory [("x.yml", .file "a: 1\n".toUTF8),
    (".git", .directory [("config", .file "b: 2\n".toUTF8)])])]
  directory := []

theorem isProper_vendored : vendored.root.IsProper := by
  refine .directory (by decide : ["vendor"].Nodup) ?_ ?_ <;> rw [List.forall_mem_singleton]
  · exact (by decide : IsEntryName "vendor")
  · refine .directory (by decide : ["x.yml", ".git"].Nodup) ?_ ?_ <;>
      rw [List.forall_mem_cons, List.forall_mem_singleton]
    · exact ⟨(by decide : IsEntryName "x.yml"), (by decide : IsEntryName ".git")⟩
    · refine ⟨.file _, .directory (by decide : ["config"].Nodup) ?_ ?_⟩ <;> rw [List.forall_mem_singleton]
      · exact (by decide : IsEntryName "config")
      · exact .file _

end YamlSchema
