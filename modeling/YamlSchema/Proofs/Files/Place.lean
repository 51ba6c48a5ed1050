import YamlSchema.Files.System

/-!
# The places of paths

Several paths may lead to one file.  The file itself is told by its `FileSystem.place`, the names on the way to it from
the root: what a path leads to is what is at its place (`FileSystem.isAt_of_find`).  Paths through no `..` that start
alike and have the same place have the same components (`components_eq_of_place_eq`).
-/

namespace YamlSchema

/-! ### Components -/

namespace Path

/-- A path starts from the root. -/
def isAbsolute (path : String) : Bool := path.toList.head? = some '/'

/-- A path goes through no `..`. -/
def IsStraight (path : String) : Prop := ".." ∉ pieces path

instance (path : String) : Decidable (IsStraight path) := inferInstanceAs (Decidable (¬ _))

/-- The names among some pieces. -/
def names (pieces : List String) : List String := pieces.filter fun p => p ≠ "" && p ≠ "."

/-- The component that says where some pieces start from. -/
def lead : List String → List Component
  | "" :: _ :: _ => [.root]
  | "." :: _ => [.current]
  | _ => []

theorem components_eq (path : String) :
    components path = lead (pieces path) ++ (names (pieces path)).map .named := by
  unfold components lead names
  split <;> simp_all

theorem pieces_ne_nil (path : String) : pieces path ≠ [] := by
  simp [pieces, splitChars_ne_nil]

theorem pieces_of_notMem {name : String} (h : '/' ∉ name.toList) : pieces name = [name] := by
  rw [pieces, splitChars_of_notMem h, List.map_singleton, String.ofList_toList]

/-- A slash at the end of a path ends its last piece. -/
theorem pieces_append_slash {path name : String} (h : '/' ∉ name.toList) :
    pieces (path ++ "/" ++ name) = pieces path ++ [name] := by
  have hchars : (path ++ "/" ++ name).toList = path.toList ++ '/' :: name.toList := by
    simp [String.toList_append]
  rw [pieces, hchars, splitChars_append_cons, List.map_append, splitChars_of_notMem h, List.map_singleton,
    String.ofList_toList, pieces]

theorem names_append (ps qs : List String) : names (ps ++ qs) = names ps ++ names qs := List.filter_append ..

theorem lead_cons_cons (p q : String) (ps : List String) :
    lead (p :: q :: ps) = if p = "" then [.root] else if p = "." then [.current] else [] := by
  unfold lead
  split <;> simp_all

/-- Of what comes behind the first piece, it only matters that it is there. -/
theorem lead_concat {ps : List String} (hne : ps ≠ []) (x y : String) : lead (ps ++ [x]) = lead (ps ++ [y]) := by
  match ps with
  | [] => contradiction
  | [p] | p :: q :: ps => simp only [List.cons_append, List.nil_append, lead_cons_cons]

theorem lead_append {ps : List String} (hne : ps ≠ []) (hempty : ps ≠ [""]) (qs : List String) :
    lead (ps ++ qs) = lead ps := by
  match ps with
  | [] => contradiction
  | [p] =>
    have hp : p ≠ "" := fun heq => hempty (by rw [heq])
    unfold lead
    split <;> simp_all
  | p :: q :: ps => simp only [List.cons_append, lead_cons_cons]

theorem pieces_eq_singleton_iff {path : String} : pieces path = [""] ↔ path = "" := by
  refine ⟨fun h => ?_, fun h => by rw [h]; rfl⟩
  have hchars : (splitChars '/' path.toList).map String.ofList = [[]].map String.ofList := h
  have hcut := intercalate_splitChars '/' path.toList
  rw [(List.map_inj_right fun _ _ => String.ofList_injective).1 hchars] at hcut
  exact String.toList_eq_nil_iff.1 hcut.symm

/-- A path that goes one name further has one piece more, behind the slash at the end if there is one. -/
theorem exists_pieces_join {path name : String} (hpath : path ≠ "") (h : '/' ∉ name.toList) :
    ∃ ps, ps ≠ [] ∧ pieces (join path name) = ps ++ [name] ∧
      (pieces path = ps ∧ ps ≠ [""] ∨ pieces path = ps ++ [""]) := by
  rw [join]
  by_cases hslash : path.toList.getLast? = some '/'
  · obtain ⟨before, hbefore⟩ := List.getLast?_eq_some_iff.1 hslash
    have hsplit : path = String.ofList before ++ "/" := by
      apply String.toList_inj.1
      rw [hbefore, String.toList_append, String.toList_ofList]
      rfl
    refine ⟨pieces (String.ofList before), pieces_ne_nil _, ?_, .inr ?_⟩
    · rw [if_pos (.inr hslash), hsplit, pieces_append_slash h]
    · rw [← pieces_append_slash (by simp), hsplit, String.append_empty]
  · refine ⟨pieces path, pieces_ne_nil _, ?_, .inl ⟨rfl, fun heq => hpath (pieces_eq_singleton_iff.1 heq)⟩⟩
    rw [if_neg (by simp [hpath, hslash]), pieces_append_slash h]

/-- A path that goes one name further has one component more. -/
theorem components_join {path name : String} (hpath : path ≠ "") (h : '/' ∉ name.toList) :
    components (join path name) = components path ++ (names [name]).map .named := by
  obtain ⟨ps, hne, hjoin, hpieces⟩ := exists_pieces_join hpath h
  rw [components_eq, components_eq, hjoin, names_append, List.map_append, List.append_assoc]
  rcases hpieces with ⟨hpieces, hempty⟩ | hpieces
  · rw [hpieces, lead_append hne hempty]
  · rw [hpieces, lead_concat hne name "", names_append, List.map_append, List.append_assoc]
    rfl

theorem isAbsolute_iff {path : String} : isAbsolute path = true ↔ path ≠ "" ∧ (pieces path).head? = some "" := by
  rw [isAbsolute, pieces, ne_eq, ← String.toList_eq_nil_iff, List.head?_map]
  cases path.toList with
  | nil => simp
  | cons c cs =>
    rw [splitChars]
    split
    · simp_all
    · split <;> simp_all

theorem isAbsolute_join {path name : String} (hpath : path ≠ "") : isAbsolute (join path name) = isAbsolute path := by
  cases hchars : path.toList with
  | nil => exact absurd (String.toList_eq_nil_iff.1 hchars) hpath
  | cons c cs =>
    rw [join]
    split <;> simp [isAbsolute, String.toList_append, hchars]

/-! ### Places -/

/-- The names on the way from the root, once one more piece of a path is followed. -/
def onwards (way : List String) (piece : String) : List String :=
  if piece = "" ∨ piece = "." then way else if piece = ".." then way.dropLast else way ++ [piece]

end Path

/-- The names on the way from the root to what a path leads to. -/
def FileSystem.place (fs : FileSystem) (path : String) : List String :=
  ((if Path.isAbsolute path then [] else fs.directory) ++ Path.pieces path).foldl Path.onwards []

namespace Path

variable {fs : FileSystem}

theorem place_join {path name : String} (hpath : path ≠ "") (h : '/' ∉ name.toList) :
    fs.place (join path name) = onwards (fs.place path) name := by
  obtain ⟨ps, -, hjoin, hpieces⟩ := exists_pieces_join hpath h
  have hsame (way : List String) : (pieces path).foldl onwards way = ps.foldl onwards way := by
    rcases hpieces with ⟨hpieces, -⟩ | hpieces
    · rw [hpieces]
    · rw [hpieces, List.foldl_append]
      rfl
  simp only [FileSystem.place, isAbsolute_join hpath, hjoin, List.foldl_append, hsame, List.foldl_cons, List.foldl_nil]

/-- Without `..`, only the names of a path lead anywhere. -/
theorem foldl_onwards {ps : List String} (h : ".." ∉ ps) (way : List String) :
    ps.foldl onwards way = way ++ names ps := by
  induction ps generalizing way with
  | nil => simp [names]
  | cons p ps ih =>
    rw [List.mem_cons, not_or] at h
    rw [List.foldl_cons, ih h.2, onwards, names, names, List.filter_cons]
    by_cases hp : p = "" ∨ p = "."
    · rw [if_pos hp, if_neg (by rcases hp with rfl | rfl <;> decide)]
    · rw [if_neg hp, if_neg (Ne.symm h.1), if_pos (by simpa [not_or] using hp)]
      simp

/-- Pieces that are no names lead nowhere. -/
theorem foldl_onwards_names (ps way : List String) : (names ps).foldl onwards way = ps.foldl onwards way := by
  induction ps generalizing way with
  | nil => rfl
  | cons p ps ih =>
    rw [names, List.filter_cons, List.foldl_cons]
    by_cases hp : p = "" ∨ p = "."
    · rw [if_neg (by rcases hp with rfl | rfl <;> decide), onwards, if_pos hp]
      exact ih way
    · rw [if_pos (by simpa [not_or] using hp), List.foldl_cons]
      exact ih (onwards way p)

/-- A path is written as the paths of files that are found are: it does not begin with `.`, unless it goes nowhere or
through `..`. -/
def IsSpelled (path : String) : Prop :=
  path ≠ "" ∧ (".." ∈ pieces path ∨ components path = [.current] ∨ (components path).head? ≠ some .current)

theorem lead_of_isAbsolute {path : String} (h : isAbsolute path = true) : lead (pieces path) = [.root] := by
  obtain ⟨hne, hhead⟩ := isAbsolute_iff.1 h
  cases hpieces : pieces path with
  | nil => exact absurd hpieces (pieces_ne_nil path)
  | cons p ps =>
    rw [hpieces, List.head?_cons, Option.some.injEq] at hhead
    cases ps with
    | nil => exact absurd (pieces_eq_singleton_iff.1 (by rw [hpieces, hhead])) hne
    | cons q ps => rw [lead_cons_cons, if_pos hhead]

/-- A path from the current directory begins with `.` or with a name. -/
theorem lead_of_not_isAbsolute {path : String} (hne : path ≠ "") (h : isAbsolute path = false) :
    lead (pieces path) = [.current] ∨ lead (pieces path) = [] ∧ names (pieces path) ≠ [] := by
  cases hpieces : pieces path with
  | nil => exact absurd hpieces (pieces_ne_nil path)
  | cons p ps =>
    have hp : p ≠ "" := fun heq => by
      rw [isAbsolute_iff.2 ⟨hne, by rw [hpieces, heq]; rfl⟩] at h
      cases h
    by_cases hcurrent : p = "."
    · exact .inl (by rw [hcurrent]; rfl)
    · refine .inr ⟨?_, ?_⟩
      · unfold lead
        split <;> simp_all
      · simp [names, hp, hcurrent]

theorem isAbsolute_iff_components {path : String} (hne : path ≠ "") :
    isAbsolute path = true ↔ (components path).head? = some .root := by
  cases h : isAbsolute path with
  | true => simp [components_eq, lead_of_isAbsolute h]
  | false =>
    rcases lead_of_not_isAbsolute hne h with hlead | ⟨hlead, hnames⟩
    · simp [components_eq, hlead]
    · cases hn : names (pieces path) with
      | nil => exact absurd hn hnames
      | cons n ns => simp [components_eq, hlead, hn]

theorem names_eq_of_components_eq {p q : String} (h : components p = components q) :
    names (pieces p) = names (pieces q) := by
  have hfilter (path : String) : (components path).filterMap (fun c => match c with
      | .named name => some name
      | _ => none) = names (pieces path) := by
    have hlead : (lead (pieces path)).filterMap (fun c => match c with
        | .named name => some name
        | _ => none) = [] := by
      unfold lead
      split <;> rfl
    rw [components_eq, List.filterMap_append, hlead, List.filterMap_map, List.nil_append]
    exact List.filterMap_some
  rw [← hfilter p, h, hfilter q]

/-- Paths with the same components lead to the same place. -/
theorem place_eq_of_components_eq {p q : String} (hp : p ≠ "") (hq : q ≠ "") (h : components p = components q) :
    fs.place p = fs.place q := by
  have habsolute : isAbsolute p = isAbsolute q := by
    rw [Bool.eq_iff_iff, isAbsolute_iff_components hp, isAbsolute_iff_components hq, h]
  rw [FileSystem.place, FileSystem.place, List.foldl_append, List.foldl_append, habsolute, ← foldl_onwards_names,
    names_eq_of_components_eq h, foldl_onwards_names]

/-- Where two paths start alike and go through no `..`, they have one place only if they have the same components. -/
theorem components_eq_of_place_eq {p q : String} (hp : IsSpelled p) (hq : IsSpelled q) (hpStraight : IsStraight p)
    (hqStraight : IsStraight q) (habsolute : isAbsolute p = isAbsolute q) (h : fs.place p = fs.place q) :
    components p = components q := by
  have hnames : names (pieces p) = names (pieces q) := by
    rw [FileSystem.place, FileSystem.place, List.foldl_append, List.foldl_append, foldl_onwards hpStraight,
      foldl_onwards hqStraight, habsolute] at h
    exact List.append_cancel_left h
  have hnowhere : ∀ {path}, IsSpelled path → IsStraight path → lead (pieces path) = [.current] →
      names (pieces path) = [] := by
    intro path hpath hstraight hlead
    have hcurrent : components path = [.current] :=
      (hpath.2.resolve_left hstraight).resolve_right fun hne => hne (by rw [components_eq, hlead]; rfl)
    rw [components_eq, hlead, List.singleton_append, List.cons.injEq, List.map_eq_nil_iff] at hcurrent
    exact hcurrent.2
  rw [components_eq, components_eq, hnames]
  congr 1
  cases hroot : isAbsolute q with
  | true => rw [lead_of_isAbsolute hroot, lead_of_isAbsolute (habsolute.trans hroot)]
  | false =>
    rcases lead_of_not_isAbsolute hp.1 (habsolute.trans hroot) with hlead | ⟨hlead, hname⟩ <;>
      rcases lead_of_not_isAbsolute hq.1 hroot with hleads | ⟨hleads, hnames'⟩
    · rw [hlead, hleads]
    · exact absurd (hnames ▸ hnowhere hp hpStraight hlead) hnames'
    · exact absurd (hnames ▸ hnowhere hq hqStraight hleads) hname
    · rw [hlead, hleads]

end Path

/-! ### Following a path -/

namespace Location

variable {l : Location}

theorem follow_cons (l : Location) (name : String) (names : List String) :
    l.follow (name :: names) = (l.step name).bind fun next => next.follow names := List.foldlM_cons

theorem follow_append (l : Location) (names more : List String) :
    l.follow (names ++ more) = (l.follow names).bind fun next => next.follow more := List.foldlM_append

/-- Nothing is in a file. -/
theorem follow_of_not_isDirectory {names : List String} (h : l.entry.isDirectory = false) (hne : names ≠ []) :
    l.follow names = .error .notDirectory := by
  cases names with
  | nil => contradiction
  | cons name names =>
    rw [follow_cons, step, h]
    rfl

/-- Where a name comes at the end, only the names are followed. -/
theorem follow_concat_names (l : Location) (ps : List String) (name : String) :
    l.follow (Path.names ps ++ [name]) = l.follow (ps ++ [name]) := by
  induction ps generalizing l with
  | nil => rfl
  | cons p ps ih =>
    rw [Path.names, List.filter_cons, List.cons_append, follow_cons]
    by_cases hp : p = "" ∨ p = "."
    · rw [if_neg (by rcases hp with rfl | rfl <;> decide)]
      refine (ih l).trans ?_
      cases hdirectory : l.entry.isDirectory with
      | true =>
        rw [step, hdirectory, if_pos hp]
        rfl
      | false =>
        rw [follow_of_not_isDirectory hdirectory (by simp), step, hdirectory]
        rfl
    · rw [if_pos (by simpa [not_or] using hp), List.cons_append, follow_cons]
      exact congrArg _ (funext fun next => ih next)

end Location

namespace Path

/-- A path has a name, and no slash, at its end. -/
def EndsInName (path : String) : Prop := ∃ ps name, pieces path = ps ++ [name] ∧ name ≠ "" ∧ name ≠ "."

theorem EndsInName.ne_empty {path : String} (h : EndsInName path) : path ≠ "" := by
  rintro rfl
  obtain ⟨ps, name, hpieces, hempty, -⟩ := h
  have hsingle : ps ++ [name] = [""] := hpieces.symm
  cases ps with
  | nil => exact hempty (List.cons.inj hsingle).1
  | cons p ps => simp at hsingle

theorem mem_iff_exists_piece {path : String} {c : Char} (hc : c ≠ '/') :
    c ∈ path.toList ↔ ∃ piece ∈ pieces path, c ∈ piece.toList := by
  have hpieces : c ∈ path.toList ↔ ∃ piece ∈ splitChars '/' path.toList, c ∈ piece := by
    generalize path.toList = cs
    induction cs with
    | nil => simp [splitChars]
    | cons first rest ih =>
      rw [splitChars, List.mem_cons, ih]
      split
      · rename_i hfirst
        simp [hfirst, hc]
      · cases hrest : splitChars '/' rest with
        | nil => exact absurd hrest (splitChars_ne_nil _ _)
        | cons piece pieces => simp [or_assoc]
  rw [hpieces, pieces]
  constructor
  · rintro ⟨piece, hpiece, hmem⟩
    exact ⟨String.ofList piece, List.mem_map_of_mem hpiece, by rwa [String.toList_ofList]⟩
  · rintro ⟨_, hpiece, hmem⟩
    obtain ⟨piece, hsplit, rfl⟩ := List.mem_map.1 hpiece
    exact ⟨piece, hsplit, by rwa [String.toList_ofList] at hmem⟩

/-- A character that is in a path is in one of its names. -/
theorem mem_iff_exists_name {path : String} {c : Char} (hc : c ≠ '/') (hdot : c ≠ '.') :
    c ∈ path.toList ↔ ∃ name ∈ names (pieces path), c ∈ name.toList := by
  rw [mem_iff_exists_piece hc]
  constructor
  · rintro ⟨piece, hpiece, hmem⟩
    refine ⟨piece, List.mem_filter.2 ⟨hpiece, ?_⟩, hmem⟩
    have hempty : piece ≠ "" := fun heq => by simp [heq] at hmem
    have hcurrent : piece ≠ "." := fun heq => by simp [heq, hdot] at hmem
    simp [hempty, hcurrent]
  · rintro ⟨name, hname, hmem⟩
    exact ⟨name, (List.mem_filter.1 hname).1, hmem⟩

end Path

namespace FileSystem

variable {fs : FileSystem}

/-- Where a path starts from and which names it goes through decide what it leads to, if there is a name at its end. -/
theorem find_eq_of_endsInName {path : String} (h : Path.EndsInName path) : fs.find path =
    if ∃ name ∈ Path.names (Path.pieces path), '\x00' ∈ name.toList then .error .nulInPath
    else Location.follow ⟨fs.root, []⟩
      ((if Path.isAbsolute path then [] else fs.directory) ++ Path.names (Path.pieces path)) := by
  have hne := h.ne_empty
  obtain ⟨ps, name, hpieces, hempty, hcurrent⟩ := h
  have hnames : Path.names (Path.pieces path) = Path.names ps ++ [name] := by
    rw [hpieces, Path.names_append]
    congr 1
    simp [Path.names, hempty, hcurrent]
  have hnul : '\x00' ∈ path.toList ↔ ∃ name ∈ Path.names (Path.pieces path), '\x00' ∈ name.toList :=
    Path.mem_iff_exists_name (by decide) (by decide)
  rw [find, if_neg hne]
  simp only [hnul]
  split
  · rfl
  · cases habsolute : Path.isAbsolute path with
    | true =>
      obtain ⟨rest, hrest⟩ := List.head?_eq_some_iff.1 (Path.isAbsolute_iff.1 habsolute).2
      cases ps with
      | nil =>
        rw [hpieces] at hrest
        exact absurd (List.cons.inj hrest).1 hempty
      | cons p ps =>
        obtain ⟨rfl, -⟩ : p = "" ∧ ps ++ [name] = rest := by simpa [hpieces] using hrest
        rw [hnames, hpieces, if_pos rfl, List.nil_append]
        exact (Location.follow_concat_names _ ps name).symm
    | false =>
      rw [if_neg (by decide), Location.follow_append, hnames]
      split
      · rename_i rest hrest
        rw [Path.isAbsolute_iff.2 ⟨hne, by rw [hrest]; rfl⟩] at habsolute
        cases habsolute
      · rw [Location.follow_append, hpieces]
        exact congrArg _ (funext fun here => (here.follow_concat_names ps name).symm)

/-- Paths with the same components lead to the same thing, if there is a name at the end of each. -/
theorem find_eq_of_components_eq {p q : String} (hp : Path.EndsInName p) (hq : Path.EndsInName q)
    (h : Path.components p = Path.components q) : fs.find p = fs.find q := by
  have habsolute : Path.isAbsolute p = Path.isAbsolute q := by
    rw [Bool.eq_iff_iff, Path.isAbsolute_iff_components hp.ne_empty,
      Path.isAbsolute_iff_components hq.ne_empty, h]
  rw [find_eq_of_endsInName hp, find_eq_of_endsInName hq, Path.names_eq_of_components_eq h, habsolute]

theorem read_eq_of_components_eq {p q : String} (hp : Path.EndsInName p) (hq : Path.EndsInName q)
    (h : Path.components p = Path.components q) : fs.read p = fs.read q := by
  rw [read, read, find_eq_of_components_eq hp hq h]

end FileSystem

/-! ### What is at a place -/

/-- What names lead to from the root, through directories only. -/
inductive Location.IsAt (root : Entry) : List String → Location → Prop
  | root : IsAt root [] ⟨root, []⟩
  | child {way : List String} {l : Location} {name : String} {e : Entry} (h : IsAt root way l)
      (hchild : l.entry.child? name = some e) : IsAt root (way ++ [name]) ⟨e, l.entry :: l.around⟩

namespace Location

variable {root : Entry} {way : List String} {l next : Location}

theorem IsAt.outer {e outer : Entry} {around : List Entry} (h : IsAt root way ⟨e, outer :: around⟩) :
    IsAt root way.dropLast ⟨outer, around⟩ := by
  cases h with
  | child h hchild => rwa [List.dropLast_concat]

theorem IsAt.of_step {piece : String} (h : IsAt root way l) (hstep : l.step piece = .ok next) :
    IsAt root (Path.onwards way piece) next := by
  obtain ⟨e, around⟩ := l
  rw [step] at hstep
  split at hstep
  · cases hstep
  · split at hstep
    · rename_i hcurrent
      cases hstep
      rwa [Path.onwards, if_pos hcurrent]
    · rename_i hcurrent
      rw [Path.onwards, if_neg hcurrent]
      split at hstep
      · rename_i houter
        rw [if_pos houter]
        cases around with
        | nil =>
          -- the root is around itself
          cases hstep
          cases h
          exact .root
        | cons outer around =>
          cases hstep
          exact h.outer
      · rename_i houter
        rw [if_neg houter]
        split at hstep
        · cases hstep
        · split at hstep
          · rename_i e hchild
            cases hstep
            exact h.child hchild
          · cases hstep

theorem IsAt.exists_of_concat {name : String} (h : IsAt root (way ++ [name]) l) : ∃ outer e, IsAt root way outer ∧
    outer.entry.child? name = some e ∧ l = ⟨e, outer.entry :: outer.around⟩ := by
  generalize hway : way ++ [name] = whole at h
  cases h with
  | root => simp at hway
  | child houter hchild =>
    obtain ⟨rfl, hname⟩ := List.append_inj' hway rfl
    cases hname
    exact ⟨_, _, houter, hchild, rfl⟩

/-- At a place there is one thing. -/
theorem IsAt.unique (h : IsAt root way l) (hnext : IsAt root way next) : l = next := by
  induction h generalizing next with
  | root =>
    generalize hway : ([] : List String) = whole at hnext
    cases hnext with
    | root => rfl
    | child => simp at hway
  | child houter hchild ih =>
    obtain ⟨outer, e, houter', hchild', rfl⟩ := hnext.exists_of_concat
    obtain rfl := ih houter'
    obtain rfl := Option.some.inj (hchild.symm.trans hchild')
    rfl

/-- What is at a place is below what is at the places on the way. -/
theorem IsAt.exists_of_append {names : List String} (h : IsAt root (way ++ names) l) :
    ∃ outer, IsAt root way outer := by
  induction names generalizing way with
  | nil => exact ⟨l, by rwa [List.append_nil] at h⟩
  | cons name names ih =>
    rw [List.append_cons] at h
    obtain ⟨inner, hinner⟩ := ih h
    obtain ⟨outer, -, houter, -⟩ := hinner.exists_of_concat
    exact ⟨outer, houter⟩

theorem IsAt.of_follow {pieces : List String} (h : IsAt root way l) (hfollow : l.follow pieces = .ok next) :
    IsAt root (pieces.foldl Path.onwards way) next := by
  induction pieces generalizing way l with
  | nil =>
    cases hfollow
    exact h
  | cons piece pieces ih =>
    rw [follow, List.foldlM_cons] at hfollow
    cases hstep : l.step piece with
    | error fault =>
      rw [hstep] at hfollow
      cases hfollow
    | ok between =>
      rw [hstep] at hfollow
      exact ih (h.of_step hstep) hfollow

end Location

/-- What a path leads to is at its place. -/
theorem FileSystem.isAt_of_find {fs : FileSystem} {path : String} {l : Location} (h : fs.find path = .ok l) :
    l.IsAt fs.root (fs.place path) := by
  rw [find] at h
  split at h
  · cases h
  · rename_i hne
    split at h
    · cases h
    · rw [place, List.foldl_append]
      split at h
      · rename_i rest hpieces
        rw [if_pos (Path.isAbsolute_iff.2 ⟨hne, by rw [hpieces]; rfl⟩), hpieces]
        exact (Location.IsAt.root.of_follow h : Location.IsAt fs.root (rest.foldl Path.onwards []) l)
      · rename_i hpieces
        have hrelative : Path.isAbsolute path = false := by
          rw [Bool.eq_false_iff, ne_eq, Path.isAbsolute_iff]
          rintro ⟨-, hhead⟩
          obtain ⟨rest, hrest⟩ := List.head?_eq_some_iff.1 hhead
          exact hpieces rest hrest
        rw [hrelative, if_neg (by decide), ← List.foldl_append]
        exact Location.IsAt.root.of_follow h

end YamlSchema
