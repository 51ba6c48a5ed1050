import YamlSchema.Proofs.Files.Place
import YamlSchema.Proofs.Glob.Closure

/-!
# The paths of what a pattern matches

What a glob pattern matches is found at the place of the path under which it is listed, and that path is spelled without a
`.` at its beginning, wherever the pattern has one (`isFound_of_mem_expand`).  The names in the file system have to be
names for that.
-/

namespace YamlSchema

/-- The name of an entry of a directory. -/
def IsEntryName (name : String) : Prop := name ≠ "" ∧ name ≠ "." ∧ name ≠ ".." ∧ '/' ∉ name.toList

instance (name : String) : Decidable (IsEntryName name) := inferInstanceAs (Decidable (_ ∧ _))

/-- The entries of all directories have names, and no two of one directory have the same. -/
inductive Entry.IsProper : Entry → Prop
  | file (bytes : ByteArray) : IsProper (.file bytes)
  | locked : IsProper .locked
  | directory {entries : List (String × Entry)} (hnodup : (entries.map Prod.fst).Nodup)
      (hnames : ∀ e ∈ entries, IsEntryName e.1) (hentries : ∀ e ∈ entries, IsProper e.2) :
      IsProper (.directory entries)

namespace Entry.IsProper

variable {e : Entry}

theorem of_child {name : String} {inner : Entry} (h : e.IsProper) (hchild : e.child? name = some inner) :
    inner.IsProper := by
  cases h with
  | directory hnodup hnames hentries =>
    rw [child?, Option.map_eq_some_iff] at hchild
    obtain ⟨entry, hfind, rfl⟩ := hchild
    exact hentries _ (List.mem_of_find?_eq_some hfind)
  | _ => cases hchild

theorem isEntryName {entries : List (String × Entry)} (h : (Entry.directory entries).IsProper)
    {entry : String × Entry} (hmem : entry ∈ entries) : IsEntryName entry.1 := by
  cases h with
  | directory hnodup hnames hentries => exact hnames entry hmem

theorem child?_of_mem {entries : List (String × Entry)} (h : (Entry.directory entries).IsProper)
    {entry : String × Entry} (hmem : entry ∈ entries) : (Entry.directory entries).child? entry.1 = some entry.2 := by
  cases h with
  | directory hnodup hnames hentries =>
    rw [child?, Option.map_eq_some_iff]
    refine ⟨entry, ?_, rfl⟩
    clear hnames hentries
    induction entries with
    | nil => cases hmem
    | cons first rest ih =>
      rw [List.map_cons, List.nodup_cons] at hnodup
      rcases List.mem_cons.1 hmem with rfl | hmem
      · simp
      · have hne : first.1 ≠ entry.1 := fun heq => hnodup.1 (heq ▸ List.mem_map_of_mem hmem)
        rw [List.find?_cons_of_neg (by simpa using hne), ih hmem hnodup.2]

end Entry.IsProper

theorem Location.IsAt.isProper {root : Entry} {way : List String} {l : Location} (h : l.IsAt root way)
    (hroot : root.IsProper) : l.entry.IsProper := by
  induction h with
  | root => exact hroot
  | child _ hchild ih => exact ih.of_child hchild

namespace Glob

/-- Something is found under a path: it is at its place, and the path is spelled as such paths are. -/
structure Found.IsFound (fs : FileSystem) (f : Found) : Prop where
  isSpelled : Path.IsSpelled f.path
  isAt : f.location.IsAt fs.root (fs.place f.path)

section Paths

variable {fs : FileSystem} {path name : String}

theorem names_eq_nil_of_current (h : Path.components path = [.current]) : Path.names (Path.pieces path) = [] := by
  rw [Path.components_eq] at h
  cases hnames : Path.names (Path.pieces path) with
  | nil => rfl
  | cons n ns =>
    rw [hnames] at h
    have hmem : Path.Component.named n ∈ [Path.Component.current] := by rw [← h]; simp
    simp at hmem

theorem place_of_current (h : Path.components path = [.current]) :
    fs.place path = fs.directory.foldl Path.onwards [] := by
  have hnames := names_eq_nil_of_current h
  have hstraight : ".." ∉ Path.pieces path := fun hmem => by
    have : ".." ∈ Path.names (Path.pieces path) := List.mem_filter.2 ⟨hmem, by decide⟩
    rw [hnames] at this
    cases this
  have hrelative : Path.isAbsolute path = false := by
    rw [Bool.eq_false_iff]
    intro habsolute
    rw [Path.components_eq, Path.lead_of_isAbsolute habsolute] at h
    simp at h
  rw [FileSystem.place, hrelative, if_neg (by decide), List.foldl_append, Path.foldl_onwards hstraight, hnames,
    List.append_nil]

theorem not_isAbsolute_of_notMem (h : '/' ∉ name.toList) : Path.isAbsolute name = false := by
  rw [Path.isAbsolute, decide_eq_false_iff_not]
  exact fun hhead => h (List.mem_of_mem_head? hhead)

theorem place_pathWithin (hpath : path ≠ "") (h : '/' ∉ name.toList) :
    fs.place (pathWithin path name) = Path.onwards (fs.place path) name := by
  rw [pathWithin]
  split
  · rename_i hcurrent
    rw [place_of_current hcurrent, FileSystem.place, not_isAbsolute_of_notMem h, Path.pieces_of_notMem h,
      if_neg (by decide), List.foldl_append]
    rfl
  · exact Path.place_join hpath h

theorem join_ne_empty (h : path ≠ "") : Path.join path name ≠ "" := by
  rw [Path.join]
  split <;> simp [h]

/-- From `.` itself only `.` and `..` are written behind it. -/
theorem isSpelled_join (hpath : Path.IsSpelled path) (h : '/' ∉ name.toList)
    (hcurrent : Path.components path = [.current] → name = "." ∨ name = "..") :
    Path.IsSpelled (Path.join path name) := by
  obtain ⟨hne, hspelled⟩ := hpath
  obtain ⟨ps, -, hjoin, hpieces⟩ := Path.exists_pieces_join hne h
  refine ⟨join_ne_empty hne, ?_⟩
  · rw [Path.components_join hne h, hjoin, List.mem_append, List.mem_singleton]
    rcases hspelled with hup | hhere | hhead
    · have hmem : ".." ∈ ps := by
        rcases hpieces with ⟨hpieces, -⟩ | hpieces <;> rw [hpieces] at hup
        · exact hup
        · simpa using hup
      exact .inl (.inl hmem)
    · rcases hcurrent hhere with rfl | rfl
      · exact .inr (.inl (by rw [hhere]; rfl))
      · exact .inl (.inr rfl)
    · refine .inr (.inr ?_)
      cases hcomponents : Path.components path with
      | nil =>
        cases hnames : Path.names [name] <;> simp
      | cons c cs => rwa [hcomponents] at hhead

theorem isSpelled_pathWithin (hpath : Path.IsSpelled path) (h : '/' ∉ name.toList) (hne : pathWithin path name ≠ "") :
    Path.IsSpelled (pathWithin path name) := by
  rw [pathWithin] at hne ⊢
  split
  · rename_i hcurrent
    rw [if_pos hcurrent] at hne
    refine ⟨hne, .inr ?_⟩
    rw [Path.components_eq, Path.pieces_of_notMem h]
    by_cases hname : name = "."
    · exact .inl (by rw [hname]; rfl)
    · refine .inr ?_
      have hlead : Path.lead [name] = [] := by
        unfold Path.lead
        split <;> simp_all
      rw [hlead]
      cases Path.names [name] <;> simp
  · rename_i hcurrent
    exact isSpelled_join hpath h fun heq => absurd heq hcurrent

end Paths

namespace Found.IsFound

variable {fs : FileSystem} {f : Found}

/-- What is in a directory is found under its name. -/
theorem of_child {name : String} {e : Entry} (h : f.IsFound fs) (hname : IsEntryName name)
    (hchild : f.location.entry.child? name = some e) :
    Found.IsFound fs ⟨name, pathWithin f.path name, ⟨e, f.location.entry :: f.location.around⟩⟩ := by
  obtain ⟨hempty, hcurrent, houter, hslash⟩ := hname
  refine ⟨isSpelled_pathWithin h.isSpelled hslash ?_, ?_⟩
  · rw [pathWithin]
    split
    · exact hempty
    · exact join_ne_empty h.isSpelled.1
  · rw [place_pathWithin h.isSpelled.1 hslash, Path.onwards, if_neg (by simp [hempty, hcurrent]), if_neg houter]
    exact h.isAt.child hchild

theorem isFound_inner {entries : List (String × Entry)} (hroot : fs.root.IsProper) (h : f.IsFound fs)
    (hentries : f.location.entry = .directory entries) {entry : String × Entry} (hentry : entry ∈ entries) :
    IsEntryName entry.1 ∧ (f.inner entry).IsFound fs := by
  have hproper := h.isAt.isProper hroot
  rw [hentries] at hproper
  refine ⟨hproper.isEntryName hentry, h.of_child (hproper.isEntryName hentry) ?_⟩
  rw [hentries]
  exact hproper.child?_of_mem hentry

end Found.IsFound

/-- A pattern leads from what is found to what is found. -/
theorem isClosed_isFound {fs : FileSystem} (hroot : fs.root.IsProper) : IsClosed (Found.IsFound fs) where
  step h hname hne hstep := by
    refine ⟨isSpelled_pathWithin h.isSpelled hname hne, ?_⟩
    rw [place_pathWithin h.isSpelled.1 hname]
    exact h.isAt.of_step hstep
  dots {f name l} h hname hstep := by
    have hslash : '/' ∉ name.toList := by rcases hname with rfl | rfl <;> decide
    refine ⟨isSpelled_join h.isSpelled hslash fun _ => hname, ?_⟩
    rw [Path.place_join h.isSpelled.1 hslash]
    exact h.isAt.of_step hstep
  inner h hentries hentry := (h.isFound_inner hroot hentries hentry).2

/-- Where a pattern starts is found. -/
theorem isFound_start {fs : FileSystem} {isAbsolute : Bool} {f : Found} (h : start fs isAbsolute = some f) :
    f.IsFound fs := by
  rcases start_cases h with ⟨-, rfl⟩ | ⟨-, l, hfollow, rfl⟩
  · have hspelled : Path.IsSpelled "/" := ⟨by decide, .inr (.inr (by decide))⟩
    have hplace : fs.place "/" = [] := by
      rw [FileSystem.place, if_pos (by decide)]
      decide
    refine ⟨hspelled, ?_⟩
    rw [hplace]
    exact .root
  · have hcurrent : Path.components "." = [.current] := by decide
    refine ⟨⟨fun heq => absurd heq (by decide : "." ≠ ""), .inr (.inl hcurrent)⟩, ?_⟩
    rw [place_of_current hcurrent]
    exact Location.IsAt.root.of_follow hfollow

/-- What a pattern matches is found. -/
theorem isFound_of_mem_expand {fs : FileSystem} (hroot : fs.root.IsProper) {pattern : String} {found : List Found}
    (h : expand fs pattern = .ok found) : ∀ f ∈ found, f.IsFound fs :=
  (isClosed_isFound hroot).of_mem_expand (fun _ _ => isFound_start) h

end Glob

/-- The path under which a pattern matches a file is spelled as such paths are. -/
theorem Matches.isSpelled {fs : FileSystem} (hroot : fs.root.IsProper) {pattern path : String}
    (h : Matches fs pattern path) : Path.IsSpelled path := by
  obtain ⟨found, hfound, g, hg, rfl, -⟩ := h.exists_found
  exact (Glob.isFound_of_mem_expand hroot hfound g hg).isSpelled

end YamlSchema
