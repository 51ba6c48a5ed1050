import YamlSchema.Proofs.Glob.Closure
import YamlSchema.Proofs.Glob.Listing

/-!
# What is in a file system

The names below an entry (`Entry.HasBelow`).  Locations stay within the tree that they come from (`Location.IsWithin`),
so the path of a listed file has no characters but those of names in the tree, dots and slashes (`Matches.notMem`).
-/

namespace YamlSchema

/-- Something stands below an entry, under a name. -/
inductive Entry.HasBelow : Entry → String → Entry → Prop
  | here {entries : List (String × Entry)} {name : String} {e : Entry} (h : (name, e) ∈ entries) :
      HasBelow (.directory entries) name e
  | inside {entries : List (String × Entry)} {outer : String × Entry} {name : String} {e : Entry}
      (houter : outer ∈ entries) (h : HasBelow outer.2 name e) : HasBelow (.directory entries) name e

namespace Entry.HasBelow

variable {e inner last : Entry} {name more : String}

theorem trans (h : e.HasBelow name inner) (hinner : inner.HasBelow more last) : e.HasBelow more last := by
  induction h with
  | here h => exact .inside h hinner
  | inside houter _ ih => exact .inside houter (ih hinner)

theorem of_child? (h : e.child? name = some inner) : e.HasBelow name inner := by
  cases e with
  | directory entries =>
    obtain ⟨found, hfound, rfl⟩ := Option.map_eq_some_iff.1 h
    obtain rfl : found.1 = name := by simpa using List.find?_some hfound
    exact .here (List.mem_of_find?_eq_some hfound)
  | _ => cases h

/-- Below a directory of files there are only these. -/
theorem mem_of_files {entries : List (String × Entry)} (hfiles : ∀ e ∈ entries, e.2.isDirectory = false)
    (h : HasBelow (.directory entries) name e) : (name, e) ∈ entries := by
  cases h with
  | here h => exact h
  | @inside _ outer _ _ houter hinner =>
    obtain ⟨key, inner⟩ := outer
    cases inner with
    | directory more => cases hfiles _ houter
    | _ => cases hinner

end Entry.HasBelow

/-! ### Locations -/

/-- An entry and the directories around it are in a tree. -/
def Location.IsWithin (root : Entry) (l : Location) : Prop :=
  ∀ e ∈ l.entry :: l.around, e = root ∨ ∃ name, root.HasBelow name e

namespace Location.IsWithin

variable {root : Entry} {l next : Location} {name : String}

theorem atRoot (root : Entry) : Location.IsWithin root ⟨root, []⟩ := fun _ he =>
  .inl (List.mem_singleton.1 he)

theorem hasBelow {e : Entry} (h : l.IsWithin root) (hbelow : l.entry.HasBelow name e) : root.HasBelow name e := by
  rcases h l.entry List.mem_cons_self with heq | ⟨outer, houter⟩
  · rwa [← heq]
  · exact houter.trans hbelow

theorem inner {e : Entry} (h : l.IsWithin root) (hbelow : l.entry.HasBelow name e) :
    Location.IsWithin root ⟨e, l.entry :: l.around⟩ := by
  intro d hd
  rcases List.mem_cons.1 hd with rfl | hd
  · exact .inr ⟨name, h.hasBelow hbelow⟩
  · exact h d hd

/-- A step stays within the tree, and goes by a name of the tree if it goes inwards. -/
theorem step (h : l.IsWithin root) (hstep : l.step name = .ok next) : next.IsWithin root ∧
    (name = "" ∨ name = "." ∨ name = ".." ∨ ∃ e, root.HasBelow name e) := by
  rw [Location.step] at hstep
  split at hstep
  · cases hstep
  · split at hstep
    · rename_i hcurrent
      cases hstep
      exact ⟨h, hcurrent.elim .inl fun heq => .inr (.inl heq)⟩
    · split at hstep
      · rename_i houter
        refine ⟨?_, .inr (.inr (.inl houter))⟩
        split at hstep
        · cases hstep
          exact h
        · rename_i outer rest haround
          cases hstep
          intro e he
          exact h e (by rw [haround]; exact List.mem_cons_of_mem _ he)
      · split at hstep
        · cases hstep
        · split at hstep
          · rename_i e hchild
            cases hstep
            have hbelow := Entry.HasBelow.of_child? hchild
            exact ⟨h.inner hbelow, .inr (.inr (.inr ⟨e, h.hasBelow hbelow⟩))⟩
          · cases hstep

theorem follow {names : List String} (h : l.IsWithin root) (hfollow : l.follow names = .ok next) :
    next.IsWithin root := by
  induction names generalizing l with
  | nil =>
    cases hfollow
    exact h
  | cons name names ih =>
    rw [Location.follow, List.foldlM_cons] at hfollow
    cases hstep : l.step name with
    | error fault =>
      rw [hstep] at hfollow
      cases hfollow
    | ok middle =>
      rw [hstep] at hfollow
      exact ih (h.step hstep).1 hfollow

end Location.IsWithin

variable {fs : FileSystem}

/-- A text that can be read is that of a file in the tree. -/
theorem FileSystem.exists_of_read {path text : String} (h : fs.read path = .ok text) : ∃ bytes,
    String.fromUTF8? bytes = some text ∧ (.file bytes = fs.root ∨ ∃ name, fs.root.HasBelow name (.file bytes)) := by
  rw [read] at h
  split at h
  · cases h
  rename_i l hl
  have hwithin : l.IsWithin fs.root := by
    rw [find] at hl
    split at hl
    · cases hl
    · split at hl
      · cases hl
      · split at hl <;> exact (Location.IsWithin.atRoot fs.root).follow hl
  have hentry := hwithin l.entry List.mem_cons_self
  split at h
  · cases h
  · cases h
  · rename_i bytes hbytes
    rw [hbytes] at hentry
    split at h
    · rename_i hutf8
      cases h
      exact ⟨bytes, hutf8, hentry⟩
    · cases h

/-! ### Listed paths -/

/-- No name in a tree has a character. -/
def Entry.NamesLack (c : Char) (root : Entry) : Prop := ∀ name e, root.HasBelow name e → c ∉ name.toList

namespace Glob

variable {c : Char}

theorem notMem_pathWithin (hslash : c ≠ '/') {path name : String} (hpath : c ∉ path.toList) (hname : c ∉ name.toList) :
    c ∉ (pathWithin path name).toList := by
  rw [pathWithin, Path.join]
  split
  · exact hname
  · split <;> simp [hpath, hname, hslash]

theorem isClosed_lacks (hslash : c ≠ '/') (hdot : c ≠ '.') (hnames : fs.root.NamesLack c) :
    IsClosed fun g => c ∉ g.path.toList ∧ g.location.IsWithin fs.root where
  step h _ _ hstep := by
    obtain ⟨hwithin, hname⟩ := h.2.step hstep
    refine ⟨notMem_pathWithin hslash h.1 ?_, hwithin⟩
    rcases hname with rfl | rfl | rfl | ⟨e, he⟩
    · simp
    · simp [hdot]
    · simp [hdot]
    · exact hnames _ e he
  dots := by
    intro f name l h hname hstep
    have hnotMem : c ∉ name.toList := by
      rcases hname with rfl | rfl <;> simp [hdot]
    refine ⟨?_, (h.2.step hstep).1⟩
    rw [Path.join]
    split <;> simp [h.1, hnotMem, hslash]
  inner := by
    intro f entries entry h hentries hentry
    have hbelow : f.location.entry.HasBelow entry.1 entry.2 := by
      rw [hentries]
      exact .here hentry
    exact ⟨notMem_pathWithin hslash h.1 (hnames _ _ (h.2.hasBelow hbelow)), h.2.inner hbelow⟩

end Glob

/-- A path that a pattern lists is written with characters of names in the tree, slashes and dots. -/
theorem Matches.notMem {c : Char} (hslash : c ≠ '/') (hdot : c ≠ '.') (hnames : fs.root.NamesLack c)
    {pattern path : String} (h : Matches fs pattern path) : c ∉ path.toList := by
  obtain ⟨found, hfound, g, hg, rfl, -⟩ := h.exists_found
  refine ((Glob.isClosed_lacks hslash hdot hnames).of_mem_expand (fun isAbsolute f hf => ?_) hfound g hg).1
  rcases Glob.start_cases hf with ⟨-, rfl⟩ | ⟨-, l, hfollow, rfl⟩
  · exact ⟨by simp [hslash], .atRoot _⟩
  · exact ⟨by simp [hdot], (Location.IsWithin.atRoot fs.root).follow hfollow⟩

theorem notMem_of_mem_globFiles {c : Char} (hslash : c ≠ '/') (hdot : c ≠ '.') (hnames : fs.root.NamesLack c)
    {patterns files : List String} (h : globFiles fs patterns = .ok files) : ∀ path ∈ files, c ∉ path.toList := by
  intro path hpath
  obtain ⟨pattern, -, hmatches⟩ := exists_of_mem_globFiles h hpath
  exact hmatches.notMem hslash hdot hnames

end YamlSchema
