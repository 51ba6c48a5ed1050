import Mathlib.Data.List.Basic
import YamlSchema.Proofs.Glob.Spelling

/-!
# Patterns do not look into files

The outline of a file system is what is left of it if no file in it may be read.  Which files a pattern matches, and in
which order, is a matter of the outline alone (`globFiles_outline`).
-/

namespace YamlSchema

/-! ### Outlines -/

namespace Entry

mutual

/-- An entry without what is in the files. -/
def outline : Entry → Entry
  | .file _ | .locked => .locked
  | .directory entries => .directory (outlines entries)

def outlines : List (String × Entry) → List (String × Entry)
  | [] => []
  | (name, e) :: rest => (name, outline e) :: outlines rest

end

theorem outlines_eq_map (entries : List (String × Entry)) :
    outlines entries = entries.map fun e => (e.1, e.2.outline) := by
  induction entries with
  | nil => rfl
  | cons e rest ih => rw [outlines, ih, List.map_cons]

@[simp] theorem isDirectory_outline (e : Entry) : e.outline.isDirectory = e.isDirectory := by
  cases e <;> rfl

theorem child?_outline (e : Entry) (name : String) : e.outline.child? name = (e.child? name).map outline := by
  cases e with
  | directory entries =>
    rw [outline, child?, child?, outlines_eq_map, List.find?_map, Option.map_map, Option.map_map]
    rfl
  | _ => rfl

/-- Sorting by names does not look at what has them. -/
theorem mergeSort_map_names {α β : Type} (g : α → β) (entries : List (String × α)) :
    (entries.map fun e => (e.1, g e.2)).mergeSort (fun a b => !decide (b.1 < a.1)) =
      (entries.mergeSort fun a b => !decide (b.1 < a.1)).map fun e => (e.1, g e.2) := by
  rw [List.map_mergeSort]
  exact fun _ _ _ _ => rfl

theorem children_outline (e : Entry) : e.outline.children = e.children.map fun e => (e.1, e.2.outline) := by
  cases e with
  | directory entries =>
    rw [outline, children, children, outlines_eq_map]
    exact mergeSort_map_names outline entries
  | _ => rfl

end Entry

namespace Location

/-- A place without what is in the files there. -/
def outline (l : Location) : Location := ⟨l.entry.outline, l.around.map Entry.outline⟩

theorem step_outline (l : Location) (name : String) : l.outline.step name = (l.step name).map outline := by
  obtain ⟨e, around⟩ := l
  simp only [step, outline, Entry.isDirectory_outline, Entry.child?_outline]
  split
  · rfl
  · split
    · rfl
    · split
      · cases around <;> rfl
      · split
        · rfl
        · cases e.child? name <;> rfl

theorem follow_outline (l : Location) (names : List String) :
    l.outline.follow names = (l.follow names).map outline := by
  induction names generalizing l with
  | nil => rfl
  | cons name names ih =>
    rw [follow, follow, List.foldlM_cons, List.foldlM_cons, step_outline]
    cases l.step name with
    | error fault => rfl
    | ok next => exact ih next

end Location

/-- The files and directories, without what is in the files. -/
def FileSystem.outline (fs : FileSystem) : FileSystem := { fs with root := fs.root.outline }

/-! ### Patterns -/

namespace Glob

def Found.outline (f : Found) : Found := { f with location := f.location.outline }

theorem isDirectory_comp_outline : Found.isDirectory ∘ Found.outline = Found.isDirectory :=
  funext fun f => Entry.isDirectory_outline f.location.entry

theorem step?_outline (f : Found) (name : String) : step? f.outline name = (step? f name).map Found.outline := by
  simp only [step?, Found.outline, Location.step_outline]
  split
  · rfl
  · cases f.location.step name <;> rfl

theorem dotEntries_outline (tokens : List Token) (f : Found) :
    dotEntries tokens f.outline = (dotEntries tokens f).map Found.outline := by
  have hdirectory : f.outline.isDirectory = f.isDirectory := Entry.isDirectory_outline f.location.entry
  rw [dotEntries, dotEntries, hdirectory]
  split
  · rw [List.map_filterMap]
    congr 1
    funext name
    simp only [Found.outline, Location.step_outline]
    split
    · cases f.location.step name <;> rfl
    · rfl
  · rfl

theorem children_outline (f : Found) : children f.outline = (children f).map Found.outline := by
  rw [children, children, Found.outline, Location.outline, Entry.children_outline, List.map_map, List.map_map]
  rfl

mutual

theorem descendants_outline (path : String) (around : List Entry) :
    ∀ e : Entry, descendants path (around.map Entry.outline) e.outline =
      (descendants path around e).map Found.outline
  | .file _ | .locked => rfl
  | .directory entries => by
    have hblocks := blocks_outline path (.directory entries :: around) entries
    rw [List.map_cons, Entry.outline] at hblocks
    rw [Entry.outline, descendants, descendants, hblocks, Entry.mergeSort_map_names, List.flatMap_map, List.map_flatMap]

theorem blocks_outline (path : String) (around : List Entry) :
    ∀ entries : List (String × Entry), blocks path (around.map Entry.outline) (Entry.outlines entries) =
      (blocks path around entries).map fun b => (b.1, b.2.map Found.outline)
  | [] => rfl
  | (name, e) :: rest => by
    rw [Entry.outlines, blocks, blocks, blocks_outline path around rest, descendants_outline]
    rfl

end

theorem visit_outline (segments : List Segment) (f : Found) :
    visit segments f.outline = (visit segments f).map Found.outline := by
  fun_induction visit segments f with
  | case1 f => rfl
  | case2 name rest f g hstep ih =>
    rw [visit, step?_outline, hstep]
    exact ih
  | case3 name rest f hstep =>
    rw [visit, step?_outline, hstep]
    rfl
  | case4 tokens rest f ih =>
    rw [visit, dotEntries_outline, children_outline, List.map_append, List.flatMap_map, List.flatMap_map,
      List.map_flatMap, List.map_flatMap]
    congr 1
    · exact List.flatMap_congr fun g _ => ih g
    · refine List.flatMap_congr fun g _ => ?_
      change (if Token.fit tokens g.name.toList then visit rest g.outline else []) = _
      split
      · exact ih g
      · rfl
  | case5 f =>
    have hdescendants := descendants_outline f.path f.location.around f.location.entry
    rw [visit]
    change (descendants f.path (f.location.around.map Entry.outline) f.location.entry.outline).filter _ = _
    rw [hdescendants, List.filter_map, isDirectory_comp_outline]
  | case6 rest f ih => rwa [visit]
  | case7 segment rest f hne ih =>
    have hdescendants := descendants_outline f.path f.location.around f.location.entry
    rw [visit.eq_6 _ _ _ hne, List.map_flatMap]
    change (descendants f.path (f.location.around.map Entry.outline) f.location.entry.outline).flatMap _ = _
    rw [hdescendants, List.flatMap_map]
    refine List.flatMap_congr fun g _ => ?_
    change (if segment.fits g.name then visit rest g.outline else []) = _
    split
    · exact ih g
    · rfl

theorem expand_outline (fs : FileSystem) (pattern : String) :
    expand fs.outline pattern = (expand fs pattern).map fun found => found.map Found.outline := by
  have hstart (isAbsolute : Bool) : start fs.outline isAbsolute = (start fs isAbsolute).map Found.outline := by
    cases isAbsolute with
    | true => rfl
    | false =>
      have hfollow := Location.follow_outline ⟨fs.root, []⟩ fs.directory
      change (Location.follow (Location.outline ⟨fs.root, []⟩) fs.directory).toOption.map _ = _
      rw [hfollow, start]
      cases Location.follow ⟨fs.root, []⟩ fs.directory <;> rfl
  simp only [expand, bind, Except.bind, hstart]
  split
  · rfl
  · split
    · rfl
    · cases start fs _ with
      | none =>
        dsimp only [Option.map]
        split <;> rfl
      | some f =>
        dsimp only [Option.map]
        rw [visit_outline]
        split
        · rw [List.filter_map, isDirectory_comp_outline]
          rfl
        · rfl

end Glob

theorem matchedFiles_outline (fs : FileSystem) (pattern : String) :
    matchedFiles fs.outline pattern = matchedFiles fs pattern := by
  rw [matchedFiles, matchedFiles, Glob.expand_outline]
  cases Glob.expand fs (filePattern pattern) with
  | error fault => rfl
  | ok found =>
    have hfiles : (fun f : Glob.Found => !f.isDirectory) ∘ Glob.Found.outline = fun f => !f.isDirectory :=
      funext fun f => congrArg Bool.not (Entry.isDirectory_outline f.location.entry)
    dsimp only [Except.map]
    rw [List.filter_map, hfiles, List.map_map]
    rfl

/-- Which files some patterns select does not depend on what is in the files. -/
theorem globFiles_outline (fs : FileSystem) (patterns : List String) :
    globFiles fs.outline patterns = globFiles fs patterns := by
  simp only [globFiles, matchedFiles_outline]

end YamlSchema
