import YamlSchema.Proofs.Glob.Listing
import YamlSchema.Proofs.Traversal

/-!
# Where patterns lead

A pattern goes on from what is found to what a name leads to, to the entries `.` and `..`, and to what is in a directory.
What holds where a pattern starts and is kept by these steps holds of everything that the pattern matches
(`IsClosed.of_mem_expand`).
-/

namespace YamlSchema.Glob

variable {f g : Found}

/-! ### What is in a directory, and below it -/

theorem blocks_eq_map (path : String) (around : List Entry) (entries : List (String × Entry)) :
    blocks path around entries = entries.map fun e => (e.1, ⟨e.1, pathWithin path e.1, ⟨e.2, around⟩⟩ ::
      descendants (pathWithin path e.1) around e.2) := by
  induction entries with
  | nil => rfl
  | cons e rest ih => rw [blocks, ih, List.map_cons]

/-- Something in a directory. -/
def Found.inner (f : Found) (entry : String × Entry) : Found :=
  ⟨entry.1, pathWithin f.path entry.1, ⟨entry.2, f.location.entry :: f.location.around⟩⟩

/-- What is below something. -/
def Found.below (f : Found) : List Found := descendants f.path f.location.around f.location.entry

theorem mem_below_iff {entries : List (String × Entry)} (h : f.location.entry = .directory entries) :
    g ∈ f.below ↔ ∃ entry ∈ entries, g = f.inner entry ∨ g ∈ (f.inner entry).below := by
  simp only [Found.below, Found.inner, h, descendants, blocks_eq_map, List.mem_flatMap, List.mem_mergeSort,
    List.mem_map]
  constructor
  · rintro ⟨block, ⟨entry, hentry, rfl⟩, hg⟩
    exact ⟨entry, hentry, List.mem_cons.1 hg⟩
  · rintro ⟨entry, hentry, hg⟩
    exact ⟨_, ⟨entry, hentry, rfl⟩, List.mem_cons.2 hg⟩

theorem sizeOf_inner_lt {entries : List (String × Entry)} {entry : String × Entry} (h : entry ∈ entries) :
    sizeOf entry.2 < sizeOf (Entry.directory entries) := by
  have hlt := List.sizeOf_lt_of_mem h
  have hentry : sizeOf entry = 1 + sizeOf entry.1 + sizeOf entry.2 := rfl
  rw [Entry.directory.sizeOf_spec]
  omega

theorem below_of_not_isDirectory (h : f.location.entry.isDirectory = false) : f.below = [] := by
  rw [Found.below]
  cases hentry : f.location.entry with
  | directory entries =>
    rw [hentry] at h
    cases h
  | _ => rfl

theorem mem_children_iff : g ∈ children f ↔
    ∃ entries, f.location.entry = .directory entries ∧ ∃ entry ∈ entries, g = f.inner entry := by
  rw [children, List.mem_map]
  cases h : f.location.entry with
  | directory entries =>
    constructor
    · rintro ⟨entry, hentry, rfl⟩
      exact ⟨entries, rfl, entry, List.mem_mergeSort.1 hentry, by rw [Found.inner, h]⟩
    · rintro ⟨entries', hentries, entry, hentry, rfl⟩
      cases hentries
      exact ⟨entry, List.mem_mergeSort.2 hentry, by rw [Found.inner, h]⟩
  | _ => simp [Entry.children]

theorem exists_of_mem_dotEntries {tokens : List Token} (h : g ∈ dotEntries tokens f) : ∃ name l,
    (name = "." ∨ name = "..") ∧ Token.fit tokens name.toList = true ∧ f.location.step name = .ok l ∧
      g = ⟨name, Path.join f.path name, l⟩ := by
  rw [dotEntries] at h
  split at h
  · obtain ⟨name, hname, hg⟩ := List.mem_filterMap.1 h
    split at hg
    · rename_i hfit
      obtain ⟨l, hl, rfl⟩ := Option.map_eq_some_iff.1 hg
      cases hstep : f.location.step name with
      | error fault =>
        rw [hstep] at hl
        cases hl
      | ok next =>
        rw [hstep] at hl
        cases hl
        exact ⟨name, l, by simpa [or_comm] using hname, hfit, hstep, rfl⟩
    · cases hg
  · cases h

theorem exists_of_step? {name : String} (h : step? f name = some g) : ∃ l, pathWithin f.path name ≠ "" ∧
    f.location.step name = .ok l ∧ g = ⟨name, pathWithin f.path name, l⟩ := by
  rw [step?] at h
  split at h
  · cases h
  · rename_i hne
    split at h
    · rename_i l hl
      cases h
      exact ⟨l, hne, hl, rfl⟩
    · cases h

/-! ### Components of a pattern -/

/-- No literal component of a pattern holds a slash. -/
def AreLevel (segments : List Segment) : Prop := ∀ name, .literal name ∈ segments → '/' ∉ name.toList

theorem head_of_atHead {position length : Nat} {before : Option Char} {cs : List Char} {c : Char}
    (h : Token.atHead position before cs = .ok (.exactly c, length)) : cs.head? = some c := by
  unfold Token.atHead at h
  split at h
  · cases h
  · rename_i rest
    unfold Token.range? at h
    split at h
    · rename_i token n hrange
      split at hrange <;>
        · obtain ⟨inner, -, heq⟩ := Option.map_eq_some_iff.1 hrange
          cases heq
          cases h
    · cases h
  · split at h
    · cases h
    · split at h
      · cases h
      · split at h <;> cases h
    · cases h
  · cases h
    rfl
  · cases h

/-- Characters that a pattern has for themselves are among its own. -/
theorem exactly_mem_of_scan {skip position : Nat} {before : Option Char} {cs : List Char} {tokens : List Token}
    (h : Token.scan skip position before cs = .ok tokens) : ∀ c, .exactly c ∈ tokens → c ∈ cs := by
  induction cs generalizing skip position before tokens with
  | nil =>
    cases h
    exact fun _ hc => nomatch hc
  | cons first rest ih =>
    cases skip with
    | succ skip => exact fun c hc => List.mem_cons_of_mem _ (ih h c hc)
    | zero =>
      rw [Token.scan, bind_eq_ok_iff] at h
      obtain ⟨⟨token, length⟩, hhead, h⟩ := h
      simp only [bind_eq_ok_iff, pure_eq_ok_iff] at h
      obtain ⟨others, hscan, rfl⟩ := h
      intro c hc
      rcases List.mem_cons.1 hc with rfl | hc
      · have hfirst := head_of_atHead hhead
        rw [List.head?_cons, Option.some.injEq] at hfirst
        exact hfirst ▸ List.mem_cons_self
      · exact List.mem_cons_of_mem _ (ih hscan c hc)

theorem slash_notMem_of_mem_splitChars {cs piece : List Char} (h : piece ∈ splitChars '/' cs) : '/' ∉ piece := by
  induction cs generalizing piece with
  | nil =>
    rw [splitChars, List.mem_singleton] at h
    rw [h]
    exact List.not_mem_nil
  | cons c cs ih =>
    rw [splitChars] at h
    split at h
    · rcases List.mem_cons.1 h with rfl | h
      · exact List.not_mem_nil
      · exact ih h
    · rename_i hc
      split at h
      · rename_i hpieces
        exact absurd hpieces (splitChars_ne_nil _ _)
      · rename_i first others hpieces
        rcases List.mem_cons.1 h with rfl | h
        · have hfirst : '/' ∉ first := ih (by rw [hpieces]; exact List.mem_cons_self)
          simp [hfirst, Ne.symm hc]
        · exact ih (by rw [hpieces]; exact List.mem_cons_of_mem _ h)

theorem mem_of_mem_splitChars {separator c : Char} {cs piece : List Char} (h : piece ∈ splitChars separator cs)
    (hc : c ∈ piece) : c ∈ cs := by
  induction cs generalizing piece with
  | nil =>
    rw [splitChars, List.mem_singleton] at h
    rwa [h] at hc
  | cons first cs ih =>
    rw [splitChars] at h
    split at h
    · rcases List.mem_cons.1 h with rfl | h
      · cases hc
      · exact List.mem_cons_of_mem _ (ih h hc)
    · split at h
      · rename_i hpieces
        exact absurd hpieces (splitChars_ne_nil _ _)
      · rename_i head others hpieces
        rcases List.mem_cons.1 h with rfl | h
        · rcases List.mem_cons.1 hc with rfl | hc
          · exact List.mem_cons_self
          · exact List.mem_cons_of_mem _ (ih (by rw [hpieces]; exact List.mem_cons_self) hc)
        · exact List.mem_cons_of_mem _ (ih (by rw [hpieces]; exact List.mem_cons_of_mem _ h) hc)

theorem areLevel_of_segments {cs : List Char} {found : List Segment} (h : segments cs = .ok found) : AreLevel found := by
  intro name hname hslash
  obtain ⟨piece, hpiece, heq⟩ := exists_of_mem_mapM_eq_ok h hname
  have hlevel : '/' ∉ piece := by
    split at hpiece
    · exact slash_notMem_of_mem_splitChars (List.dropLast_subset _ hpiece)
    · exact slash_notMem_of_mem_splitChars hpiece
  cases htokens : Token.ofChars piece with
  | error fault =>
    rw [htokens] at heq
    cases heq
  | ok tokens =>
    rw [htokens, Except.map, Except.ok.injEq] at heq
    exact hlevel (exactly_mem_of_scan htokens _ (Segment.exactly_mem_of_ofTokens heq _ hslash))

theorem ne_nil_of_segments {cs : List Char} {found : List Segment} (h : segments cs = .ok found) : found ≠ [] := by
  rw [segments] at h
  generalize hpieces : (if 1 < (splitChars '/' cs).length ∧ (splitChars '/' cs).getLast? = some [] then
    (splitChars '/' cs).dropLast else splitChars '/' cs) = pieces at h
  cases pieces with
  | nil =>
    split at hpieces
    · rename_i hlong
      have hlength := congrArg List.length hpieces
      rw [List.length_dropLast, List.length_nil] at hlength
      omega
    · exact absurd hpieces (splitChars_ne_nil _ _)
  | cons piece pieces =>
    rintro rfl
    cases mapM_eq_ok_iff.1 h

theorem AreLevel.tail {segment : Segment} {rest : List Segment} (h : AreLevel (segment :: rest)) : AreLevel rest :=
  fun name hname => h name (List.mem_cons_of_mem _ hname)

/-! ### What all that is found has in common -/

/-- A property goes on with the steps of a pattern. -/
structure IsClosed (P : Found → Prop) : Prop where
  step {f : Found} {name : String} {l : Location} (h : P f) (hname : '/' ∉ name.toList)
    (hne : pathWithin f.path name ≠ "") (hstep : f.location.step name = .ok l) : P ⟨name, pathWithin f.path name, l⟩
  dots {f : Found} {name : String} {l : Location} (h : P f) (hname : name = "." ∨ name = "..")
    (hstep : f.location.step name = .ok l) : P ⟨name, Path.join f.path name, l⟩
  inner {f : Found} {entries : List (String × Entry)} {entry : String × Entry} (h : P f)
    (hentries : f.location.entry = .directory entries) (hentry : entry ∈ entries) : P (f.inner entry)

namespace IsClosed

variable {P : Found → Prop}

theorem of_mem_below (hP : IsClosed P) {f : Found} (h : P f) : ∀ g ∈ f.below, P g := by
  intro g hg
  cases hentries : f.location.entry with
  | directory entries =>
    obtain ⟨entry, hentry, hg⟩ := (mem_below_iff hentries).1 hg
    rcases hg with rfl | hg
    · exact hP.inner h hentries hentry
    · exact of_mem_below hP (hP.inner h hentries hentry) g hg
  | _ =>
    rw [below_of_not_isDirectory (by rw [hentries]; rfl)] at hg
    cases hg
termination_by sizeOf f.location.entry
decreasing_by
  rw [hentries]
  exact sizeOf_inner_lt hentry

theorem of_mem_visit (hP : IsClosed P) (segments : List Segment) (f : Found) (hsegments : AreLevel segments) (h : P f) :
    ∀ g ∈ visit segments f, P g := by
  fun_induction visit segments f with
  | case1 f => simpa using h
  | case2 name rest f g hstep ih =>
    obtain ⟨l, hne, hl, rfl⟩ := exists_of_step? hstep
    exact ih hsegments.tail (hP.step h (hsegments name List.mem_cons_self) hne hl)
  | case3 => exact fun _ hg => nomatch hg
  | case4 tokens rest f ih =>
    intro g hg
    rcases List.mem_append.1 hg with hg | hg
    · obtain ⟨between, hbetween, hg⟩ := List.mem_flatMap.1 hg
      obtain ⟨name, l, hname, -, hl, rfl⟩ := exists_of_mem_dotEntries hbetween
      exact ih _ hsegments.tail (hP.dots h hname hl) g hg
    · obtain ⟨between, hbetween, hg⟩ := List.mem_flatMap.1 hg
      obtain ⟨entries, hentries, entry, hentry, rfl⟩ := mem_children_iff.1 hbetween
      split at hg
      · exact ih _ hsegments.tail (hP.inner h hentries hentry) g hg
      · cases hg
  | case5 f => exact fun g hg => hP.of_mem_below h g (List.mem_filter.1 hg).1
  | case6 rest f ih => exact ih hsegments.tail h
  | case7 segment rest f _ ih =>
    intro g hg
    obtain ⟨between, hbetween, hg⟩ := List.mem_flatMap.1 hg
    split at hg
    · exact ih between hsegments.tail.tail (hP.of_mem_below h between hbetween) g hg
    · cases hg

end IsClosed

/-- A pattern starts at the root, or in the directory of the run. -/
theorem start_cases {fs : FileSystem} {isAbsolute : Bool} {f : Found} (h : start fs isAbsolute = some f) :
    isAbsolute = true ∧ f = ⟨"", "/", ⟨fs.root, []⟩⟩ ∨
      isAbsolute = false ∧ ∃ l, Location.follow ⟨fs.root, []⟩ fs.directory = .ok l ∧ f = ⟨"", ".", l⟩ := by
  cases isAbsolute with
  | true => exact .inl ⟨rfl, (Option.some.inj h).symm⟩
  | false =>
    obtain ⟨l, hl, hf⟩ := Option.map_eq_some_iff.1 h
    cases hfollow : Location.follow ⟨fs.root, []⟩ fs.directory with
    | error fault =>
      rw [hfollow] at hl
      cases hl
    | ok next =>
      rw [hfollow] at hl
      cases hl
      exact .inr ⟨rfl, l, rfl, hf.symm⟩

/-- What a pattern matches is visited from where it starts. -/
theorem exists_visit_of_mem_expand {fs : FileSystem} {pattern : String} {found : List Found}
    (h : expand fs pattern = .ok found) (hg : g ∈ found) : ∃ isAbsolute f segments, start fs isAbsolute = some f ∧
      segments ≠ [] ∧ AreLevel segments ∧ g ∈ visit segments f := by
  simp only [expand, bind_eq_ok_iff, pure_eq_ok_iff] at h
  obtain ⟨-, -, parts, hparts, rfl⟩ := h
  cases hstart : start fs (decide (pattern.toList.head? = some '/')) with
  | none =>
    rw [hstart] at hg
    split at hg <;> cases hg
  | some f =>
    rw [hstart] at hg
    have hvisited : g ∈ visit parts f := by
      split at hg
      · exact (List.mem_filter.1 hg).1
      · exact hg
    exact ⟨_, f, parts, hstart, ne_nil_of_segments hparts, areLevel_of_segments hparts, hvisited⟩

/-- What holds where patterns start, and is kept by their steps, holds of what a pattern matches. -/
theorem IsClosed.of_mem_expand {fs : FileSystem} {P : Found → Prop} (hP : IsClosed P)
    (hstart : ∀ isAbsolute f, start fs isAbsolute = some f → P f) {pattern : String} {found : List Found}
    (h : expand fs pattern = .ok found) : ∀ g ∈ found, P g := by
  intro g hg
  obtain ⟨isAbsolute, f, parts, hf, -, hparts, hg⟩ := exists_visit_of_mem_expand h hg
  exact hP.of_mem_visit parts f hparts (hstart isAbsolute f hf) g hg

end YamlSchema.Glob
