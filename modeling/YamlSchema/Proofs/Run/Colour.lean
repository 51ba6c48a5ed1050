import YamlSchema.CommandLine
import YamlSchema.Proofs.Registry.Stated
import YamlSchema.Proofs.Run.ExitCode
import YamlSchema.Proofs.Run.Lines
import YamlSchema.Proofs.Schema.Lacking
import YamlSchema.Proofs.Yaml.Lacking

/-!
# Colours of a report

A terminal reads characters to show and codes that select colours (`Report.signs`).  A line whose texts have no escape
character shows the same with and without colours (`Line.signs_render`), and each colour that it opens is closed before
the next one (`Line.codes_render`).  So does all that a run writes, where no file name and no parsed string has an
escape character (`uncoloured_output`).
-/

namespace YamlSchema

open Text

namespace Report

/-! ### Terminals -/

/-- What a terminal reads: a character to show, or a code that selects a colour. -/
inductive Sign where
  | shown (c : Char)
  | code (parameters : List Char)
  deriving DecidableEq, Repr

/-- The characters of a code between `[` and `m`. -/
def isParameter (c : Char) : Bool := c.isDigit || c = ';'

/-- The code whose escape character stands in front of a text, and what is behind it. -/
def code? : List Char → Option (List Char × List Char)
  | '[' :: rest => match rest.dropWhile isParameter with
    | 'm' :: behind => some (rest.takeWhile isParameter, behind)
    | _ => none
  | _ => none

theorem length_lt_of_code? {cs parameters behind : List Char} (h : code? cs = some (parameters, behind)) :
    behind.length < cs.length := by
  rw [code?.eq_def] at h
  split at h
  · rename_i rest
    split at h
    · rename_i behind hbehind
      cases h
      have hle := (List.dropWhile_sublist (l := rest) isParameter).length_le
      rw [hbehind, List.length_cons] at hle
      rw [List.length_cons]
      omega
    · cases h
  · cases h

/-- What a terminal reads in a text. -/
def signs (cs : List Char) : List Sign :=
  match cs with
  | [] => []
  | c :: rest =>
    if c = escape then match _hcode : code? rest with
      | some (parameters, behind) => .code parameters :: signs behind
      | none => .shown c :: signs rest
    else .shown c :: signs rest
termination_by cs.length
decreasing_by
  · exact Nat.lt_succ_of_lt (length_lt_of_code? ‹_›)
  · exact Nat.lt_succ_self _
  · exact Nat.lt_succ_self _

namespace Sign

def char? : Sign → Option Char
  | .shown c => some c
  | .code _ => none

def code? : Sign → Option String
  | .shown _ => none
  | .code parameters => some (String.ofList parameters)

end Sign

/-- A text with every code deleted. -/
def uncoloured (s : String) : String := String.ofList ((signs s.toList).filterMap Sign.char?)

/-- The codes in a text. -/
def codes (s : String) : List String := (signs s.toList).filterMap Sign.code?

theorem signs_append {cs : List Char} (h : escape ∉ cs) (ds : List Char) :
    signs (cs ++ ds) = cs.map .shown ++ signs ds := by
  induction cs with
  | nil => rfl
  | cons c cs ih =>
    rw [List.mem_cons, not_or] at h
    rw [List.cons_append, signs, if_neg (Ne.symm h.1), ih h.2]
    rfl

theorem signs_code {parameters : List Char} (h : parameters.all isParameter = true) (ds : List Char) :
    signs (escape :: '[' :: (parameters ++ 'm' :: ds)) = .code parameters :: signs ds := by
  have hm : isParameter 'm' = false := by decide
  rw [List.all_eq_true] at h
  have hcode : code? ('[' :: (parameters ++ 'm' :: ds)) = some (parameters, ds) := by
    simp only [code?, List.dropWhile_append_of_pos h, List.takeWhile_append_of_pos h, List.dropWhile_cons, hm,
      List.takeWhile_cons, Bool.false_eq_true, if_false, List.append_nil]
  rw [signs, if_pos rfl]
  split
  · rename_i heq
    rw [hcode] at heq
    cases heq
    rfl
  · rename_i heq
    rw [hcode] at heq
    cases heq

/-! ### Lines -/

theorem resume_of_notMem (start : List Char) {cs : List Char} (h : escape ∉ cs) : resume start cs = cs := by
  fun_induction resume start cs with
  | case1 => simp [escape] at h
  | case2 c rest _ ih => rw [ih fun hmem => h (List.mem_cons_of_mem _ hmem)]
  | case3 => rfl

namespace Piece

/-- The colour of a piece, unless there is nothing to colour. -/
def seenColour (p : Piece) : Option Colour := if p.text = "" then none else p.colour

/-- What a terminal reads of a piece. -/
def signs (p : Piece) : List Sign :=
  match p.seenColour with
  | some colour => .code colour.code.toList :: p.text.toList.map .shown ++ [.code ['0']]
  | none => p.text.toList.map .shown

theorem render_true_of_some {p : Piece} {colour : Colour} (h : p.seenColour = some colour) :
    p.render true = [escape, '['] ++ colour.code.toList ++ ['m'] ++
      resume ([escape, '['] ++ colour.code.toList ++ ['m']) p.text.toList ++ reset := by
  rw [seenColour] at h
  split at h
  · cases h
  · rename_i hne
    simp [render, h, hne]

theorem render_true_of_none {p : Piece} (h : p.seenColour = none) : p.render true = p.text.toList := by
  rw [seenColour] at h
  split at h
  · rename_i hempty
    rw [render, hempty]
    split <;> rfl
  · rw [render, h]

theorem render_false (p : Piece) : p.render false = p.text.toList := by
  rw [render]
  split <;> rfl

theorem signs_render {p : Piece} (h : escape ∉ p.text.toList) (ds : List Char) :
    Report.signs (p.render true ++ ds) = p.signs ++ Report.signs ds := by
  rw [signs]
  cases hcolour : p.seenColour with
  | none =>
    rw [render_true_of_none hcolour]
    exact signs_append h ds
  | some colour =>
    have hcode : colour.code.toList.all isParameter = true := by cases colour <;> decide
    have hreset : ['0'].all isParameter = true := by decide
    have hsigns := signs_code hcode (p.text.toList ++ escape :: '[' :: (['0'] ++ 'm' :: ds))
    rw [signs_append h, signs_code hreset] at hsigns
    simpa [render_true_of_some hcolour, resume_of_notMem _ h, reset] using hsigns

theorem filterMap_char?_signs (p : Piece) : p.signs.filterMap Sign.char? = p.render false := by
  have hshown : ∀ cs : List Char, (cs.map Sign.shown).filterMap Sign.char? = cs := fun cs => by
    simp [List.filterMap_map, Function.comp_def, Sign.char?]
  rw [signs, render_false]
  cases p.seenColour with
  | none => exact hshown _
  | some colour =>
    dsimp only
    rw [List.cons_append, List.filterMap_cons_none rfl, List.filterMap_append, hshown]
    exact List.append_nil _

theorem filterMap_code?_signs (p : Piece) :
    p.signs.filterMap Sign.code? = p.seenColour.toList.flatMap fun c => [c.code, "0"] := by
  have hshown : ∀ cs : List Char, (cs.map Sign.shown).filterMap Sign.code? = [] := fun cs => by
    simp [List.filterMap_map, Function.comp_def, Sign.code?]
  rw [signs]
  cases p.seenColour with
  | none => exact hshown _
  | some colour => simp [hshown, Sign.code?]

end Piece

namespace Line

variable {l : Line} (h : ¬ OccursIn escape (texts l))

include h

theorem signs_render (ds : List Char) :
    signs ((render true l).toList ++ ds) = l.flatMap Piece.signs ++ signs ds := by
  rw [render, String.toList_ofList]
  induction l with
  | nil => rfl
  | cons p l ih =>
    rw [texts, List.map_cons, occursIn_cons, not_or] at h
    rw [List.flatMap_cons, List.flatMap_cons, List.append_assoc, Piece.signs_render h.1, ih h.2, List.append_assoc]

/-- A line opens the colours of its pieces, and closes each of them before the next one. -/
theorem codes_render : codes (render true l) = (l.filterMap Piece.seenColour).flatMap fun c => [c.code, "0"] := by
  have hsigns := signs_render h []
  rw [List.append_nil, signs, List.append_nil] at hsigns
  rw [codes, hsigns, List.filterMap_flatMap]
  simp only [Piece.filterMap_code?_signs]
  rw [List.filterMap_eq_flatMap_toList, List.flatMap_assoc]

end Line

end Report

namespace Run

open Report (Line)

variable {fs : FileSystem} {s : Settings}

/-! ### Runs -/

/-- Without the codes, coloured lines are those without colours. -/
theorem uncoloured_output_of_lines {r : Run} (h : ∀ l ∈ r.lines, ¬ OccursIn Report.escape (Line.texts l)) :
    Report.uncoloured (r.output true) = r.output false := by
  have hbreak : Report.escape ∉ ['\n'] := by decide
  rw [Report.uncoloured, ← String.toList_inj, String.toList_ofList, toList_output, toList_output]
  generalize r.lines = lines at h
  induction lines with
  | nil => simp [Report.signs]
  | cons l rest ih =>
    rw [List.forall_mem_cons] at h
    rw [List.flatMap_cons, List.flatMap_cons, List.append_assoc, Line.signs_render h.1, Report.signs_append hbreak,
      List.filterMap_append, List.filterMap_append, ih h.2, List.filterMap_flatMap]
    simp [Report.Piece.filterMap_char?_signs, Line.render, Report.Sign.char?]

section Lacking

variable {c : Char} (hc : c.toNat < 32) (hstrings : ∀ path text, fs.read path = .ok text →
  ¬ OccursIn c (Yaml.FirstDocument.ofText text).strings)

include hc hstrings

/-- The content of a file lacks what its parsed strings lack. -/
theorem lacks_of_load {path : String} {d : Document} (hd : Document.load fs path = .ok d) : d.content.Lacks c := by
  rw [Document.load] at hd
  split at hd
  · cases hd
  rename_i text hread
  have htree := Tree.reads_ofYaml hc (hstrings path text hread)
  rw [Document.parse] at hd
  generalize Tree.ofYaml text = tree at htree hd
  cases tree with
  | error e => cases hd
  | ok content =>
    cases hd
    exact htree

theorem lacks_of_get?_statedBy {paths : List String} {id : String} {t : Tree}
    (h : OrderedMap.get? (statedBy fs [] paths) id = some t) : t.Lacks c := by
  rw [get?_statedBy, OrderedMap.get?_nil, Option.none_or] at h
  obtain ⟨path, -, hstated⟩ := List.exists_of_findSome?_eq_some h
  rw [stated?] at hstated
  split at hstated
  · rename_i d hd
    split at hstated
    · cases hstated
      exact (lacks_of_load hc hstrings hd).inflate hc
    · cases hstated
  · cases hstated

/-- Nothing that a run quotes has a control character that no parsed string has. -/
theorem Quotes.not_occursIn {l : Line} {texts : List String} (h : Quotes fs s l texts) : ¬ OccursIn c texts := by
  cases h with
  | unreadable _ _ hread he =>
    have htree := Tree.reads_ofYaml hc (hstrings _ _ hread)
    rwa [he] at htree
  | @error schemas _ _ id _ r _ h _ hd _ _ hr he =>
    obtain ⟨n, hload⟩ := h.loads
    obtain ⟨hcanonical, hcompile⟩ := Registry.get?_load Registry.Mirrors.empty hload id
    rw [hr, Option.map_some] at hcanonical
    have hviolations := Schema.Validator.lacks_of_mem_violations hc (hcompile r rfl hr)
      (lacks_of_get?_statedBy hc hstrings hcanonical.symm) (fun _ _ => lacks_of_get?_statedBy hc hstrings)
      (lacks_of_load hc hstrings hd)
    exact (hviolations _ he).not_occursIn_verbatim

end Lacking

/-- Where no file name and no parsed string has an escape character, the coloured output of a run is the one without
colours but for codes, each entry closes every colour that it opens before the next one, and what is answered does not
depend on colours. -/
theorem uncoloured_output (hnames : fs.root.NamesLack Report.escape) (hstrings : ∀ path text, fs.read path = .ok text →
      ¬ OccursIn Report.escape (Yaml.FirstDocument.ofText text).strings) :
    (∀ s : Settings, Report.uncoloured ((ofSettings fs s).output true) = (ofSettings fs s).output false ∧
      ∀ l ∈ (ofSettings fs s).lines, Report.codes (Line.render true l) =
        (l.filterMap Report.Piece.seenColour).flatMap fun c => [c.code, "0"]) ∧
    ∀ r : Request, Report.uncoloured (Command.runRequest fs true r).output = (Command.runRequest fs false r).output ∧
      (Command.runRequest fs true r).exitCode = (Command.runRequest fs false r).exitCode ∧
      (Command.runRequest fs true r).complaint = (Command.runRequest fs false r).complaint := by
  have hescape : Report.escape.toNat < 32 := by decide
  have hlines : ∀ s : Settings, ∀ l ∈ (ofSettings fs s).lines, ¬ OccursIn Report.escape (Line.texts l) := by
    intro s l hl hmem
    obtain ⟨texts, hquotes, hmem⟩ := exists_quotes_of_mem_lines hescape hnames hl hmem
    exact hquotes.not_occursIn hescape hstrings hmem
  have houtput : ∀ s : Settings, Report.uncoloured ((ofSettings fs s).output true) = (ofSettings fs s).output false :=
    fun s => uncoloured_output_of_lines (hlines s)
  have hempty : Report.uncoloured "" = "" := by simp [Report.uncoloured, Report.signs]
  refine ⟨fun s => ⟨houtput s, fun l hl => Line.codes_render (hlines s l hl)⟩, fun r => ?_⟩
  simp only [Command.runRequest]
  cases Settings.resolve fs r.config r.overrides with
  | error e => exact ⟨hempty, rfl, rfl⟩
  | ok s =>
    dsimp only
    cases (ofSettings fs s).result <;> exact ⟨houtput s, rfl, rfl⟩

private theorem mem_brokenFiles {name : String} {e : YamlSchema.Entry} (h : brokenFiles.root.HasBelow name e) :
    (name, e) ∈ [("a.yml", YamlSchema.Entry.file "## id: a\nname: string\n".toUTF8),
      ("t.yml", YamlSchema.Entry.file "## schema: a\nname: true\n".toUTF8)] :=
  h.mem_of_files (by simp [YamlSchema.Entry.isDirectory])

private theorem strings_brokenFiles {path text : String} (h : brokenFiles.read path = .ok text) :
    ¬ OccursIn Report.escape (Yaml.FirstDocument.ofText text).strings := by
  have hschema : String.fromUTF8? "## id: a\nname: string\n".toUTF8 = some "## id: a\nname: string\n" ∧
      (Yaml.FirstDocument.ofText "## id: a\nname: string\n").strings = ["name", "string"] := by
    decide +kernel
  have htarget : String.fromUTF8? "## schema: a\nname: true\n".toUTF8 = some "## schema: a\nname: true\n" ∧
      (Yaml.FirstDocument.ofText "## schema: a\nname: true\n").strings = ["name", "true"] := by
    decide +kernel
  obtain ⟨bytes, hutf8, hroot | ⟨name, hbelow⟩⟩ := FileSystem.exists_of_read h
  · cases hroot
  · have hmem := mem_brokenFiles hbelow
    simp only [List.mem_cons, Prod.mk.injEq, YamlSchema.Entry.file.injEq, List.not_mem_nil, or_false] at hmem
    rcases hmem with ⟨-, rfl⟩ | ⟨-, rfl⟩
    · obtain rfl := Option.some.inj (hschema.1.symm.trans hutf8)
      rw [hschema.2]
      decide
    · obtain rfl := Option.some.inj (htarget.1.symm.trans hutf8)
      rw [htarget.2]
      decide

private theorem finishes_brokenFiles : Finishes brokenFiles namedFiles ["a.yml"] ["t.yml"] where
  schemaFiles_eq := selected_brokenFiles.1
  loads := loads_brokenFiles
  goesOn := rfl
  targets_eq := selected_brokenFiles.2

/-- The report on a target that breaks a schema; its last line is yellow. -/
theorem uncoloured_output_brokenFiles : brokenFiles.root.NamesLack Report.escape ∧
    (∀ path text, brokenFiles.read path = .ok text →
      ¬ OccursIn Report.escape (Yaml.FirstDocument.ofText text).strings) ∧
    Report.uncoloured ((ofSettings brokenFiles namedFiles).output true) =
      (ofSettings brokenFiles namedFiles).output false ∧
    Report.done ∈ (ofSettings brokenFiles namedFiles).lines ∧
    Report.codes (Line.render true Report.done) = ["33", "0"] := by
  have hnames : brokenFiles.root.NamesLack Report.escape := by
    intro name e h
    have hname : name ∈ ["a.yml", "t.yml"] := List.mem_map_of_mem (mem_brokenFiles h) (f := Prod.fst)
    exact (by decide : ∀ name ∈ ["a.yml", "t.yml"], Report.escape ∉ name.toList) name hname
  have hstrings : ∀ path text, brokenFiles.read path = .ok text →
      ¬ OccursIn Report.escape (Yaml.FirstDocument.ofText text).strings := fun _ _ => strings_brokenFiles
  have hdone : Report.done ∈ (ofSettings brokenFiles namedFiles).lines := by
    rw [finishes_brokenFiles.lines_eq]
    simp
  obtain ⟨houtput, hcodes⟩ := (uncoloured_output hnames hstrings).1 namedFiles
  exact ⟨hnames, hstrings, houtput, hdone, (hcodes _ hdone).trans (by decide)⟩

end Run

end YamlSchema
