import YamlSchema.Proofs.Directive.Extraction

/-!
# Directives and lines

What is written of a directive has no line break, so a break is in no directive and ends the word in front of it.  The
directives of two texts with a break between them are therefore those of the one and then those of the other
(`extractDirectives_append_break`), and a text of lines has the directives of its lines, whatever else the lines are
(`extractDirectives_lines`).
-/

namespace YamlSchema

namespace Directive

theorem break_notMem_written {d : Directive} (hkey : IsWord d.key) (hvalue : IsWord d.value) : '\n' ∉ d.written := by
  simp [written, hkey.notMem (c := '\n') (by decide), hvalue.notMem (c := '\n') (by decide)]

/-- A text goes on with the same directive whether it ends or a break follows. -/
theorem begins_append_break {cs rest : List Char} {d : Directive} : Begins (cs ++ '\n' :: rest) d ↔ Begins cs d := by
  constructor
  · rintro ⟨hkey, hvalue, behind, heq, hend⟩
    rcases List.append_eq_append_iff.1 heq with ⟨more, hwritten, hmore⟩ | ⟨more, rfl, rfl⟩
    · cases more with
      | nil => exact ⟨hkey, hvalue, [], by rw [hwritten, List.append_nil, List.append_nil], fun _ hc => nomatch hc⟩
      | cons c more =>
        -- the break would be a character of the directive
        rw [List.cons_append, List.cons.injEq] at hmore
        rw [← hmore.1] at hwritten
        exact absurd (hwritten ▸ List.mem_append_right _ List.mem_cons_self) (break_notMem_written hkey hvalue)
    · -- the directive ends before the break
      refine ⟨hkey, hvalue, more, rfl, fun c hc => hend c ?_⟩
      cases more with
      | nil => cases hc
      | cons => exact hc
  · rintro ⟨hkey, hvalue, behind, rfl, hend⟩
    refine ⟨hkey, hvalue, behind ++ '\n' :: rest, List.append_assoc .., fun c hc => ?_⟩
    cases behind with
    | nil =>
      cases hc
      decide
    | cons => exact hend c hc

/-- Nothing is found where all is skipped. -/
theorem scan_of_length_le {skip : Nat} {cs : List Char} (h : cs.length ≤ skip) : scan skip cs = [] := by
  induction cs generalizing skip with
  | nil => rfl
  | cons c cs ih =>
    obtain ⟨skip, rfl⟩ := Nat.exists_eq_add_one.2 (Nat.lt_of_lt_of_le (Nat.succ_pos _) h)
    exact ih (Nat.le_of_succ_le_succ h)

theorem atHead?_append_break (cs rest : List Char) : atHead? (cs ++ '\n' :: rest) = atHead? cs :=
  Option.ext fun ⟨d, n⟩ => by rw [atHead?_eq_some_iff, atHead?_eq_some_iff, begins_append_break]

/-- The positions at which directives begin, in a text of two parts. -/
theorem standing_append_break (i : Nat) (cs rest : List Char) :
    standing i (cs ++ '\n' :: rest) = standing i cs ++ standing (i + cs.length + 1) rest := by
  induction cs generalizing i with
  | nil => rfl
  | cons c cs ih =>
    have hhead := atHead?_append_break (c :: cs) rest
    rw [List.cons_append] at hhead
    rw [List.cons_append, standing, standing, hhead, ih, List.append_assoc, List.length_cons,
      show i + 1 + cs.length = i + (cs.length + 1) by omega]

end Directive

theorem extractDirectives_eq_standing (text : String) (i : Nat) :
    extractDirectives text = (Directive.standing i text.toList).map Prod.snd :=
  Directive.scan_eq_map_standing (fun j hj => absurd hj (Nat.not_lt_zero j)) i

/-- No directive goes across a line break, and none is lost at it. -/
theorem extractDirectives_append_break (a b : String) :
    extractDirectives (a ++ "\n" ++ b) = extractDirectives a ++ extractDirectives b := by
  have htext : (a ++ "\n" ++ b).toList = a.toList ++ '\n' :: b.toList := by
    rw [String.append_assoc, String.toList_append, String.toList_append]
    rfl
  -- directives do not overlap, so the scan finds those of all positions and carries nothing across the break
  rw [extractDirectives_eq_standing _ 0, extractDirectives_eq_standing a 0, extractDirectives_eq_standing b, htext,
    Directive.standing_append_break, List.map_append]

theorem directiveValues_append (ds more : List Directive) (key : String) :
    directiveValues (ds ++ more) key = directiveValues ds key ++ directiveValues more key := by
  rw [directiveValues, List.filter_append, List.map_append]
  rfl

theorem directiveValues_eq_nil {ds : List Directive} {key : String} (h : ∀ d ∈ ds, d.key ≠ key) :
    directiveValues ds key = [] := by
  have hnone : ds.filter (fun d => d.key = key) = [] := List.filter_eq_nil_iff.2 fun d hd => by simpa using h d hd
  rw [directiveValues, hnone, List.map_nil]

namespace Directive

/-- A line of a text: a directive as it is written, or anything else. -/
inductive Line where
  | directive (d : Directive) (hkey : IsWord d.key) (hvalue : IsWord d.value)
  | other (text : String)

namespace Line

def text : Line → String
  | directive d _ _ => "## " ++ d.key ++ ": " ++ d.value
  | other text => text

/-- The text of some lines; a break at its end is an empty last line. -/
def join (lines : List Line) : String := String.intercalate "\n" (lines.map text)

/-- The directives of a line by itself. -/
def directives : Line → List Directive
  | directive d _ _ => [d]
  | other text => extractDirectives text

/-- The directive that a line is. -/
def directive? : Line → Option Directive
  | directive d _ _ => some d
  | other _ => none

theorem extractDirectives_text (l : Line) : extractDirectives l.text = l.directives := by
  cases l with
  | other text => rfl
  | directive d hkey hvalue =>
    have htext : (text (directive d hkey hvalue)).toList = d.written := by
      simp [text, written, String.toList_append]
    have hbegins : Begins d.written d := ⟨hkey, hvalue, [], (List.append_nil _).symm, by simp⟩
    have hhead : atHead? d.written = some (d, d.written.length) := atHead?_eq_some_iff.2 ⟨hbegins, rfl⟩
    rw [extractDirectives, htext, directives]
    rw [written] at hhead ⊢
    rw [scan, hhead]
    exact congrArg (d :: ·) (scan_of_length_le (Nat.le_refl _))

theorem join_cons_cons (l next : Line) (rest : List Line) :
    join (l :: next :: rest) = l.text ++ "\n" ++ join (next :: rest) := by
  rw [join, List.map_cons, List.map_cons, String.intercalate_cons_cons]
  rfl

/-- A text of lines has the directives of its lines. -/
theorem extractDirectives_join (lines : List Line) : extractDirectives (join lines) = lines.flatMap directives := by
  induction lines with
  | nil => rfl
  | cons l rest ih =>
    cases rest with
    | nil => rw [join, List.map_singleton, String.intercalate_singleton, extractDirectives_text, List.flatMap_singleton]
    | cons next rest =>
      rw [join_cons_cons, extractDirectives_append_break, extractDirectives_text, ih, List.flatMap_cons (x := l)]

theorem directiveValues_flatMap (lines : List Line) (key : String) :
    directiveValues (lines.flatMap directives) key = lines.flatMap fun l => directiveValues l.directives key := by
  induction lines with
  | nil => rfl
  | cons l rest ih => rw [List.flatMap_cons, List.flatMap_cons, directiveValues_append, ih]

/-- Lines that are no directives themselves add no value of a key that they do not mention. -/
theorem flatMap_values {lines : List Line} {key : String}
    (h : ∀ text, other text ∈ lines → ∀ d ∈ extractDirectives text, d.key ≠ key) :
    (lines.flatMap fun l => directiveValues l.directives key) = directiveValues (lines.filterMap directive?) key := by
  induction lines with
  | nil => rfl
  | cons l rest ih =>
    have ih := ih fun text hmem => h text (List.mem_cons_of_mem _ hmem)
    rw [List.flatMap_cons, ih]
    cases l with
    | directive d _ _ =>
      rw [List.filterMap_cons_some (f := directive?) rfl, ← List.singleton_append, directiveValues_append]
      rfl
    | other text =>
      rw [List.filterMap_cons_none rfl, directives, directiveValues_eq_nil (h text List.mem_cons_self), List.nil_append]

end Line

end Directive

open Directive (Line)

/-- A line break between two texts is between their directives.  The directives of a text of lines are those that are
lines of it, in their order, with those of the other lines between them; so are the values of a key, and they are those of
the directives that are lines if no other line has a directive with that key. -/
theorem extractDirectives_lines :
    (∀ a b : String, extractDirectives (a ++ "\n" ++ b) = extractDirectives a ++ extractDirectives b) ∧
    ∀ lines : List Line, extractDirectives (Line.join lines) = lines.flatMap Line.directives ∧ ∀ key,
      directiveValues (extractDirectives (Line.join lines)) key =
        (lines.flatMap fun l => directiveValues l.directives key) ∧
      ((∀ text, .other text ∈ lines → ∀ d ∈ extractDirectives text, d.key ≠ key) →
        directiveValues (extractDirectives (Line.join lines)) key =
          directiveValues (lines.filterMap Line.directive?) key) := by
  refine ⟨extractDirectives_append_break, fun lines => ?_⟩
  have hvalues (key : String) : directiveValues (extractDirectives (Line.join lines)) key =
      lines.flatMap fun l => directiveValues l.directives key := by
    rw [Line.extractDirectives_join, Line.directiveValues_flatMap]
  exact ⟨Line.extractDirectives_join lines, fun key => ⟨hvalues key, fun hother => by
    rw [hvalues, Line.flatMap_values hother]⟩⟩

theorem isWord_of_all {text : String} (hne : text.toList ≠ []) (h : text.toList.all Directive.isWordChar = true) :
    IsWord text := ⟨hne, List.all_eq_true.1 h⟩

/-- Lines that break off within a directive, and one that has a directive behind other text. -/
def oddLines : List Line :=
  [.other "## id: ", .directive ⟨"id", "a-1"⟩ (isWord_of_all (by decide) rfl) (isWord_of_all (by decide) rfl),
    .other "x: 1 ### schema: b ##",
    .directive ⟨"id", "_"⟩ (isWord_of_all (by decide) rfl) (isWord_of_all (by decide) rfl), .other " key: c", .other ""]

/-- None of the unfinished lines adds an identifier or takes one away. -/
theorem extractDirectives_lines_oddLines :
    (∀ text, .other text ∈ oddLines → ∀ d ∈ extractDirectives text, d.key ≠ "id") ∧
    Line.join oddLines = "## id: \n## id: a-1\nx: 1 ### schema: b ##\n## id: _\n key: c\n" ∧
    extractDirectives (Line.join oddLines) = [⟨"id", "a-1"⟩, ⟨"schema", "b"⟩, ⟨"id", "_"⟩] ∧
    directiveValues (extractDirectives (Line.join oddLines)) "id" = ["a-1", "_"] := by
  have hother : ∀ text, .other text ∈ oddLines → ∀ d ∈ extractDirectives text, d.key ≠ "id" := by
    intro text hmem
    simp only [oddLines, List.mem_cons, Line.other.injEq, List.not_mem_nil, reduceCtorEq, or_false, false_or] at hmem
    rcases hmem with rfl | rfl | rfl | rfl <;> decide
  refine ⟨hother, by decide, ?_, ?_⟩
  · rw [(extractDirectives_lines.2 oddLines).1]
    decide
  · rw [((extractDirectives_lines.2 oddLines).2 "id").2 hother]
    decide

end YamlSchema
