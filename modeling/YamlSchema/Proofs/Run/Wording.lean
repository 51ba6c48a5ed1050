import YamlSchema.Proofs.Run.Transcript
import YamlSchema.Proofs.Schema.Wording

/-!
# What lines hold as they are

A line of a report says a few fixed words around texts that come from elsewhere (`Entry.verbatim`, `Failure.verbatim`),
so a control character is in the line just if it is in one of these (`Entry.occursIn_line_iff`).  Colours add none but
their escapes (`Line.mem_render_iff`).
-/

namespace YamlSchema

open Text

variable {c : Char}

/-! ### Lines -/

namespace Report

/-- The texts of a line, without colours. -/
def Line.texts (l : Line) : List String := l.map Piece.text

theorem mem_resume_iff {start : List Char} (hstart : c ∉ start) (hreset : c ∉ reset) (cs : List Char) :
    c ∈ resume start cs ↔ c ∈ cs := by
  fun_induction resume start cs with
  | case1 rest ih => simp_all [reset, escape]
  | case2 d rest _ ih => simp [ih]
  | case3 => rfl

theorem isClean_code (colour : Colour) : isClean colour.code.toList = true := by
  cases colour <;> exact isClean_literal rfl

theorem Piece.mem_render_iff (hc : c.toNat < 32) (hescape : c ≠ escape) (coloured : Bool) (p : Piece) :
    c ∈ p.render coloured ↔ c ∈ p.text.toList := by
  have hopen (colour : Colour) : c ∉ [escape, '['] ++ colour.code.toList ++ ['m'] := by
    have hbracket : c ∉ ['['] := notMem_of_isClean hc (by decide)
    have hend : c ∉ ['m'] := notMem_of_isClean hc (by decide)
    simpa [hescape, notMem_of_isClean hc (isClean_code colour)] using
      ⟨List.ne_of_not_mem_cons hbracket, List.ne_of_not_mem_cons hend⟩
  have hreset : c ∉ reset := by
    have hrest : c ∉ ['[', '0', 'm'] := notMem_of_isClean hc (by decide)
    exact fun hmem => (List.mem_cons.1 hmem).elim hescape hrest
  rw [render]
  split
  · rename_i colour _
    split
    · simp only [List.mem_append, hopen, hreset, mem_resume_iff (hopen colour) hreset, false_or, or_false]
    · rfl
  · rfl

/-- Colours add no other control characters to a line. -/
theorem Line.mem_render_iff (hc : c.toNat < 32) (hescape : c ≠ escape) (coloured : Bool) (l : Line) :
    c ∈ (Line.render coloured l).toList ↔ OccursIn c (Line.texts l) := by
  simp [Line.render, Line.texts, OccursIn, Piece.mem_render_iff hc hescape]

theorem mem_padded_iff (hc : c.toNat < 32) (width : Nat) (text : String) :
    c ∈ (padded width text).toList ↔ c ∈ text.toList := by
  have hspaces : c ∉ List.replicate (width - text.length) ' ' := notMem_of_isClean hc (isClean_replicate _ (by decide))
  rw [padded, String.toList_ofList, List.mem_append, or_iff_left hspaces]

end Report

/-! ### Failures -/

/-- The texts that the message of a failure holds as they are. -/
def Failure.verbatim : Failure → List String
  | .unreadable path reason | .malformed path reason => [path, reason]
  | .idCardinality path _ | .noSchemaDeclared path => [path]
  | .duplicateId schemaId path firstPath => [path, schemaId, firstPath]
  | .unknownSchema path schemaId => [path, schemaId]
  | .notCompiled schemaId path reason => [schemaId, path, reason]

theorem Failure.mem_message_iff (hc : c.toNat < 32) (f : Failure) : c ∈ f.message.toList ↔ OccursIn c f.verbatim := by
  fun_cases message f
  all_goals
    simp (disch := rw [String.toList_ofList]; decide) only [verbatim, toString, String.toList_append, List.mem_append,
      mem_toList_iff_false hc, Directive.idKey, or_false, false_or, occursIn_cons, not_occursIn_nil, or_assoc]

theorem ReadFault.isClean_text (f : ReadFault) : isClean f.text.toList = true := by
  cases f <;> exact isClean_literal rfl

/-! ### Entries -/

namespace Run

open Report

/-- The texts that the line for an entry holds as they are. -/
def Entry.verbatim : Entry → List String
  | .loaded id file | .passed id file | .failed id file | .unknown id file | .heading id file => [id, file]
  | .skipped file message | .unreadable file message => [file, message]
  | .undeclared file => [file]
  | .error e => [e.display]
  | .summary .. => []

theorem occursIn_status_iff (hc : c.toNat < 32) (colour : Colour) {label : String} (hlabel : isClean label.toList = true)
    (text : String) : OccursIn c (Line.texts (status colour label text)) ↔ c ∈ text.toList := by
  simp [Line.texts, status, mem_padded_iff hc, notMem_of_isClean hc hlabel]

theorem not_occursIn_summary (hc : c.toNat < 32) (passed failed errors unreadable : Nat) :
    ¬ OccursIn c (Line.texts (Report.summary passed failed errors unreadable)) := by
  have hmore : c ∈ (if 0 < unreadable then ", " ++ unreadable.repr ++ " unreadable" else "").toList ↔ False := by
    split <;>
      simp (disch := rw [String.toList_ofList]; decide) only [String.toList_append, List.mem_append,
        mem_toList_iff_false hc (isClean_repr unreadable), mem_toList_iff_false hc, or_false]
  rw [Report.summary]
  split <;>
    simp (disch := rw [String.toList_ofList]; decide) only [Line.texts, painted, List.map_cons, List.map_nil, tick,
      cross, hmore, toString, String.toList_append, List.mem_append, mem_toList_iff_false hc (isClean_repr passed),
      mem_toList_iff_false hc (isClean_repr failed), mem_toList_iff_false hc (isClean_repr errors),
      mem_toList_iff_false hc, occursIn_cons, not_occursIn_nil, or_false, not_false_eq_true]

/-- A control character is in a line just if it is in a text that the line holds as it is. -/
theorem Entry.occursIn_line_iff (hc : c.toNat < 32) (e : Entry) :
    OccursIn c (Line.texts e.line) ↔ OccursIn c e.verbatim := by
  cases e with
  | heading id file =>
    simp (disch := rw [String.toList_ofList]; decide) only [line, verbatim, failureHeading, Line.texts, List.map_cons,
      List.map_nil, cross, mem_padded_iff hc, toString, String.toList_append, List.mem_append, mem_toList_iff_false hc,
      or_false, false_or, occursIn_cons, not_occursIn_nil]
  | error e =>
    simp (disch := rw [String.toList_ofList]; decide) only [line, verbatim, failureError, Line.texts, List.map_cons,
      List.map_nil, mem_toList_iff_false hc, or_false, false_or, occursIn_cons, not_occursIn_nil]
  | summary p f e u => exact iff_of_false (not_occursIn_summary hc p f e u) not_occursIn_nil
  | _ =>
    simp (disch := rw [String.toList_ofList]; decide) only [line, verbatim, schemaLoaded, schemaSkipped, targetPassed,
      targetFailed, unknownSchema, noSchemas, targetUnreadable, occursIn_status_iff hc, toString, String.toList_append,
      List.mem_append, mem_toList_iff_false hc, or_false, false_or, occursIn_cons, not_occursIn_nil]

/-- The lines around the entries have no control characters. -/
theorem not_occursIn_of_mem_frame (hc : c.toNat < 32) {schemas targets : Nat} {l : Line}
    (h : l ∈ frame schemas targets) : ¬ OccursIn c (Line.texts l) := by
  simp only [frame, List.mem_cons, List.not_mem_nil, or_false] at h
  rcases h with rfl | rfl | rfl | rfl | rfl
  all_goals
    simp (disch := rw [String.toList_ofList]; decide) only [Line.texts, banner, version, Report.blank, plain, found,
      painted, done, tick, List.cons_append, List.nil_append, List.map_cons, List.map_nil, toString, String.toList_append,
      List.mem_append, mem_toList_iff_false hc (isClean_repr schemas), mem_toList_iff_false hc (isClean_repr targets),
      mem_toList_iff_false hc, or_false, occursIn_cons, not_occursIn_nil, not_false_eq_true]

end Run

end YamlSchema
