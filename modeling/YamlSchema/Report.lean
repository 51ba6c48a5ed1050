import YamlSchema.Schema.Violation

/-!
# Lines of a report

A report is a list of lines, and a line is a list of coloured pieces; `Line.render` writes one with or without colour.
A status takes the first eight columns of its line.
-/

namespace YamlSchema.Report

inductive Colour where
  | green
  | yellow
  | red
  | grey
  deriving DecidableEq, Repr

/-- The code that selects a colour on a terminal. -/
def Colour.code : Colour → String
  | .green => "32"
  | .yellow => "33"
  | .red => "31"
  | .grey => "90"

structure Piece where
  colour : Option Colour
  text : String
  deriving DecidableEq, Repr

abbrev Line := List Piece

def escape : Char := '\x1b'

/-- What ends a colour. -/
def reset : List Char := [escape, '[', '0', 'm']

/-- A text in which a colour is taken up again behind everything that ends one. -/
def resume (open_ : List Char) : List Char → List Char
  | '\x1b' :: '[' :: '0' :: 'm' :: rest => reset ++ open_ ++ resume open_ rest
  | c :: rest => c :: resume open_ rest
  | [] => []

/-- A piece on a terminal; nothing needs no colour. -/
def Piece.render (coloured : Bool) (p : Piece) : List Char :=
  match p.colour with
  | some c =>
    if coloured ∧ p.text ≠ "" then
      let start := [escape, '['] ++ c.code.toList ++ ['m']
      start ++ resume start p.text.toList ++ reset
    else p.text.toList
  | none => p.text.toList

def Line.render (coloured : Bool) (l : Line) : String := String.ofList (l.flatMap (Piece.render coloured))

/-! ### Shapes of lines -/

def plain (text : String) : Line := [⟨none, text⟩]

def painted (colour : Colour) (text : String) : Line := [⟨some colour, text⟩]

def blank : Line := []

/-- The width of the status column. -/
def statusWidth : Nat := 8

def padded (width : Nat) (text : String) : String :=
  String.ofList (text.toList ++ List.replicate (width - text.length) ' ')

/-- A status and what it is about, in one colour. -/
def status (colour : Colour) (label text : String) : Line :=
  [⟨some colour, padded statusWidth label⟩, ⟨some colour, text⟩]

def tick : String := "✔"

def cross : String := "✖"

/-! ### The lines -/

/-- The version that the program tells. -/
def version : String := "0.1.0"

def banner (version : String) : Line := plain s!"scheyaml v{version}"

def found (count : Nat) (kind : String) : Line := painted .yellow s!"Found {count} {kind}!"

def schemaLoaded (id file : String) : Line := status .green "OK" s!"Loaded '{id}' from '{file}'"

def schemaSkipped (file message : String) : Line :=
  status .yellow "WARN" s!"Directive error in '{file}': {message}"

def schemaFailed (file : String) : Line := status .red "FAIL" s!"Failed loading schema from '{file}'"

def targetPassed (id file : String) : Line := status .green "OK" s!"Schema '{id}' validated by '{file}'"

def targetFailed (id file : String) : Line := status .red "FAIL" s!"Schema '{id}' failed by '{file}'"

def noSchemas (file : String) : Line := status .grey "---" s!"No schemas declared by '{file}'"

def unknownSchema (id file : String) : Line :=
  status .yellow "WARN" s!"Unknown schema '{id}' declared in '{file}'"

def targetUnreadable (file message : String) : Line :=
  status .red "FAIL" s!"Failed loading '{file}': {message}"

/-- What stands above the errors of a target by one schema. -/
def failureHeading (id file : String) : Line :=
  [⟨some .red, padded 2 cross⟩, ⟨some .grey, s!"Schema '{id}' for '{file}':"⟩]

def failureError (e : Schema.ErrorReport) : Line := [⟨none, "    "⟩, ⟨some .red, e.display⟩]

/-- The last count; targets that cannot be read are counted apart. -/
def summary (passed failed errors unreadable : Nat) : Line :=
  let counts := s!"{passed} passed, {failed} failed ({errors} errors)" ++
    (if 0 < unreadable then s!", {unreadable} unreadable" else "")
  if failed = 0 ∧ unreadable = 0 then painted .green s!"== {tick} {counts} =="
  else painted .red s!"== {cross} {counts} =="

def done : Line := painted .yellow s!"{tick} Done!"

end YamlSchema.Report
