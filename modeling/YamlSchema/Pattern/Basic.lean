import YamlSchema.Pattern.Search

/-!
# Patterns

The regular expressions of the keywords `pattern` and `patternProperties`.  `Pattern.read?` reads one and refuses what
is none; a string has a pattern if the pattern is found somewhere in it.
-/

namespace YamlSchema

/-- How a pattern is looked for. -/
inductive Matcher where
  | automaton (a : Automaton)
  | search (p : Search)
  deriving Repr

/-- A pattern as it is written, with what finds it. -/
structure Pattern where
  text : String
  matcher : Matcher
  deriving Repr

namespace Pattern

def read? (text : String) : Option Pattern := do
  let (e, used) ← Expression.read? (← Plain.spelledOut? text)
  if e.isHard used then return ⟨text, .search (← e.search? used)⟩ else return ⟨text, .automaton (← e.automaton?)⟩

/-- Whether a text holds a pattern; `none` if the search for it gives up. -/
def isIn? (p : Pattern) (text : String) : Option Bool :=
  let cs := text.toList.toArray
  match p.matcher with
  | .automaton a => some (a.isIn cs)
  | .search s => match s.search cs with
    | .found _ _ => some true
    | .failed _ => some false
    | .gaveUp => none

/-- Whether a pattern is found in a text. -/
def isIn (p : Pattern) (text : String) : Bool := p.isIn? text = some true

end Pattern

end YamlSchema
