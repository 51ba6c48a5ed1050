import YamlSchema.Pattern.Size

/-!
# Automata

An `Automaton` is an expression without look-around and references, as it is run on a text.  From every place it leads to
others in the order of preference, and it never matters how it came to one, so no place is left twice.
-/

namespace YamlSchema

inductive Automaton where
  | empty
  | set (s : Text.Unicode.Ranges)
  | place (p : Place)
  | seq (p q : Automaton)
  | alt (p q : Automaton)
  | times (low : Nat) (high : Option Nat) (greedy : Bool) (p : Automaton)
  deriving Repr

/-- Whether the character at a place belongs to a word. -/
private def isWordAt (text : Array Char) (pos : Nat) : Bool := (text[pos]?).any CharClass.word.hasChar

/-- Whether a place in a text is of a kind. -/
def Place.isAt (p : Place) (text : Array Char) (pos : Nat) : Bool :=
  let before := 0 < pos && isWordAt text (pos - 1)
  let after := isWordAt text pos
  match p with
  | .textStart => pos = 0
  | .textEnd => pos = text.size
  | .lineStart => pos = 0 || text[pos - 1]? = some '\n'
  | .lineEnd => pos = text.size || text[pos]? = some '\n'
  | .wordStart => !before && after
  | .wordEnd => before && !after
  | .wordEdge => before != after
  | .noWordEdge => before == after

namespace Automaton

/-! ### Running -/

/-- The places that were left, with the number of repetitions that were possible there, and those found, the last one
first. -/
private structure Found where
  left : List (Option Nat × Nat)
  places : List Nat

private def Found.add (f : Found) (pos : Nat) : Found :=
  if pos ∈ f.places then f else { f with places := pos :: f.places }

/-- Goes on from a place with at most `more` repetitions of a step; each one leads further in the text, so there are
less than `fuel` of them in a row. -/
private def explore (step : Nat → List Nat) (greedy : Bool) : Nat → Option Nat → Nat → Found → Found
  | 0, _, pos, f => f.add pos
  | fuel + 1, more, pos, f =>
    if (more, pos) ∈ f.left then f
    else
      let f := { f with left := (more, pos) :: f.left }
      let further := fun (f : Found) =>
        if more = some 0 then f
        else (step pos).foldl (fun f next =>
          if next = pos then f.add next else explore step greedy fuel (more.map (· - 1)) next f) f
      if greedy then (further f).add pos else further (f.add pos)

/-- The places after exactly `n` repetitions of a step, unless they stay the same before that. -/
private def repeatExactly (step : Nat → List Nat) : Nat → List Nat → List Nat
  | 0, places => places
  | n + 1, places =>
    let next := (places.flatMap step).eraseDups
    if next = places then places else repeatExactly step n next

/-- The places to which an automaton leads from some places, the preferred ones first. -/
def ends (text : Array Char) : Automaton → List Nat → List Nat
  | .empty, places => places
  | .set r, places => places.filterMap fun pos => if (text[pos]?).any r.hasChar then some (pos + 1) else none
  | .place p, places => places.filter fun pos => p.isAt text pos
  | .seq p q, places => q.ends text (p.ends text places)
  | .alt p q, places => (places.flatMap fun pos => p.ends text [pos] ++ q.ends text [pos]).eraseDups
  | .times low high greedy p, places =>
    let step := fun (pos : Nat) => p.ends text [pos]
    let found := (repeatExactly step low places).foldl
      (fun f pos => explore step greedy (text.size + 1) (high.map (· - low)) pos f) ⟨[], []⟩
    found.places.reverse

/-- Whether an automaton leads anywhere from some place of a text. -/
def isIn (a : Automaton) (text : Array Char) : Bool := !(a.ends text (List.range (text.size + 1))).isEmpty

end Automaton

namespace Expression

/-! ### Expressions as automata -/

mutual

/-- An expression that is not hard, in all its ways. -/
private def easy : Expression → Automaton
  | .set s => .set s
  | .place p => .place p
  | .sequence parts => easyAll parts
  | .choice branches => easyAny branches
  | .group _ e => e.easy
  | .repeated low high greedy e => .times low high greedy e.easy
  | _ => .empty

private def easyAll : List Expression → Automaton
  | [] => .empty
  | [e] => e.easy
  | e :: rest => .seq e.easy (easyAll rest)

private def easyAny : List Expression → Automaton
  | [] => .empty
  | [e] => e.easy
  | e :: rest => .alt e.easy (easyAny rest)

end

mutual

/-- Whether every repetition has bounds in their order, of 32 bits. -/
private def isBounded : Expression → Bool
  | .sequence parts => areBounded parts
  | .choice branches => areBounded branches
  | .group _ e => e.isBounded
  | .repeated low high _ e => low < 4294967296 && (high.all fun h => low ≤ h && h < 4294967296) && e.isBounded
  | _ => true

private def areBounded : List Expression → Bool
  | [] => true
  | e :: rest => e.isBounded && areBounded rest

end

/-- The automaton of an expression without look-around and references, if it is not too large. -/
def automaton? (e : Expression) : Option Automaton :=
  if e.isBounded && e.size ≤ sizeLimit then some e.easy else none

end Expression

end YamlSchema
