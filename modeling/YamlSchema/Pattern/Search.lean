import YamlSchema.Pattern.Automaton

/-!
# Searching with trials

A `Search` is an expression with look-around, references or conditions.  It is tried on a text in one way after the
other, and every way that fails counts: after `Search.trialLimit` of them the search gives up.  `Expression.search?`
decides which parts are left to an automaton, so that only what it finds first is tried: those are the parts that an
automaton can do, where they are of one size or stand at the end of something that is not taken back.
-/

namespace YamlSchema

inductive Search where
  /-- What an automaton finds first. -/
  | first (a : Automaton)
  | seq (p q : Search)
  | alt (p q : Search)
  /-- If it is `advancing`, what is repeated more often than it has to be moves on each time. -/
  | times (low : Nat) (high : Option Nat) (greedy advancing : Bool) (p : Search)
  | group (index : Nat) (p : Search)
  | atomic (p : Search)
  | ahead (p : Search)
  /-- What matches from some characters before. -/
  | behind (size : Nat) (p : Search)
  | unless (p : Search)
  | back (index : Nat)
  | entered (index : Nat)
  | choose (test yes no : Search)
  deriving Repr

namespace Search

/-- What is always found and takes up nothing. -/
def nothing : Search := .first .empty

/-- What a group matched: where it was entered last, and where it was left last. -/
structure Captured where
  index : Nat
  start : Nat
  stop : Option Nat
  deriving DecidableEq, Repr

/-- A place in a text, and what the groups matched on the way to it. -/
structure At where
  pos : Nat
  groups : List Captured
  deriving DecidableEq, Repr

namespace At

private def captured? (s : At) (index : Nat) : Option Captured := s.groups.find? fun g => g.index = index

private def enter (s : At) (index : Nat) : At :=
  let stop := (s.captured? index).bind Captured.stop
  { s with groups := ⟨index, s.pos, stop⟩ :: s.groups.filter fun g => g.index ≠ index }

private def leave (s : At) (index : Nat) : At :=
  { s with groups := s.groups.map fun g => if g.index = index then { g with stop := some s.pos } else g }

private def moved (s : At) (pos : Nat) : At := { s with pos := pos }

end At

/-- How a search ends, and after how many failures. -/
inductive Outcome where
  | found (s : At) (failures : Nat)
  | failed (failures : Nat)
  | gaveUp
  deriving Repr

/-- The most failures after which a search goes on. -/
def trialLimit : Nat := 1000000

/-- Another way after a failure. -/
def Outcome.orElse (o : Outcome) (other : Nat → Outcome) : Outcome :=
  match o with
  | .failed n => if trialLimit ≤ n then .gaveUp else other (n + 1)
  | _ => o

/-- What is done behind something that was found. -/
abbrev Next := At → Nat → Outcome

/-- Repeats a step that was taken `count` times, the last time that it need not have been taken from the place `last`. -/
private def repeated (step : At → Nat → Next → Outcome) (low : Nat) (high : Option Nat) (greedy advancing : Bool)
    (next : Next) : Nat → Nat → Option Nat → Next
  | 0, _, _, _, n => .failed n
  | fuel + 1, count, last, s, n =>
    if high = some count then next s n
    else if advancing && low < count && last = some s.pos then .failed n
    else
      let again := fun (n : Nat) => step s n fun t n =>
        repeated step low high greedy advancing next fuel (count + 1) (if low ≤ count then some s.pos else last) t n
      if count < low then again n
      else if greedy then (again n).orElse (next s)
      else (next s n).orElse again

/-- Tries a search from a place, after some failures, and goes on with what is behind it. -/
def run (text : Array Char) : Search → At → Nat → Next → Outcome
  | .first a, s, n, next => match a.ends text [s.pos] with
    | pos :: _ => next (s.moved pos) n
    | [] => .failed n
  | .seq p q, s, n, next => p.run text s n fun t n => q.run text t n next
  | .alt p q, s, n, next => (p.run text s n next).orElse fun n => q.run text s n next
  | .times low high greedy advancing p, s, n, next =>
    repeated (p.run text) low high greedy advancing next ((high.getD (low + text.size + 1)) + 2) 0 none s n
  | .group index p, s, n, next => p.run text (s.enter index) n fun t n => next (t.leave index) n
  | .atomic p, s, n, next => match p.run text s n .found with
    | .found t n => next t n
    | o => o
  | .ahead p, s, n, next => p.run text s n fun t n => next (t.moved s.pos) n
  | .behind size p, s, n, next =>
    if s.pos < size then .failed n else p.run text (s.moved (s.pos - size)) n fun t n => next (t.moved s.pos) n
  | .unless p, s, n, next => match p.run text s n .found with
    | .found _ n => .failed n
    | o => o.orElse (next s)
  | .back index, s, n, next =>
    match (s.captured? index).bind fun g => g.stop.map fun stop => (g.start, stop) with
    | some (start, stop) =>
      let size := stop - start
      if start ≤ stop && s.pos + size ≤ text.size &&
          text.extract start stop = text.extract s.pos (s.pos + size) then
        next (s.moved (s.pos + size)) n
      else .failed n
    | none => .failed n
  | .entered index, s, n, next => if index = 0 || (s.captured? index).isSome then next s n else .failed n
  | .choose test yes no, s, n, next => match test.run text s n .found with
    | .found t n => yes.run text t n next
    | o => o.orElse fun n => no.run text s n next

/-- Tries a search from a place on and then from those behind it, of which there are less than `fuel`. -/
private def searchFrom (p : Search) (text : Array Char) : Nat → Nat → Nat → Outcome
  | 0, _, n => .failed n
  | fuel + 1, pos, n => (p.run text ⟨pos, []⟩ n .found).orElse (p.searchFrom text fuel (pos + 1))

/-- Searches a text. -/
def search (p : Search) (text : Array Char) : Outcome := p.searchFrom text (text.size + 1) 0 0

end Search

namespace Expression

/-! ### What is known of an expression before it is tried -/

mutual

/-- The least number of characters that an expression takes up. -/
def minSize : Expression → Nat
  | .set _ => 1
  | .sequence parts => minSizeOfAll parts
  | .choice branches => minSizeOfAny branches
  | .group _ e | .atomic e => e.minSize
  | .repeated low _ _ e => e.minSize * low
  | .conditional test yes no => test.minSize + min yes.minSize no.minSize
  | _ => 0

def minSizeOfAll : List Expression → Nat
  | [] => 0
  | e :: rest => e.minSize + minSizeOfAll rest

def minSizeOfAny : List Expression → Nat
  | [] => 0
  | [e] => e.minSize
  | e :: rest => min e.minSize (minSizeOfAny rest)

end

mutual

/-- Whether an expression always takes up the same number of characters. -/
def isFixedSize : Expression → Bool
  | .sequence parts => areFixedSize parts
  | .choice branches => areSameSize branches
  | .group _ e | .atomic e => e.isFixedSize
  | .repeated low high _ e => e.isFixedSize && high = some low
  | .back _ => false
  | .conditional test yes no =>
    test.isFixedSize && yes.isFixedSize && no.isFixedSize && test.minSize + yes.minSize = no.minSize
  | _ => true

def areFixedSize : List Expression → Bool
  | [] => true
  | e :: rest => e.isFixedSize && areFixedSize rest

def areSameSize : List Expression → Bool
  | [] => true
  | [e] => e.isFixedSize
  | e :: rest => e.isFixedSize && e.minSize = minSizeOfAny rest && areSameSize rest

end

mutual

/-- Whether an expression is more than an automaton can do, given the groups that are referred to. -/
def isHard (used : List Nat) : Expression → Bool
  | .empty | .set _ => false
  | .place p => p = .wordStart || p = .wordEnd || p = .wordEdge || p = .noWordEdge
  | .sequence parts => anyHard used parts
  | .choice branches => anyHard used branches
  | .group index e => index ∈ used || e.isHard used
  | .repeated _ _ _ e => e.isHard used
  | _ => true

def anyHard (used : List Nat) : List Expression → Bool
  | [] => false
  | e :: rest => e.isHard used || anyHard used rest

end

/-! ### Expressions as searches -/

/-- What is found first of some parts that follow one another. -/
private def firstOf? (parts : List Expression) : Option Search :=
  (automaton? (.sequence parts)).map .first

/-- Whether a part of a sequence can be searched for with those at the beginning. -/
private def startsEasily (used : List Nat) (e : Expression) : Bool := e.isFixedSize && !e.isHard used

/-- Whether a part of a sequence can be searched for with those at the end; only if it is of one size where the sequence
may be taken back. -/
private def endsEasily (used : List Nat) (hard : Bool) (e : Expression) : Bool :=
  !e.isHard used && (!hard || e.isFixedSize)

mutual

/-- The search for a part of a hard expression; `hard` says that it may be taken back and tried in another way. -/
private def part? (used : List Nat) (e : Expression) (hard : Bool) : Option Search :=
  if !hard && !e.isHard used then (automaton? e).map .first
  else match e with
    | .empty => some .nothing
    | .set s => some (.first (.set s))
    | .place p => some (.first (.place p))
    | .sequence parts =>
      let rest := parts.dropWhile (startsEasily used)
      let suffix := (rest.reverse.takeWhile (endsEasily used hard)).reverse
      let first := parts.length - rest.length
      let last := parts.length - suffix.length
      do
        let before ← firstOf? (parts.take first)
        let middle ← between? used parts first last
        let after ← firstOf? suffix
        return .seq before (.seq middle after)
    | .choice branches => branches? used branches hard
    | .group index e => do
      let m ← part? used e hard
      return if index ∈ used then .group index m else m
    | .repeated low high greedy e =>
      if low = 0 && high = some 1 then (part? used e hard).map (.times 0 (some 1) greedy false)
      else
        let least := (high.map (min low)).getD low
        (part? used e true).map (.times least high greedy (high = none && e.minSize = 0))
    | .look true positive e => do
      let m ← part? used e false
      return if positive then .ahead m else .unless (.ahead m)
    | .look false positive e =>
      if e.isFixedSize then do
        let m ← part? used e false
        return if positive then .behind e.minSize m else .unless (.behind e.minSize m)
      else behind? used positive e
    | .atomic e => (part? used e false).map .atomic
    | .back index => some (.back index)
    | .entered index => some (.entered index)
    | .conditional test yes no => do
      return .choose (← part? used test hard) (← part? used yes hard) (← part? used no hard)
    | .keepOut => some .nothing
    | .searchStart => some (.first (.place .textStart))

/-- The parts of a sequence from the `first` on that stand before the `last`. -/
private def between? (used : List Nat) (parts : List Expression) (first last : Nat) : Option Search :=
  match parts with
  | [] => some .nothing
  | e :: rest => do
    let others ← between? used rest (first - 1) (last - 1)
    if first = 0 && 0 < last then return .seq (← part? used e true) others else return others

private def branches? (used : List Nat) (branches : List Expression) (hard : Bool) : Option Search :=
  match branches with
  | [] => some .nothing
  | [e] => part? used e hard
  | e :: rest => do return .alt (← part? used e hard) (← branches? used rest hard)

/-- What stands behind a place with a choice between branches of different sizes. -/
private def behind? (used : List Nat) (positive : Bool) (e : Expression) : Option Search :=
  match e with
  | .choice branches => behindAny? used positive branches
  | _ => none

/-- One of some branches behind a place for a positive answer, none of them for a negative one. -/
private def behindAny? (used : List Nat) (positive : Bool) (branches : List Expression) : Option Search :=
  match branches with
  | [] => some (if positive then .unless .nothing else .nothing)
  | e :: rest =>
    if !e.isFixedSize then none
    else do
      let m := Search.behind e.minSize (← part? used e false)
      let others ← behindAny? used positive rest
      return if positive then .alt m others else .seq (.unless m) others

end

/-- The search for an expression, given the groups that are referred to; there is none if a part is too large for an
automaton, or if something of no fixed size is to stand behind a place. -/
def search? (used : List Nat) (e : Expression) : Option Search := part? used e true

end Expression

end YamlSchema
