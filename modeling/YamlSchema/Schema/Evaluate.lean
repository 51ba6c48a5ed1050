import YamlSchema.Schema.Assertion

/-!
# Evaluating a schema

Two readings of a schema on an instance: `Node.violations` lists every violation in the order of the keywords, and
`Node.accepts` only says whether there is none.  `Node.evaluated` lists the members and items that a schema looks at, for
keywords that ask about the others.  All follow the structure of the schema; what a reference means is handed in, so that
a cycle of references is the business of who resolves them.
-/

namespace YamlSchema.Schema

def itemsOf (v : Tree) : List Tree := v.array?.getD []

/-- The keyword that a number of items breaks by its bounds, as the way to it; without bounds there has to be one. -/
def brokenBound (low high : Option Nat) (count : Nat) : Option Pointer :=
  match low, high with
  | none, none => if count = 0 then some [.key "contains"] else none
  | some low, none => if count < low then some [.key "minContains"] else none
  | none, some high => if count = 0 || high < count then some [.key "maxContains"] else none
  | some low, some high =>
    if high < count then some [.key "contains", .key "maxContains"]
    else if count < low then some [.key "contains", .key "minContains"]
    else none

/-- What lies behind links: whether it accepts an instance, and what it evaluates of it. -/
structure Behind where
  accepts : Link → Tree → Bool
  evaluated : Link → Tree → List Step

/-! ### The short answer -/

section Accepts

variable (behind : Behind)

mutual

/-- Whether an instance has no violation. -/
def Node.accepts (n : Node) (v : Tree) : Bool :=
  match n with
  | .always b => b
  | .rules all => acceptsAll all v
  | .refused _ => true

def acceptsAll (rules : List Rule) (v : Tree) : Bool :=
  match rules with
  | [] => true
  | r :: rest => r.accepts v && acceptsAll rest v

def Rule.accepts (r : Rule) (v : Tree) : Bool :=
  match r with
  | .assertion _ a => a.holds v
  | .reference _ link => behind.accepts link v
  | .property name node => match OrderedMap.get? (membersOf v) name with
    | some t => node.accepts t
    | none => true
  | .patternProperty pattern node => (membersOf v).all fun m => !pattern.isIn m.1 || node.accepts m.2
  | .members named patterned others =>
    (membersOf v).all fun m =>
      let byName := acceptsNamed named m.1 m.2
      let byPattern := acceptsMatching patterned m.1 m.2
      if byName.isNone && byPattern.isNone then acceptsOr false others m.2
      else byName.getD true && byPattern.getD true
  | .items node => (itemsOf v).all fun t => node.accepts t
  | .itemAt _ i node => match (itemsOf v)[i]? with
    | some t => node.accepts t
    | none => true
  | .itemsFrom _ count node => ((itemsOf v).drop count).all fun t => node.accepts t
  | .contains node => match v with
    | .array items => items.any fun t => node.accepts t
    | _ => true
  | .containsWithin low high _ node => match v with
    | .array items => (brokenBound low high (items.countP fun t => node.accepts t)).isNone
    | _ => true
  | .names node => (membersOf v).all fun m => node.accepts (.string m.1)
  | .dependency _ name node => !OrderedMap.contains (membersOf v) name || node.accepts v
  | .allOf _ node => node.accepts v
  | .anyOf nodes => 0 < countAccepting nodes v
  | .oneOf nodes => countAccepting nodes v = 1
  | .not node _ => !node.accepts v
  | .conditional test yes no => if test.accepts v then acceptsOr true yes v else acceptsOr true no v
  | .unevaluatedMembers beside node =>
    let known := evaluatedByAll beside v
    (membersOf v).all fun m => .key m.1 ∈ known || node.accepts m.2
  | .unevaluatedItems beside node =>
    let known := evaluatedByAll beside v
    (itemsOf v).zipIdx.all fun t => .index t.2 ∈ known || node.accepts t.1
  | .refused _ => true

/-- The answer of a schema, or another one where there is none. -/
def acceptsOr (otherwise : Bool) (node : Option Node) (v : Tree) : Bool :=
  match node with
  | none => otherwise
  | some n => n.accepts v

/-- How many of some schemas accept an instance. -/
def countAccepting (nodes : List Node) (v : Tree) : Nat :=
  match nodes with
  | [] => 0
  | n :: rest => (if n.accepts v then 1 else 0) + countAccepting rest v

/-- The answer of the schema with a name, if there is one. -/
def acceptsNamed (named : List (String × Node)) (name : String) (v : Tree) : Option Bool :=
  match named with
  | [] => none
  | (k, n) :: rest => if k = name then some (n.accepts v) else acceptsNamed rest name v

/-- The common answer of the schemas whose pattern is in a name, if there is one. -/
def acceptsMatching (patterned : List (Pattern × Node)) (name : String) (v : Tree) : Option Bool :=
  match patterned with
  | [] => none
  | (p, n) :: rest =>
    if p.isIn name then some (n.accepts v && (acceptsMatching rest name v).getD true)
    else acceptsMatching rest name v

/-- The members and items of an instance that a schema evaluates. -/
def Node.evaluated (n : Node) (v : Tree) : List Step :=
  match n with
  | .always _ => []
  | .rules all => evaluatedByAll all v
  | .refused _ => []

def evaluatedByAll (rules : List Rule) (v : Tree) : List Step :=
  match rules with
  | [] => []
  | r :: rest => r.evaluated v ++ evaluatedByAll rest v

def Rule.evaluated (r : Rule) (v : Tree) : List Step :=
  match r with
  | .reference _ link => behind.evaluated link v
  | .property name node =>
    if (OrderedMap.get? (membersOf v) name).any fun t => node.accepts t then [.key name] else []
  | .patternProperty pattern _ => ((membersOf v).filter fun m => pattern.isIn m.1).map fun m => .key m.1
  | .members named patterned others =>
    ((membersOf v).filter fun m =>
      acceptsNamed named m.1 m.2 = some true || (patterned.any fun p => p.1.isIn m.1) ||
        acceptsOr false others m.2).map fun m => .key m.1
  | .items _ => (itemsOf v).mapIdx fun i _ => .index i
  | .itemAt _ i _ => [.index i]
  | .itemsFrom _ count _ => ((itemsOf v).drop count).mapIdx fun i _ => .index (count + i)
  | .containsWithin _ _ evaluates node =>
    ((itemsOf v).zipIdx.filter fun t => evaluates && node.accepts t.1).map fun t => .index t.2
  | .dependency _ name node => if OrderedMap.contains (membersOf v) name then node.evaluated v else []
  | .allOf _ node => if node.accepts v then node.evaluated v else []
  | .anyOf nodes => evaluatedByAccepting nodes v
  | .oneOf nodes => if countAccepting nodes v = 1 then evaluatedByAccepting nodes v else []
  | .conditional test yes no =>
    if test.accepts v then test.evaluated v ++ evaluatedIfAny yes v else evaluatedIfAny no v
  | .unevaluatedMembers _ node => ((membersOf v).filter fun m => node.accepts m.2).map fun m => .key m.1
  | .unevaluatedItems _ node => ((itemsOf v).zipIdx.filter fun t => node.accepts t.1).map fun t => .index t.2
  | _ => []

/-- What a schema evaluates; no schema evaluates nothing. -/
def evaluatedIfAny (node : Option Node) (v : Tree) : List Step :=
  match node with
  | none => []
  | some n => n.evaluated v

/-- What the schemas evaluate that accept an instance. -/
def evaluatedByAccepting (nodes : List Node) (v : Tree) : List Step :=
  match nodes with
  | [] => []
  | n :: rest => (if n.accepts v then n.evaluated v else []) ++ evaluatedByAccepting rest v

end

end Accepts

/-! ### Every violation -/

/-- How references are followed: what lies behind them, and which violations that has. -/
structure Follow extends Behind where
  violations : Link → Tree → List Violation

section Violations

variable (f : Follow)

mutual

/-- The violations of a schema by an instance, in the order of the keywords. -/
def Node.violations (n : Node) (v : Tree) : List Violation :=
  match n with
  | .always true => []
  | .always false => [⟨[], [], v, .notAllowed⟩]
  | .rules all => violationsOfAll all v
  | .refused _ => []

def violationsOfAll (rules : List Rule) (v : Tree) : List Violation :=
  match rules with
  | [] => []
  | r :: rest => r.violations v ++ violationsOfAll rest v

def Rule.violations (r : Rule) (v : Tree) : List Violation :=
  match r with
  | .assertion keyword a => (a.causes v).map fun c => Violation.under none [.key keyword] ⟨[], [], c.1, c.2⟩
  | .reference keyword link => (f.violations link v).map (Violation.under none [.key keyword])
  | .property name node => match OrderedMap.get? (membersOf v) name with
    | some t => (node.violations t).map (Violation.under (some (.key name)) [.key "properties", .key name])
    | none => []
  | .patternProperty pattern node =>
    (membersOf v).flatMap fun m =>
      if pattern.isIn m.1 then
        (node.violations m.2).map (Violation.under (some (.key m.1)) [.key "patternProperties", .key pattern.text])
      else []
  | .members named patterned others =>
    let perMember := (membersOf v).map fun m =>
      let byName := violationsNamed named m.1 m.2
      let byPattern := violationsMatching patterned m.1 m.2
      let here := Violation.under (some (.key m.1)) []
      if byName.isNone && byPattern.isNone then
        match violationsIfAny others m.2 with
        | some found => (none, found.map (Violation.under (some (.key m.1)) [.key "additionalProperties"]))
        | none => (some m.1, [])
      else (none, (byName.getD []).map here ++ (byPattern.getD []).map here)
    let unexpected := perMember.filterMap fun p => p.1
    (perMember.flatMap fun p => p.2) ++
      (if unexpected.isEmpty then [] else [⟨[], [.key "additionalProperties"], v, .unexpectedNames unexpected⟩])
  | .items node => ((itemsOf v).mapIdx fun i t =>
      (node.violations t).map (Violation.under (some (.index i)) [.key "items"])).flatten
  | .itemAt keyword i node => match (itemsOf v)[i]? with
    | some t => (node.violations t).map (Violation.under (some (.index i)) [.key keyword, .index i])
    | none => []
  | .itemsFrom keyword count node => (((itemsOf v).drop count).mapIdx fun i t =>
      (node.violations t).map (Violation.under (some (.index (count + i))) [.key keyword])).flatten
  | .contains node => match v with
    | .array items =>
      if items.any fun t => node.accepts f.toBehind t then [] else [⟨[], [.key "contains"], v, .containsNone⟩]
    | _ => []
  | .containsWithin low high _ node => match v with
    | .array items => match brokenBound low high (items.countP fun t => node.accepts f.toBehind t) with
      | some way => [⟨[], way, v, .containsNone⟩]
      | none => []
    | _ => []
  | .names node => (membersOf v).flatMap fun m =>
      (node.violations (.string m.1)).map (Violation.ofName v m.1)
  | .dependency keyword name node =>
    if OrderedMap.contains (membersOf v) name then
      (node.violations v).map (Violation.under none [.key keyword, .key name])
    else []
  | .allOf i node => (node.violations v).map (Violation.under none [.key "allOf", .index i])
  | .anyOf nodes => if 0 < countAccepting f.toBehind nodes v then [] else [⟨[], [.key "anyOf"], v, .noneOfAny⟩]
  | .oneOf nodes => match countAccepting f.toBehind nodes v with
    | 0 => [⟨[], [.key "oneOf"], v, .noneOfOne⟩]
    | 1 => []
    | _ => [⟨[], [.key "oneOf"], v, .severalOfOne⟩]
  | .not node schema => if node.accepts f.toBehind v then [⟨[], [.key "not"], v, .forbidden schema⟩] else []
  | .conditional test yes no =>
    if test.accepts f.toBehind v then ((violationsIfAny yes v).getD []).map (Violation.under none [.key "then"])
    else ((violationsIfAny no v).getD []).map (Violation.under none [.key "else"])
  | .unevaluatedMembers beside node =>
    let known := evaluatedByAll f.toBehind beside v
    let left := (membersOf v).filter fun m => .key m.1 ∉ known && !node.accepts f.toBehind m.2
    if left.isEmpty then []
    else [⟨[], [.key "unevaluatedProperties"], v, .unevaluatedNames (left.map fun m => m.1)⟩]
  | .unevaluatedItems beside node =>
    let known := evaluatedByAll f.toBehind beside v
    let left := (itemsOf v).zipIdx.filter fun t => .index t.2 ∉ known && !node.accepts f.toBehind t.1
    if left.isEmpty then [] else [⟨[], [.key "unevaluatedItems"], v, .unevaluatedItems (left.map fun t => t.1)⟩]
  | .refused _ => []

/-- The violations of a schema, if there is one. -/
def violationsIfAny (node : Option Node) (v : Tree) : Option (List Violation) :=
  match node with
  | none => none
  | some n => some (n.violations v)

/-- The violations of the schema with a name, if there is one. -/
def violationsNamed (named : List (String × Node)) (name : String) (v : Tree) : Option (List Violation) :=
  match named with
  | [] => none
  | (k, n) :: rest =>
    if k = name then some ((n.violations v).map (Violation.under none [.key "properties", .key k]))
    else violationsNamed rest name v

/-- The violations of the schemas whose pattern is in a name, if there is one. -/
def violationsMatching (patterned : List (Pattern × Node)) (name : String) (v : Tree) : Option (List Violation) :=
  match patterned with
  | [] => none
  | (p, n) :: rest =>
    if p.isIn name then
      some ((n.violations v).map (Violation.under none [.key "patternProperties", .key p.text]) ++
        (violationsMatching rest name v).getD [])
    else violationsMatching rest name v

end

end Violations

end YamlSchema.Schema
