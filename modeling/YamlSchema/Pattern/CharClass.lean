import YamlSchema.Text.Unicode.Age
import YamlSchema.Text.Unicode.CaseFold
import YamlSchema.Text.Unicode.Category
import YamlSchema.Text.Unicode.Property
import YamlSchema.Text.Unicode.Script
import YamlSchema.Text.Unicode.Segmentation

/-!
# Classes of characters

A `CharClass` is a set of characters as a pattern writes it: characters, ranges, named classes and properties, put
together by union, complement and the operations on sets.  `CharClass.ranges?` is the set itself, where letters may be
taken in either case; there is none if a property is unknown.
-/

namespace YamlSchema

open Text.Unicode

/-- An operation on two sets. -/
inductive SetOperation where
  | intersection
  | difference
  | symmetricDifference
  deriving DecidableEq, Repr

/-- The name of a property, and that of its value if one is given. -/
structure PropertyName where
  name : String
  value : Option String
  deriving DecidableEq, Repr

inductive CharClass where
  | single (c : Char)
  | range (low high : Char)
  /-- A class of ASCII by its name. -/
  | ascii (negated : Bool) (name : String)
  | property (negated : Bool) (name : PropertyName)
  /-- Digits, white space or word characters by their letter, a capital one for all others; and how many characters
  stand behind the backslash of the letter. -/
  | letter (c : Char) (behind : Nat)
  | union (parts : List CharClass)
  /-- What stands in brackets. -/
  | bracketed (negated : Bool) (inner : CharClass)
  | operation (o : SetOperation) (left right : CharClass)
  deriving Repr

namespace CharClass

/-! ### Named sets -/

private def letters : Ranges := [(65, 90), (97, 122)]

private def digits : Ranges := [(48, 57)]

/-- The classes of ASCII. -/
def asciiRanges? (name : String) : Option Ranges :=
  match name with
  | "alnum" => some (Ranges.union digits letters)
  | "alpha" => some letters
  | "ascii" => some [(0, 127)]
  | "blank" => some [(9, 9), (32, 32)]
  | "cntrl" => some [(0, 31), (127, 127)]
  | "digit" => some digits
  | "graph" => some [(33, 126)]
  | "lower" => some [(97, 122)]
  | "print" => some [(32, 126)]
  | "punct" => some [(33, 47), (58, 64), (91, 96), (123, 126)]
  | "space" => some [(9, 13), (32, 32)]
  | "upper" => some [(65, 90)]
  | "word" => some (Ranges.normal (digits ++ letters ++ [(95, 95)]))
  | "xdigit" => some [(48, 57), (65, 70), (97, 102)]
  | _ => none

/-- Digits of every script. -/
def digit : Ranges := (Category.ranges? "nd").getD []

/-- White space. -/
def space : Ranges := (Property.ranges? "whitespace").getD []

/-- Letters, marks, digits, and what joins them to words. -/
def word : Ranges :=
  Ranges.normal (["m", "nd", "pc"].foldl (fun r name => r ++ (Category.ranges? name).getD [])
    ((Property.ranges? "alphabetic").getD [] ++ (Property.ranges? "joincontrol").getD []))

private def letterRanges (c : Char) : Ranges :=
  match c with
  | 'd' => digit
  | 'D' => Ranges.complement digit
  | 's' => space
  | 'S' => Ranges.complement space
  | 'w' => word
  | _ => Ranges.complement word

/-! ### Properties -/

/-- The form in which names are compared: ASCII without blanks, lines, and `is` in front, in small letters. -/
def looseName (name : String) : String :=
  let plain := fun (cs : List Char) =>
    (cs.filter fun c => c.toNat < 128 && c ≠ ' ' && c ≠ '_' && c ≠ '-').map Char.toLower
  match name.toList with
  | a :: b :: rest =>
    if a.toLower = 'i' && b.toLower = 's' then
      let rest := plain rest
      if rest = ['c'] then "isc" else String.ofList rest
    else String.ofList (plain (a :: b :: rest))
  | cs => String.ofList (plain cs)

/-- A category, or what has any category at all. -/
private def categoryRanges? (name : String) : Option Ranges :=
  match name with
  | "any" => some Ranges.all
  | "assigned" => (Category.ranges? "cn").map Ranges.complement
  | "ascii" => some [(0, 127)]
  | "cs" | "surrogate" => none
  | _ => Category.ranges? name

/-- Without a value the name is that of a property, of a category or of a script, in this order; three short names of
properties are also names of categories and mean those. -/
private def namedRanges? (name : String) : Option Ranges :=
  let property := if name ∈ ["cf", "sc", "lc"] then none else Property.ranges? name
  property.or ((categoryRanges? name).or (Script.ranges? name))

private def valuedRanges? (name value : String) : Option Ranges :=
  match name with
  | "gc" | "generalcategory" => categoryRanges? value
  | "sc" | "script" => Script.ranges? value
  | "scx" | "scriptextensions" => Script.extendedRanges? value
  | "age" => Age.ranges? value
  | "gcb" | "graphemeclusterbreak" => Segmentation.clusterRanges? value
  | "wb" | "wordbreak" => Segmentation.wordRanges? value
  | "sb" | "sentencebreak" => Segmentation.sentenceRanges? value
  | _ => none

/-- The characters with a property. -/
def propertyRanges? (p : PropertyName) : Option Ranges :=
  match p.value with
  | none => namedRanges? (looseName p.name)
  | some value => valuedRanges? (looseName p.name) (looseName value)

/-! ### The set of a class -/

private def combined (o : SetOperation) (r s : Ranges) : Ranges :=
  match o with
  | .intersection => Ranges.inter r s
  | .difference => Ranges.diff r s
  | .symmetricDifference => Ranges.symmDiff r s

private def folded (fold : Bool) (r : Ranges) : Ranges := if fold then CaseFold.closure r else r

private def complemented (negated : Bool) (r : Ranges) : Ranges := if negated then Ranges.complement r else r

mutual

/-- The characters of a class, in either case if `fold`.  A complement is taken after that, so that it holds no letter
of which the class holds the other case. -/
def ranges? (fold : Bool) : CharClass → Option Ranges
  | .single c => some (Ranges.single c.toNat)
  | .range low high => some [(low.toNat, high.toNat)]
  | .ascii negated name => (asciiRanges? name).map fun r => complemented negated (folded fold r)
  | .property negated name => (propertyRanges? name).map fun r => complemented negated (folded fold r)
  | .letter c _ => some (letterRanges c)
  | .union parts => (unionRanges? fold parts).map Ranges.normal
  | .bracketed negated inner => (inner.ranges? fold).map fun r => complemented negated (folded fold r)
  | .operation o left right => do
    let r ← left.ranges? fold
    let s ← right.ranges? fold
    return combined o (folded fold r) (folded fold s)

def unionRanges? (fold : Bool) : List CharClass → Option Ranges
  | [] => some []
  | c :: rest => do
    let r ← c.ranges? fold
    let s ← unionRanges? fold rest
    return r ++ s

end

mutual

/-- How deep brackets, unions and operations nest. -/
def depth : CharClass → Nat
  | .union [c] => c.depth
  | .union parts => if parts.isEmpty then 0 else 1 + depthOfParts parts
  | .bracketed _ inner => 1 + inner.depth
  | .operation _ left right => 1 + max left.depth right.depth
  | _ => 0

def depthOfParts : List CharClass → Nat
  | [] => 0
  | c :: rest => max c.depth (depthOfParts rest)

end

mutual

/-- The letters for digits, white space and words in a class. -/
def lettersOf : CharClass → List (Char × Nat)
  | .letter c behind => [(c, behind)]
  | .union parts => lettersOfParts parts
  | .bracketed _ inner => inner.lettersOf
  | .operation _ left right => left.lettersOf ++ right.lettersOf
  | _ => []

def lettersOfParts : List CharClass → List (Char × Nat)
  | [] => []
  | c :: rest => c.lettersOf ++ lettersOfParts rest

end

end CharClass

end YamlSchema
