import YamlSchema.Text.Punycode
import YamlSchema.Text.Split
import YamlSchema.Text.Unicode.Category
import YamlSchema.Text.Unicode.Composition
import YamlSchema.Text.Unicode.Direction
import YamlSchema.Text.Unicode.HostMapping
import YamlSchema.Text.Unicode.Joining
import YamlSchema.Text.Unicode.Script

/-!
# Names of hosts beyond ASCII

The name of a host may hold letters of any script.  It is mapped to small letters and composed characters first; then
each label has to hold characters that may stand in a name, in an order that can be read in one direction, and its
encoded form has to be short enough.  Some characters may only stand beside certain others.
-/

namespace YamlSchema.Schema.InternationalHost

open YamlSchema.Text YamlSchema.Text.Unicode

/-! ### Labels -/

/-- A label as it is read, and the length of its encoded form. -/
structure Label where
  chars : List Char
  encodedLength : Nat

private def isWide (c : Char) : Bool := 128 ≤ c.toNat

/-- Whether a text is the same after mapping and composition. -/
private def isNormal (cs : List Char) : Bool :=
  cs.all HostMapping.isKept && Composition.normalize cs = cs

/-- The label that a mapped text means; a text that begins with `xn--` is encoded. -/
def Label.ofMapped? (cs : List Char) : Option Label :=
  match cs with
  | 'x' :: 'n' :: '-' :: '-' :: encoded =>
    if encoded.any isWide then none
    else (Punycode.decode? encoded).bind fun decoded =>
      if decoded.any isWide && isNormal decoded then some ⟨decoded, cs.length⟩ else none
  | _ => some ⟨cs, if cs.any isWide then (Punycode.encode cs).length + 4 else cs.length⟩

private def isMark (c : Char) : Bool := Category.isOneOf c ["mn", "mc", "me"]

private def isVirama (c : Char) : Bool := Composition.markClass c.toNat = 9

/-- Whether a joiner may stand between two parts of a label, of which the first is reversed: behind a mark that takes a
vowel away, and if it keeps letters apart, between letters that would join. -/
def joinerAllowed (c : Char) (before after : List Char) : Bool :=
  let reach := fun (cs : List Char) => (cs.dropWhile fun d => Joining.ofChar d = .transparent).head?.map Joining.ofChar
  before.head?.any isVirama ||
    (c = '\u200c' && (reach before = some .left || reach before = some .both) &&
      (reach after = some .right || reach after = some .both))

private def joinersAllowed (before : List Char) : List Char → Bool
  | [] => true
  | c :: rest =>
    (if c = '\u200c' || c = '\u200d' then joinerAllowed c before rest else true) && joinersAllowed (c :: before) rest

/-- Whether the characters of a label may stand in it at their places. -/
def Label.isReadable (l : Label) : Bool :=
  l.chars.all (fun c => isWide c || c.isLower || c.isDigit || c = '-') &&
    l.chars.head? ≠ some '-' && l.chars.getLast? ≠ some '-' && (l.chars.drop 2).take 2 ≠ ['-', '-'] &&
    !l.chars.head?.any isMark && joinersAllowed [] l.chars

/-! ### Direction -/

/-- Whether a label can be read in one direction. -/
def Label.isDirected (l : Label) : Bool :=
  let ds := l.chars.map Direction.ofChar
  let final := (ds.reverse.dropWhile (· = .nonspacingMark)).head?
  let neutral : List Direction :=
    [.europeanNumber, .europeanSeparator, .commonSeparator, .europeanTerminator, .otherNeutral, .boundaryNeutral,
      .nonspacingMark]
  match ds.head? with
  | some .leftToRight =>
    ds.all (fun d => d = .leftToRight || d ∈ neutral) && final.any fun d => d = .leftToRight || d = .europeanNumber
  | some .rightToLeft | some .arabicLetter =>
    ds.all (fun d => d ∈ [.rightToLeft, .arabicLetter, .arabicNumber] || d ∈ neutral) &&
      (final.any fun d => d ∈ [.rightToLeft, .arabicLetter, .europeanNumber, .arabicNumber]) &&
      !(.europeanNumber ∈ ds && .arabicNumber ∈ ds)
  | _ => false

/-- Whether a label holds something that is written to the left. -/
def Label.turns (l : Label) : Bool :=
  l.chars.any fun c => Direction.ofChar c ∈ [.rightToLeft, .arabicLetter, .arabicNumber]

/-! ### Characters in context -/

/-- Characters that have a meaning of their own in no name. -/
private def refused : List Char :=
  ['\u0640', '\u07fa', '\u302e', '\u302f', '\u3031', '\u3032', '\u3033', '\u3034', '\u3035', '\u303b']

/-- Whether a character may stand behind one character and before another. -/
private def fits (before : Option Char) (c : Char) (after : Option Char) : Bool :=
  if c = '\u00b7' then before = some 'l' && after = some 'l'
  else if c = '\u0375' then after.any fun d => Script.isOf d "greek"
  else if c = '\u05f3' || c = '\u05f4' then before.any fun d => Script.isOf d "hebrew"
  else c ∉ refused

private def allFit (before : Option Char) : List Char → Bool
  | [] => true
  | c :: rest => fits before c rest.head? && allFit (some c) rest

/-- Whether the characters of a name stand in a context in which they may. -/
def inContext (cs : List Char) : Bool :=
  allFit none cs &&
    (!cs.contains '\u30fb' || cs.any fun c =>
      c ≠ '\u30fb' && (Script.isOf c "hiragana" || Script.isOf c "katakana" || Script.isOf c "han")) &&
    !(cs.any (fun c => '\u0660' ≤ c && c ≤ '\u0669') && cs.any fun c => '\u06f0' ≤ c && c ≤ '\u06f9')

/-! ### Names -/

/-- The labels of a name. -/
def labels? (cs : List Char) : Option (List Label) := do
  let mapped ← cs.mapM HostMapping.replacement?
  (splitChars '.' (Composition.normalize mapped.flatten)).mapM Label.ofMapped?

def isName (cs : List Char) : Bool :=
  match labels? cs with
  | none => false
  | some labels =>
    labels.all (fun l => 0 < l.encodedLength && l.encodedLength ≤ 63 && l.isReadable) &&
      labels.foldl (fun n l => n + l.encodedLength + 1) 0 ≤ 254 &&
      (!labels.any Label.turns || labels.all Label.isDirected) &&
      inContext (List.intercalate ['.'] (labels.map Label.chars))

end YamlSchema.Schema.InternationalHost
