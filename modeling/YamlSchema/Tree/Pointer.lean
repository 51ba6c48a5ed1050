import YamlSchema.Text.Split
import YamlSchema.Tree.Basic

/-!
# Pointers into trees

A `Pointer` is the way from the root of a tree to one of its nodes.  Written down, every step follows a slash, and `~`
and `/` inside a key are escaped as `~0` and `~1`; so a written pointer can be cut at its slashes.
-/

namespace YamlSchema

/-- One step down: to a member of a mapping or to an item of a sequence. -/
inductive Step where
  | key (name : String)
  | index (i : Nat)
  deriving DecidableEq, Repr

abbrev Pointer := List Step

namespace Step

def escapeChars : List Char → List Char
  | [] => []
  | '~' :: rest => '~' :: '0' :: escapeChars rest
  | '/' :: rest => '~' :: '1' :: escapeChars rest
  | c :: rest => c :: escapeChars rest

/-- Reads the escapes `~0` and `~1`; a tilde before anything else stands for itself. -/
def unescapeChars : List Char → List Char
  | [] => []
  | '~' :: '0' :: rest => '~' :: unescapeChars rest
  | '~' :: '1' :: rest => '/' :: unescapeChars rest
  | c :: rest => c :: unescapeChars rest

theorem unescapeChars_escapeChars (cs : List Char) : unescapeChars (escapeChars cs) = cs := by
  induction cs with
  | nil => rfl
  | cons c rest ih =>
    by_cases h : c = '~'
    · subst h; simp [escapeChars, unescapeChars, ih]
    · by_cases h' : c = '/'
      · subst h'; simp [escapeChars, unescapeChars, ih]
      · rw [escapeChars.eq_4 _ _ h h', unescapeChars.eq_4 _ _ (by simp [h]) (by simp [h]), ih]

/-- The text of a step, without the slash. -/
def text : Step → String
  | .key name => String.ofList (escapeChars name.toList)
  | .index i => toString i

end Step

namespace Pointer

def text (p : Pointer) : String := String.join (p.map fun step => "/" ++ step.text)

end Pointer

/-- Reads a natural number of 64 bits: decimal digits, behind a plus sign or not. -/
def word? (token : List Char) : Option Nat :=
  let digits := match token with
    | '+' :: rest => rest
    | _ => token
  if digits.isEmpty || !digits.all Char.isDigit then none
  else
    let n := digits.foldl (fun n c => n * 10 + (c.toNat - '0'.toNat)) 0
    if n < 18446744073709551616 then some n else none

/-- Reads an array index: a number without a plus sign or a superfluous leading zero. -/
def arrayIndex? (token : List Char) : Option Nat :=
  match token with
  | '+' :: _ => none
  | '0' :: _ :: _ => none
  | _ => word? token

namespace Tree

/-- The child that one unescaped token of a written pointer names. -/
def child? (t : Tree) (token : List Char) : Option Tree :=
  match t with
  | .object members => OrderedMap.get? members (String.ofList token)
  | .array items => (arrayIndex? token).bind fun i => items[i]?
  | _ => none

/-- Follows the tokens of a written pointer. -/
def descend? (t : Tree) : List (List Char) → Option Tree
  | [] => some t
  | token :: rest => (t.child? token).bind fun c => c.descend? rest

/-- The node that a written pointer names; a pointer is empty or begins with a slash. -/
def pointer? (t : Tree) (written : String) : Option Tree :=
  match written.toList with
  | [] => some t
  | '/' :: rest => t.descend? ((splitChars '/' rest).map Step.unescapeChars)
  | _ => none

end Tree

end YamlSchema
