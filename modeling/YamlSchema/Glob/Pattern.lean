/-!
# Glob patterns

In a glob pattern `?` stands for any character, `*` for any number of them, and brackets for one of some characters or
ranges, or for one of the others after `[!`.  A component `**` stands for any number of directories; two stars stand
nowhere else.  `Token.ofChars` reads a pattern, `Token.fit` says whether a name is matched.
-/

namespace YamlSchema.Glob

/-- What is wrong with a pattern, and near which character. -/
inductive Fault where
  | badRange (position : Nat)
  | notWholeComponent (position : Nat)
  | tooManyStars (position : Nat)
  deriving DecidableEq, Repr

namespace Fault

def position : Fault → Nat
  | .badRange n | .notWholeComponent n | .tooManyStars n => n

def reason : Fault → String
  | .badRange _ => "invalid range pattern"
  | .notWholeComponent _ => "recursive wildcards must form a single path component"
  | .tooManyStars _ => "wildcards are either regular `*` or recursive `**`"

def message (f : Fault) : String := s!"Pattern syntax error near position {f.position}: " ++ f.reason

end Fault

inductive Token where
  | exactly (c : Char)
  | anyChar
  | oneOf (ranges : List (Char × Char))
  | noneOf (ranges : List (Char × Char))
  | anyChars
  | anyDirectories
  deriving DecidableEq, Repr

namespace Token

/-! ### Reading -/

/-- The ranges between brackets; a single character is a range too. -/
def ranges : List Char → List (Char × Char)
  | low :: '-' :: high :: rest => (low, high) :: ranges rest
  | c :: rest => (c, c) :: ranges rest
  | [] => []

/-- The characters up to a closing bracket, which is not the first of them. -/
def bracketed? : List Char → Option (List Char)
  | first :: rest =>
    if rest.contains ']' then some (first :: rest.takeWhile (· ≠ ']')) else none
  | [] => none

/-- The token after an opening bracket, and the number of characters up to the closing one. -/
def range? : List Char → Option (Token × Nat)
  | '!' :: rest => (bracketed? rest).map fun cs => (.noneOf (ranges cs), cs.length + 2)
  | rest => (bracketed? rest).map fun cs => (.oneOf (ranges cs), cs.length + 1)

/-- The token at the head of a text that begins at a position behind some character, and its length. -/
def atHead (position : Nat) (before : Option Char) (cs : List Char) : Except Fault (Token × Nat) :=
  match cs with
  | '?' :: _ => .ok (.anyChar, 1)
  | '[' :: rest => match range? rest with
    | some (token, length) => .ok (token, length + 1)
    | none => .error (.badRange position)
  | '*' :: rest => match rest.takeWhile (· = '*') with
    | [] => .ok (.anyChars, 1)
    | [_] =>
      if before.any (· ≠ '/') then .error (.notWholeComponent (position - 1))
      else match rest.drop 1 with
        | [] => .ok (.anyDirectories, 2)
        | '/' :: _ => .ok (.anyDirectories, 3)
        | _ => .error (.notWholeComponent (position + 2))
    | _ => .error (.tooManyStars (position + 2))
  | c :: _ => .ok (.exactly c, 1)
  | [] => .ok (.anyChars, 1)

/-- The tokens of a text whose first `skip` characters belong to an earlier one. -/
def scan (skip position : Nat) (before : Option Char) : List Char → Except Fault (List Token)
  | [] => .ok []
  | c :: rest =>
    match skip with
    | skip + 1 => scan skip (position + 1) (some c) rest
    | 0 => do
      let (token, length) ← atHead position before (c :: rest)
      let tokens ← scan (length - 1) (position + 1) (some c) rest
      return token :: tokens

def ofChars (cs : List Char) : Except Fault (List Token) := scan 0 0 none cs

/-! ### Matching -/

private def isWithin (ranges : List (Char × Char)) (c : Char) : Bool := ranges.any fun r => r.1 ≤ c && c ≤ r.2

/-- Whether a token that stands for one character stands for this one. -/
def accepts (c : Char) : Token → Bool
  | .exactly d => c = d
  | .anyChar => true
  | .oneOf ranges => isWithin ranges c
  | .noneOf ranges => !isWithin ranges c
  | .anyChars | .anyDirectories => false

/-- The text and what remains of it after each of its characters. -/
def remainders : List Char → List (List Char)
  | [] => [[]]
  | c :: rest => (c :: rest) :: remainders rest

/-- What may remain behind a token, given what may remain before it; the longest remainder comes first. -/
def advance (rests : List (List Char)) : Token → List (List Char)
  | .anyChars | .anyDirectories => (rests.head?.map remainders).getD []
  | token => rests.filterMap fun rest => match rest with
    | [] => none
    | c :: rest => if token.accepts c then some rest else none

/-- Whether tokens match a whole name. -/
def fit (tokens : List Token) (cs : List Char) : Bool := (tokens.foldl advance [cs]).contains []

end Token

/-- A component of a pattern. -/
inductive Segment where
  /-- Any number of directories. -/
  | deep
  | literal (name : String)
  | wild (tokens : List Token)
  deriving DecidableEq, Repr

namespace Segment

private def character? : Token → Option Char
  | .exactly c => some c
  | _ => none

def ofTokens (tokens : List Token) : Segment :=
  if .anyDirectories ∈ tokens then .deep
  else match tokens.mapM character? with
    | some cs => .literal (String.ofList cs)
    | none => .wild tokens

private theorem exactly_mem_of_mapM {tokens : List Token} {cs : List Char} (h : tokens.mapM character? = some cs) :
    ∀ c ∈ cs, .exactly c ∈ tokens := by
  induction tokens generalizing cs with
  | nil =>
    cases h
    exact fun _ hc => nomatch hc
  | cons token tokens ih =>
    rw [List.mapM_cons] at h
    cases hcharacter : character? token with
    | none => simp [hcharacter] at h
    | some first =>
      cases hrest : tokens.mapM character? with
      | none => simp [hrest] at h
      | some rest =>
        obtain rfl : cs = first :: rest := by simpa [hcharacter, hrest] using h.symm
        have htoken : token = .exactly first := by
          unfold character? at hcharacter
          split at hcharacter
          · cases hcharacter
            rfl
          · cases hcharacter
        rw [htoken]
        exact fun c hc => (List.mem_cons.1 hc).elim (fun heq => heq ▸ List.mem_cons_self)
          fun hmem => List.mem_cons_of_mem _ (ih hrest c hmem)

/-- The characters of a literal component stand for themselves. -/
theorem exactly_mem_of_ofTokens {tokens : List Token} {name : String} (h : ofTokens tokens = .literal name) :
    ∀ c ∈ name.toList, .exactly c ∈ tokens := by
  rw [ofTokens] at h
  split at h
  · cases h
  · split at h
    · rename_i cs hcs
      cases h
      rw [String.toList_ofList]
      exact exactly_mem_of_mapM hcs
    · cases h

theorem ofTokens_exactly (cs : List Char) : ofTokens (cs.map .exactly) = .literal (String.ofList cs) := by
  have hcharacters : (cs.map Token.exactly).mapM character? = some cs := by
    induction cs with
    | nil => rfl
    | cons c cs ih => rw [List.map_cons, List.mapM_cons, ih]; rfl
  rw [ofTokens, if_neg (by simp), hcharacters]

/-- A component with a token that is no character is not literal. -/
theorem ofTokens_of_mem {tokens : List Token} {token : Token} (hdeep : .anyDirectories ∉ tokens)
    (hmem : token ∈ tokens) (htoken : ∀ c, token ≠ .exactly c) : ofTokens tokens = .wild tokens := by
  have hcharacter : character? token = none := by
    unfold character?
    split
    · exact absurd rfl (htoken _)
    · rfl
  have hnone : tokens.mapM character? = none := by
    clear hdeep
    induction tokens with
    | nil => cases hmem
    | cons first rest ih =>
      rw [List.mapM_cons]
      rcases List.mem_cons.1 hmem with rfl | hmem
      · rw [hcharacter]
        rfl
      · rw [ih hmem]
        cases character? first <;> rfl
  rw [ofTokens, if_neg hdeep, hnone]

/-- Whether a component matches the name of a file or directory. -/
def fits (name : String) : Segment → Bool
  | .deep => true
  | .literal s => s = name
  | .wild tokens => Token.fit tokens name.toList

end Segment

end YamlSchema.Glob
