/-!
# Pieces of a text

`splitChars` cuts a text at every occurrence of a character.  The pieces hold all the other characters in their order.
-/

namespace YamlSchema

/-- The pieces of a text between the occurrences of a separator; one piece more than separators. -/
def splitChars (separator : Char) : List Char → List (List Char)
  | [] => [[]]
  | c :: rest =>
    if c = separator then [] :: splitChars separator rest
    else match splitChars separator rest with
      | [] => [[c]]
      | piece :: pieces => (c :: piece) :: pieces

theorem splitChars_ne_nil (separator : Char) (cs : List Char) : splitChars separator cs ≠ [] := by
  cases cs with
  | nil => simp [splitChars]
  | cons c rest =>
    unfold splitChars
    split
    · simp
    · split <;> simp

/-- A text without separators is one piece. -/
theorem splitChars_of_notMem {separator : Char} {piece : List Char} (h : separator ∉ piece) :
    splitChars separator piece = [piece] := by
  induction piece with
  | nil => rfl
  | cons c rest ih =>
    rw [List.mem_cons, not_or] at h
    rw [splitChars, if_neg fun heq => h.1 heq.symm, ih h.2]

/-- The pieces on the two sides of a separator. -/
theorem splitChars_append_cons (separator : Char) (cs rest : List Char) :
    splitChars separator (cs ++ separator :: rest) = splitChars separator cs ++ splitChars separator rest := by
  induction cs with
  | nil => simp [splitChars]
  | cons c cs ih =>
    rw [List.cons_append, splitChars, splitChars, ih]
    split
    · rfl
    · cases hpieces : splitChars separator cs with
      | nil => exact absurd hpieces (splitChars_ne_nil separator cs)
      | cons piece pieces => rfl

theorem intercalate_splitChars (separator : Char) (cs : List Char) :
    List.intercalate [separator] (splitChars separator cs) = cs := by
  induction cs with
  | nil => rfl
  | cons c rest ih =>
    unfold splitChars
    by_cases h : c = separator
    · subst h
      rw [if_pos rfl]
      cases hs : splitChars c rest with
      | nil => exact absurd hs (splitChars_ne_nil c rest)
      | cons p ps => rw [hs] at ih; simpa [List.intercalate, List.intersperse] using ih
    · rw [if_neg h]
      cases hs : splitChars separator rest with
      | nil => exact absurd hs (splitChars_ne_nil separator rest)
      | cons p ps =>
        rw [hs] at ih
        cases ps <;> simpa [List.intercalate, List.intersperse] using ih

end YamlSchema
