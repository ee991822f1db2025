import Phrasebook.KeyMap
import Phrasebook.Text.Characters
import Phrasebook.Validation.Pattern

/-!
# Placeholders

A message holds places for values: a name in braces, with white space around the name allowed. A
name is made of ASCII letters, digits and underscores, and a number is a name.
-/

namespace Phrasebook.Placeholder

/-- A character of a name. -/
def isNameChar (c : Char) : Bool := c.isAlphanum || c = '_'

/-- The name in a placeholder at the front of a text, and the text behind its closing brace. -/
def match? : List Char → Option (List Char × List Char)
  | [] => none
  | c :: s =>
    if c ≠ '\x7b' then none
    else
      let s := s.dropWhile Text.isBlank
      let name := s.takeWhile isNameChar
      match (s.dropWhile isNameChar).dropWhile Text.isBlank with
      | close :: after => if close = '\x7d' ∧ name ≠ [] then some (name, after) else none
      | [] => none

/-- A match takes some characters, so the search gets on. -/
theorem length_lt_of_match? {s found after : List Char} (h : match? s = some (found, after)) :
    after.length < s.length := by
  unfold match? at h
  split at h
  · simp at h
  · rename_i c s
    split at h
    · simp at h
    · dsimp only at h
      split at h
      · rename_i close rest hrest
        have h1 := length_dropWhile_le Text.isBlank s
        have h2 := length_dropWhile_le isNameChar (s.dropWhile Text.isBlank)
        have h3 := length_dropWhile_le Text.isBlank
          ((s.dropWhile Text.isBlank).dropWhile isNameChar)
        rw [hrest] at h3
        split at h
        · simp only [Option.some.injEq, Prod.mk.injEq] at h
          rw [← h.2]
          simp only [List.length_cons] at *
          omega
        · simp at h
      · simp at h

/-- The form of a placeholder. -/
def pattern : Pattern := ⟨match?, length_lt_of_match?⟩

/-- The names of the placeholders of a text. -/
def names (text : String) : List String :=
  KeySet.ofList ((pattern.findAll text.toList).map String.ofList)

/-- The names of the placeholders in a text are in order. -/
theorem ordered_names (text : String) : KeySet.Ordered (names text) := KeySet.ordered_ofList _

end Phrasebook.Placeholder
