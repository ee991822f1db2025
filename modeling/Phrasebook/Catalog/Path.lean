/-!
# Dotted paths

A message inside groups is named by the keys that lead to it, joined by dots. Keys may hold dots
themselves, so splitting a path at its dots is an inverse of joining only for keys without one.
-/

namespace Phrasebook.Path

/-- The pieces of a text between its dots. There is always at least one. -/
def splitChars : List Char → List (List Char)
  | [] => [[]]
  | c :: rest =>
    if c = '.' then [] :: splitChars rest
    else
      match splitChars rest with
      | [] => [[c]]
      | piece :: pieces => (c :: piece) :: pieces

/-- The pieces of a path between its dots. -/
def split (path : String) : List String := (splitChars path.toList).map String.ofList

/-- Keys joined by dots. -/
def joinChars : List (List Char) → List Char
  | [] => []
  | [key] => key
  | key :: keys => key ++ '.' :: joinChars keys

/-- The path of some keys. -/
def join (keys : List String) : String := String.ofList (joinChars (keys.map String.toList))

/-- Splitting gives one piece at least, which is empty for the empty text. -/
theorem splitChars_ne_nil (s : List Char) : splitChars s ≠ [] := by
  cases s with
  | nil => simp [splitChars]
  | cons c rest =>
    rw [splitChars]
    split
    · simp
    · split <;> simp

/-- Joining the pieces of a text gives it back. -/
theorem joinChars_splitChars (s : List Char) : joinChars (splitChars s) = s := by
  induction s with
  | nil => rfl
  | cons c rest ih =>
    rw [splitChars]
    split
    · rename_i hc
      subst hc
      have := splitChars_ne_nil rest
      match h : splitChars rest, this with
      | piece :: pieces, _ => simp [joinChars, ← h, ih]
    · match h : splitChars rest, splitChars_ne_nil rest with
      | [piece], _ => simpa [joinChars, h] using ih
      | piece :: next :: pieces, _ =>
        rw [h] at ih
        simp only [joinChars, List.cons_append] at ih ⊢
        rw [ih]

end Phrasebook.Path
