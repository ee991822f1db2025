/-!
# Searching a text

A pattern tries to match at the front of a text. `Pattern.findAll` goes through a text from the
left and resumes behind each match, so matches do not overlap.
-/

namespace Phrasebook

/-- A rule for a match at the front of a text, which gives what it found and the text behind it. -/
structure Pattern where
  match? : List Char → Option (List Char × List Char)
  /-- A match takes at least one character. -/
  shorter : ∀ {s found after}, match? s = some (found, after) → after.length < s.length

namespace Pattern

/-- What a pattern finds in a text, from left to right. -/
def findAll (p : Pattern) : List Char → List (List Char)
  | [] => []
  | c :: rest =>
    match h : p.match? (c :: rest) with
    | some (found, after) =>
      have := p.shorter h
      found :: p.findAll after
    | none => p.findAll rest
termination_by s => s.length
decreasing_by all_goals grind

end Pattern

/-- The characters behind a run are no more than there were. -/
theorem length_dropWhile_le {α : Type} (p : α → Bool) (s : List α) :
    (s.dropWhile p).length ≤ s.length :=
  (List.dropWhile_suffix p).length_le

end Phrasebook
