import Phrasebook.KeyMap
import Phrasebook.Validation.Pattern

/-!
# Links between messages

A message refers to another by `@:key` or `@:(key)`, with a modifier in `@.lower:key`. The key is
the run of key characters behind the colon less the dots at its end, so that a link may close a
sentence.
-/

namespace Phrasebook.Link

/-- A character of a key. -/
def isKeyChar (c : Char) : Bool := c.isAlphanum || c = '_' || c = '.' || c = '-'

/-- The text behind a modifier, if there is one: a dot and one or more small letters. -/
def skipModifier : List Char → List Char
  | [] => []
  | c :: s =>
    if c = '.' ∧ s.takeWhile Char.isLower ≠ [] then s.dropWhile Char.isLower else c :: s

/-- The text behind an opening parenthesis, if there is one. -/
def skipOpening : List Char → List Char
  | [] => []
  | c :: s => if c = '(' then s else c :: s

/-- A key without the dots at its end. -/
def trimDots (key : List Char) : List Char := (key.reverse.dropWhile (· = '.')).reverse

/-- The key of a link at the front of a text, and the text behind its run of key characters. -/
def match? : List Char → Option (List Char × List Char)
  | [] => none
  | c :: s =>
    if c ≠ '@' then none
    else
      match skipModifier s with
      | colon :: s =>
        if colon ≠ ':' then none
        else
          let s := skipOpening s
          let key := trimDots (s.takeWhile isKeyChar)
          if key = [] then none else some (key, s.dropWhile isKeyChar)
      | [] => none

/-- Behind a modifier there is no more text than there was. -/
theorem length_skipModifier_le (s : List Char) : (skipModifier s).length ≤ s.length := by
  cases s with
  | nil => simp [skipModifier]
  | cons c s =>
    rw [skipModifier]
    split
    · have := length_dropWhile_le Char.isLower s
      simp only [List.length_cons]
      omega
    · simp

/-- Behind a parenthesis there is no more text than there was. -/
theorem length_skipOpening_le (s : List Char) : (skipOpening s).length ≤ s.length := by
  cases s with
  | nil => simp [skipOpening]
  | cons c s =>
    rw [skipOpening]
    split <;> simp

/-- A match takes some characters, so the search gets on. -/
theorem length_lt_of_match? {s found after : List Char} (h : match? s = some (found, after)) :
    after.length < s.length := by
  unfold match? at h
  split at h
  · simp at h
  · rename_i c s
    split at h
    · simp at h
    · split at h
      · rename_i colon rest hrest
        have h1 := length_skipModifier_le s
        have h2 := length_skipOpening_le rest
        have h3 := length_dropWhile_le isKeyChar (skipOpening rest)
        rw [hrest] at h1
        split at h
        · simp at h
        · dsimp only at h
          split at h
          · simp at h
          · simp only [Option.some.injEq, Prod.mk.injEq] at h
            rw [← h.2]
            simp only [List.length_cons] at *
            omega
      · simp at h

/-- The form of a link. -/
def pattern : Pattern := ⟨match?, length_lt_of_match?⟩

/-- The keys that a text links to. -/
def keys (text : String) : List String :=
  KeySet.ofList ((pattern.findAll text.toList).map String.ofList)

/-- The keys of the links in a text are in order. -/
theorem ordered_keys (text : String) : KeySet.Ordered (keys text) := KeySet.ordered_ofList _

end Phrasebook.Link
