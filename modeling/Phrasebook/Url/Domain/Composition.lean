import Phrasebook.Url.Domain.Composites
import Phrasebook.Url.Domain.Marks

/-!
# Composed text

A letter with marks can be written in several ways, as a composite or in parts, and a syllable of
Hangul as one character or as its letters. A domain name has the composed form: a text is taken
apart, its marks are put in the order of their classes, and then each starter takes up what can be
composed with it.
-/

namespace Phrasebook.Domain

/-- The first composed syllable of Hangul. -/
def hangulSyllables : Nat := 0xAC00

/-- The first letter that a syllable may begin with. -/
def leadingLetters : Nat := 0x1100

/-- The first letter that may stand second in a syllable. -/
def vowelLetters : Nat := 0x1161

/-- The one before the first letter that may end a syllable, which stands for none. -/
def trailingLetters : Nat := 0x11A7

/-- The two parts of a syllable of Hangul. -/
def syllableParts? (n : Nat) : Option (Nat × Nat) :=
  let i := n - hangulSyllables
  if n < hangulSyllables ∨ 19 * 21 * 28 ≤ i then none
  else if i % 28 = 0 then some (leadingLetters + i / 28 / 21, vowelLetters + i / 28 % 21)
  else some (n - i % 28, trailingLetters + i % 28)

/-- The syllable of Hangul that two parts make. -/
def syllable? (a b : Nat) : Option Nat :=
  if leadingLetters ≤ a ∧ a < leadingLetters + 19 ∧ vowelLetters ≤ b ∧ b < vowelLetters + 21 then
    some (hangulSyllables + ((a - leadingLetters) * 21 + (b - vowelLetters)) * 28)
  else if hangulSyllables ≤ a ∧ a < hangulSyllables + 19 * 21 * 28 ∧
      (a - hangulSyllables) % 28 = 0 ∧ trailingLetters < b ∧ b < trailingLetters + 28 then
    some (a + (b - trailingLetters))
  else none

/-- The two parts of a composite. -/
def parts? (n : Nat) : Option (Nat × Nat) :=
  match composites.find? (fun (_, _, composite) => composite = n) with
  | some (a, b, _) => some (a, b)
  | none => syllableParts? n

/-- The composite of two characters. -/
def composite? (a b : Char) : Option Char :=
  match composites.find? (fun (x, y, _) => x = a.toNat && y = b.toNat) with
  | some (_, _, n) => some (Char.ofNat n)
  | none => (syllable? a.toNat b.toNat).map Char.ofNat

/-- How often the first part of a composite is a composite again, at most. -/
def partDepth : Nat := 3

/-- The parts of a code point, down to those that have none. -/
def takeApart : Nat → Nat → List Nat
  | 0, n => [n]
  | depth + 1, n =>
    match parts? n with
    | some (a, b) => takeApart depth a ++ [b]
    | none => [n]

/-- A text with every composite taken apart. -/
def decompose (text : List Char) : List Char :=
  text.flatMap fun c => (takeApart partDepth c.toNat).map Char.ofNat

/-- Puts a character in front of a text whose marks are in order. A mark moves past those of lower
classes. -/
def insertMark (c : Char) : List Char → List Char
  | [] => [c]
  | d :: rest =>
    if 0 < markClass d ∧ markClass d < markClass c then d :: insertMark c rest else c :: d :: rest

/-- A text with its marks in order. Marks of one class keep theirs. -/
def orderMarks (text : List Char) : List Char := text.foldr insertMark []

/-- Whether a character can be seen from the starter across the marks that stay between them, of
which the last one has the highest class. -/
def isWithinReach (between : List Char) (c : Char) : Bool :=
  match between.getLast? with
  | some d => markClass d < markClass c
  | none => true

/-- The composed form of a starter, the marks that stay behind it, and a text. -/
def composeFrom (starter : Char) (between : List Char) : List Char → List Char
  | [] => starter :: between
  | c :: rest =>
    match if isWithinReach between c then composite? starter c else none with
    | some composite => composeFrom composite between rest
    | none =>
      if markClass c = 0 then starter :: (between ++ composeFrom c [] rest)
      else composeFrom starter (between ++ [c]) rest

/-- The composed form of a text whose marks are in order. -/
def composeAll : List Char → List Char
  | [] => []
  | c :: rest => if markClass c = 0 then composeFrom c [] rest else c :: composeAll rest

/-- The composed form of a text. -/
def compose (text : List Char) : List Char := composeAll (orderMarks (decompose text))

end Phrasebook.Domain
