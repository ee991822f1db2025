/-!
# Classes of characters

Properties of characters are tables of closed ranges of code points, each ascending and without
overlaps. White space is such a table, of the 25 characters with the White_Space property. Digits in
base 16 are read from bytes, with letters in either case, and written with letters in upper case.
-/

namespace Phrasebook

namespace Text

/-! ### Tables of code points -/

/-- Whether a character is in one of some closed ranges. -/
def isIn (ranges : List (Nat × Nat)) (c : Char) : Bool :=
  ranges.any (fun (first, last) => first ≤ c.toNat && c.toNat ≤ last)

/-- What a table of closed ranges says of a character, if it says anything. -/
def valueIn? {α : Type} (ranges : List (Nat × Nat × α)) (c : Char) : Option α :=
  (ranges.find? (fun (first, last, _) => first ≤ c.toNat && c.toNat ≤ last)).map
    (fun (_, _, value) => value)

/-! ### White space -/

/-- Closed ranges of white space, ascending and apart. -/
def blankRanges : List (Nat × Nat) :=
  [(0x09, 0x0D), (0x20, 0x20), (0x85, 0x85), (0xA0, 0xA0), (0x1680, 0x1680), (0x2000, 0x200A),
   (0x2028, 0x2029), (0x202F, 0x202F), (0x205F, 0x205F), (0x3000, 0x3000)]

/-- Whether a character has the White_Space property. -/
def isBlank (c : Char) : Bool :=
  blankRanges.any (fun r => r.1 ≤ c.toNat && c.toNat ≤ r.2)

/-- A text without the white space at its end. -/
def trimEnd (s : List Char) : List Char := (s.reverse.dropWhile isBlank).reverse

end Text

/-! ### Digits in base 16 -/

namespace Hex

/-- The value of a digit. -/
def value? (b : UInt8) : Option Nat :=
  if 0x30 ≤ b && b ≤ 0x39 then some (b.toNat - 0x30)
  else if 0x41 ≤ b && b ≤ 0x46 then some (b.toNat - 0x41 + 10)
  else if 0x61 ≤ b && b ≤ 0x66 then some (b.toNat - 0x61 + 10)
  else none

/-- The digit of a value below 16. -/
def digit (n : Nat) : Char := Char.ofNat (if n < 10 then 0x30 + n else 0x41 + (n - 10))

/-- The digits are characters below 128, which are one byte each. -/
theorem toNat_digit_lt {n : Nat} (h : n < 16) : (digit n).toNat < 0x80 := by
  revert n
  decide

/-- A digit is read as the value that it was written for. -/
theorem value?_digit {n : Nat} (h : n < 16) : value? (UInt8.ofNat (digit n).toNat) = some n := by
  revert n
  decide

end Hex

end Phrasebook
