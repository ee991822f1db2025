import Phrasebook.Json.Basic
import Phrasebook.Json.Fault

/-!
# Numbers in JSON texts

A number keeps the first digits that fit 64 bits and counts the others into its exponent. Without
fraction and exponent it is whole; otherwise the digits are rounded to a double and then scaled by
the double nearest to the power of ten.
-/

namespace Phrasebook.Json

/-- A reader takes a value from the front of some bytes and gives the bytes after it. -/
abbrev Reader (α : Type) := List UInt8 → Except Fault (α × List UInt8)

/-- A decimal digit. -/
def isDigit (b : UInt8) : Bool := 0x30 ≤ b && b ≤ 0x39

/-- The value of a decimal digit. -/
def digitValue (b : UInt8) : Nat := b.toNat - 0x30

/-- The mark of an exponent. -/
def isExponentMark (b : UInt8) : Bool := b = 0x65 || b = 0x45

namespace Numeral

/-- The greatest number that the digits may make up, `2 ^ 64 - 1`. -/
def maxSignificand : Nat := 18446744073709551615

/-- The greatest exponent that is written out, `2 ^ 31 - 1`. -/
def maxExponent : Nat := 2147483647

/-- The greatest number that keeps its sign and stays whole, `2 ^ 63`. -/
def maxNegative : Nat := 9223372036854775808

/-- Appends digits to a number while it fits, and counts the digits that are left over. -/
def absorb (significand : Nat) : List UInt8 → Nat × Nat
  | [] => (significand, 0)
  | d :: rest =>
    let next := significand * 10 + digitValue d
    if next ≤ maxSignificand then absorb next rest else (significand, rest.length + 1)

/-- The double nearest to a number of 64 bits. -/
def toDouble (significand : Nat) : Binary64 := (Binary64.ofNat? significand).getD Binary64.zero

/-- A number without fraction and exponent. One too small for 63 bits and a sign is a double, and
so is a zero with a sign. -/
def whole (isNegative : Bool) (significand : Nat) : JsonNumber :=
  if isNegative then
    if 0 < significand ∧ significand ≤ maxNegative then .negative significand
    else .double true (toDouble significand)
  else .natural significand

/-- The double for a significand and a power of ten. -/
def scaled (isNegative : Bool) (significand : Nat) (exponent : Int) : Reader JsonNumber := fun s =>
  match (toDouble significand).scaleByTen? exponent with
  | some x => .ok (.double isNegative x, s)
  | none => .error ⟨.numberOutOfRange, s⟩

/-- The digits of an exponent, or none once they pass the greatest one. The bytes given back in
that case start after the digit that went too far. -/
def exponentDigits (exponent : Nat) : List UInt8 → Option Nat × List UInt8
  | [] => (some exponent, [])
  | d :: rest =>
    if isDigit d then
      let next := exponent * 10 + digitValue d
      if next ≤ maxExponent then exponentDigits next rest else (none, rest)
    else (some exponent, d :: rest)

/-- The sign of an exponent, which may be left out. -/
def exponentSign : List UInt8 → Bool × List UInt8
  | b :: rest =>
    if b = 0x2B then (false, rest) else if b = 0x2D then (true, rest) else (false, b :: rest)
  | [] => (false, [])

/-- The part after the mark of an exponent. -/
def exponent (isNegative : Bool) (significand : Nat) (start : Int) : Reader JsonNumber := fun s =>
  let (isBelow, s) := exponentSign s
  match s with
  | [] => .error ⟨.endInValue, []⟩
  | b :: rest =>
    if isDigit b then
      match exponentDigits (digitValue b) rest with
      | (some e, rest) =>
        scaled isNegative significand (if isBelow then start - e else start + e) rest
      | (none, rest) =>
        if significand = 0 ∨ isBelow then
          .ok (.double isNegative Binary64.zero, rest.dropWhile isDigit)
        else .error ⟨.numberOutOfRange, rest⟩
    else .error ⟨.malformedNumber, rest⟩

/-- The part after the point of a fraction. -/
def fraction (isNegative : Bool) (significand : Nat) (start : Int) : Reader JsonNumber := fun s =>
  let digits := s.takeWhile isDigit
  let rest := s.dropWhile isDigit
  if digits.isEmpty then
    .error ⟨if rest.isEmpty then .endInValue else .malformedNumber, rest.drop 1⟩
  else
    let (significand, left) := absorb significand digits
    let e := start - (digits.length - left : Nat)
    match rest with
    | b :: after =>
      if isExponentMark b then exponent isNegative significand e after
      else scaled isNegative significand e rest
    | [] => scaled isNegative significand e []

/-- The part after the whole digits, of which `left` did not fit the significand. -/
def afterWhole (isNegative : Bool) (significand left : Nat) : Reader JsonNumber := fun s =>
  let plain : Except Fault (JsonNumber × List UInt8) :=
    if left = 0 then .ok (whole isNegative significand, s)
    else scaled isNegative significand left s
  match s with
  | b :: rest =>
    if b = 0x2E then fraction isNegative significand left rest
    else if isExponentMark b then exponent isNegative significand left rest
    else plain
  | [] => plain

/-- A number after its sign. No digit follows a zero that comes first. -/
def unsigned (isNegative : Bool) : Reader JsonNumber
  | [] => .error ⟨.endInValue, []⟩
  | b :: rest =>
    if b = 0x30 then
      match rest with
      | d :: after =>
        if isDigit d then .error ⟨.malformedNumber, after⟩ else afterWhole isNegative 0 0 rest
      | [] => afterWhole isNegative 0 0 rest
    else if isDigit b then
      let (significand, left) := absorb 0 (b :: rest.takeWhile isDigit)
      afterWhole isNegative significand left (rest.dropWhile isDigit)
    else .error ⟨.malformedNumber, rest⟩

end Numeral

/-- A number. -/
def Reader.number : Reader JsonNumber
  | b :: rest => if b = 0x2D then Numeral.unsigned true rest else Numeral.unsigned false (b :: rest)
  | [] => Numeral.unsigned false []

end Phrasebook.Json
