/-!
# Binary floating point in exact arithmetic

The finite non-negative doubles, with the operations that decimals and rates need. Every
operation computes its exact result as a quotient of natural numbers and rounds it once, to
nearest and to even on a tie; a result past the greatest double is `none`.
-/

namespace Phrasebook

/-- The number `significand * 2 ^ exponent`. Results of `roundRatio?` are in normal form: the
significand has 53 bits, or the exponent is the least one, `-1074`. -/
structure Binary64 where
  significand : Nat
  exponent : Int
  deriving DecidableEq, Repr

namespace Binary64

/-- The least exponent, that of the subnormal numbers. -/
def minExponent : Int := -1074

/-- The greatest exponent of a finite number. -/
def maxExponent : Int := 971

/-- Significands in normal form are below `2 ^ 53`. -/
def significandLimit : Nat := 9007199254740992

/-- The least significand of 53 bits, `2 ^ 52`. -/
def leastFull : Nat := 4503599627370496

/-- The double for zero. -/
def zero : Binary64 := ⟨0, minExponent⟩

/-- The part of `base ^ e` above the line of a fraction: the power itself for a positive exponent,
and one for any other. The part below the line is that of `-e`. -/
def above (base : Nat) (e : Int) : Nat := Nat.pow base e.toNat

/-- A quotient rounded to the nearest natural number, and to the even one on a tie. -/
def roundDiv (num den : Nat) : Nat :=
  let q := num / den
  let r := num % den
  if 2 * r < den then q
  else if den < 2 * r then q + 1
  else if q % 2 = 0 then q else q + 1

/-- The greatest `e` with `2 ^ e ≤ num / den`, for positive numbers. -/
def floorLog2 (num den : Nat) : Int :=
  let e : Int := (num.log2 : Int) - den.log2
  if den * above 2 e ≤ num * above 2 (-e) then e else e - 1

/-- The double nearest to `num / den`. -/
def roundRatio? (num den : Nat) : Option Binary64 :=
  if num = 0 then some zero
  else
    let e := max minExponent (floorLog2 num den - 52)
    let m := roundDiv (num * above 2 (-e)) (den * above 2 e)
    let (m, e) := if m = significandLimit then (leastFull, e + 1) else (m, e)
    if e ≤ maxExponent then some ⟨m, e⟩ else none

/-- The double nearest to a natural number. -/
def ofNat? (n : Nat) : Option Binary64 := roundRatio? n 1

/-- The double nearest to a product, if that is in range. -/
def mul? (a b : Binary64) : Option Binary64 :=
  let e := a.exponent + b.exponent
  roundRatio? (a.significand * b.significand * above 2 e) (above 2 (-e))

/-- The double nearest to a quotient, if that is in range. -/
def div? (a b : Binary64) : Option Binary64 :=
  let e := a.exponent - b.exponent
  roundRatio? (a.significand * above 2 e) (b.significand * above 2 (-e))

/-- The greatest power of ten below the greatest double. -/
def maxPower : Nat := 308

/-- The double nearest to a power of ten. -/
def powerOfTen? (k : Nat) : Option Binary64 := ofNat? (Nat.pow 10 k)

/-- A double times a power of ten, by one operation with the nearest double to that power. A
negative power past the greatest one is applied in steps, until nothing is left of the number. -/
def scaleByTen? (x : Binary64) (k : Int) : Option Binary64 :=
  if k.natAbs ≤ maxPower then
    (powerOfTen? k.natAbs).bind (if 0 ≤ k then mul? x else div? x)
  else if x.significand = 0 then some x
  else if 0 ≤ k then none
  else ((powerOfTen? maxPower).bind (div? x)).bind (fun y => scaleByTen? y (k + maxPower))
termination_by k.natAbs
decreasing_by simp only [maxPower] at *; omega

/-- The percentage that `part` is of `whole`, and zero of nothing. Both operations round. -/
def percentage (part whole : Nat) : Binary64 :=
  if whole = 0 then zero
  else
    (do
      let quotient ← div? (← ofNat? part) (← ofNat? whole)
      mul? quotient (← ofNat? 100)).getD zero

end Binary64

end Phrasebook
