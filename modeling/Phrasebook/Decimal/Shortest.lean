import Phrasebook.Decimal.Binary64

/-!
# The shortest decimal of a double

Of all decimals that round to a double, the one with the fewest digits is written, and of those
the nearest. The search goes through grids of one digit, two digits and so on, and on each tests
the two neighbours of the exact value.
-/

namespace Phrasebook

/-- The number `digits * 10 ^ exponent`. -/
structure Decimal where
  digits : Nat
  exponent : Int
  deriving DecidableEq, Repr

namespace Decimal

/-- Compares `a * 10 ^ i` with `n * 2 ^ j`. -/
def compareScaled (a : Nat) (i : Int) (n : Nat) (j : Int) : Ordering :=
  compare (a * Binary64.above 10 i * Binary64.above 2 (-j))
    (n * Binary64.above 2 j * Binary64.above 10 (-i))

/-- Whether a decimal lies among the reals that round to `x`: those up to halfway to either
neighbour, the ends included where the significand is even. The neighbour below a power of two
is half as far away. -/
def ReadsBack (x : Binary64) (d : Decimal) : Bool :=
  let narrow := x.significand = Binary64.leastFull ∧ Binary64.minExponent < x.exponent
  let low := compareScaled d.digits d.exponent
    (if narrow then 4 * x.significand - 1 else 4 * x.significand - 2) (x.exponent - 2)
  let high := compareScaled d.digits d.exponent (4 * x.significand + 2) (x.exponent - 2)
  let even := x.significand % 2 = 0
  (low = .gt || (even && low = .eq)) && (high = .lt || (even && high = .eq))

/-- The least `k` with `x < 10 ^ k`, for a positive number. The binary logarithm gives it up to
two steps. -/
def scale (x : Binary64) : Int :=
  let bits : Int := x.significand.log2 + x.exponent
  let k := bits * 30103 / 100000
  let isAbove (k : Int) : Bool := compareScaled 1 k x.significand x.exponent = .gt
  if isAbove k then k else if isAbove (k + 1) then k + 1 else k + 2

/-- The greatest multiple of `10 ^ grid` up to `x`, counted in that unit. -/
def floorOn (x : Binary64) (grid : Int) : Nat :=
  x.significand * Binary64.above 2 x.exponent * Binary64.above 10 (-grid) /
    (Binary64.above 2 (-x.exponent) * Binary64.above 10 grid)

/-- The nearer of the two neighbours of `x` on a grid, among those that read back. -/
def onGrid? (x : Binary64) (grid : Int) : Option Decimal :=
  let c := floorOn x grid
  let below : Decimal := ⟨c, grid⟩
  let above : Decimal := ⟨c + 1, grid⟩
  match ReadsBack x below, ReadsBack x above with
  | true, false => some below
  | false, true => some above
  | false, false => none
  | true, true =>
    match compareScaled (2 * c + 1) grid (2 * x.significand) x.exponent with
    | .gt => some below
    | .lt => some above
    | .eq => some (if c % 2 = 0 then below else above)

/-- The same number without zeros at the end of its digits. -/
def strip (d : Decimal) : Decimal :=
  if d.digits ≠ 0 ∧ d.digits % 10 = 0 then strip ⟨d.digits / 10, d.exponent + 1⟩ else d
termination_by d.digits
decreasing_by omega

/-- The double itself, as a decimal. -/
def exact (x : Binary64) : Decimal :=
  ⟨x.significand * Binary64.above 2 x.exponent * Binary64.above 5 (-x.exponent),
    min x.exponent 0⟩

/-- The shortest decimal that rounds to `x`. -/
def shortest (x : Binary64) : Decimal :=
  if x.significand = 0 then ⟨0, 0⟩
  else
    let k := scale x
    strip (((List.range 17).findSome? (fun n => onGrid? x (k - (n + 1 : Nat)))).getD (exact x))

/-- The decimal exponent of the first digit. -/
def leadingExponent (d : Decimal) : Int :=
  d.exponent + ((Nat.toDigits 10 d.digits).length - 1 : Nat)

end Decimal

end Phrasebook
