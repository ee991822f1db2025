import Phrasebook.Decimal.Binary64
import Phrasebook.KeyMap

/-!
# JSON values

`Json` is what a JSON text says, with the members of an object in the order of the text and with
repeated keys. `Json.canonical` is what the text means: members in key order, of which a later one
wins over an earlier one of the same key.
-/

namespace Phrasebook

/-- The value of a JSON number. Whole numbers that fit 64 bits stay whole; all others are
doubles. -/
inductive JsonNumber
  /-- A whole number below `2 ^ 64`. -/
  | natural (n : Nat)
  /-- The number `-n`, for a positive `n` up to `2 ^ 63`. -/
  | negative (n : Nat)
  /-- A double with its sign, which a zero has too. -/
  | double (isNegative : Bool) (magnitude : Binary64)
  deriving DecidableEq, Repr

/-- A JSON value as its text gives it. -/
inductive Json
  | null
  | bool (b : Bool)
  | number (n : JsonNumber)
  | string (s : String)
  | array (items : List Json)
  | object (members : List (String × Json))
  deriving Repr, Inhabited

namespace Json

mutual

/-- The value with the members of each object in key order and without repeated keys. -/
def canonical : Json → Json
  | .array items => .array (canonicalItems items)
  | .object members => .object (KeyMap.ofList (canonicalMembers members))
  | v => v

/-- Items, each in its canonical form. -/
def canonicalItems : List Json → List Json
  | [] => []
  | v :: rest => v.canonical :: canonicalItems rest

/-- Members with the canonical form of each value, in the order of the text. -/
def canonicalMembers : List (String × Json) → List (String × Json)
  | [] => []
  | (k, v) :: rest => (k, v.canonical) :: canonicalMembers rest

end

end Json

end Phrasebook
