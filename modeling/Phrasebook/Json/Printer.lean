import Phrasebook.Decimal.Shortest
import Phrasebook.Json.Basic
import Phrasebook.Text.Quoted

/-!
# Writing JSON

Compact text: no white space, members in the order of the value. Only a quote, a backslash and the
characters below the space are escaped in a string. A double has a point or an exponent, so that
it does not read as a whole number.
-/

namespace Phrasebook

namespace Decimal

/-- Exponents of the first digit from which on a number is written without an exponent. -/
def plainFrom : Int := -5

/-- Exponents of the first digit up to which a number is written without an exponent. -/
def plainTo : Int := 15

/-- A decimal as text: `12.5`, `1200.0`, `0.0012`, and `1.2e+30` or `1.2e-30` outside the plain
range. -/
def render (d : Decimal) : List Char :=
  let digits := Nat.toDigits 10 d.digits
  let lead := d.leadingExponent
  if plainFrom ≤ lead ∧ lead ≤ plainTo then
    if 0 ≤ d.exponent then digits ++ List.replicate d.exponent.toNat '0' ++ ['.', '0']
    else if 0 ≤ lead then
      digits.take (lead.toNat + 1) ++ '.' :: digits.drop (lead.toNat + 1)
    else '0' :: '.' :: List.replicate ((-lead).toNat - 1) '0' ++ digits
  else
    let mantissa := if digits.length ≤ 1 then digits else digits.take 1 ++ '.' :: digits.drop 1
    mantissa ++ 'e' :: (if 0 ≤ lead then '+' else '-') :: Nat.toDigits 10 lead.natAbs

end Decimal

namespace Binary64

/-- The shortest text that reads back to a double. -/
def render (x : Binary64) : List Char := (Decimal.shortest x).render

end Binary64

/-- A number as text. -/
def JsonNumber.render : JsonNumber → List Char
  | .natural n => Nat.toDigits 10 n
  | .negative n => '-' :: Nat.toDigits 10 n
  | .double isNegative x => if isNegative then '-' :: x.render else x.render

namespace Json

/-- A character inside a JSON string. -/
def escaped (c : Char) : List Char :=
  match c with
  | '"' => ['\\', '"']
  | '\\' => ['\\', '\\']
  | '\x08' => ['\\', 'b']
  | '\t' => ['\\', 't']
  | '\n' => ['\\', 'n']
  | '\x0c' => ['\\', 'f']
  | '\r' => ['\\', 'r']
  | c =>
    if c.toNat < 0x20 then
      ['\\', 'u', '0', '0'] ++ (if c.toNat < 0x10 then ['0'] else []) ++ Text.hexDigits c.toNat
    else [c]

/-- A string as JSON text. -/
def renderString (s : String) : List Char := '"' :: s.toList.flatMap escaped ++ ['"']

mutual

/-- A value as JSON text. -/
def renderChars : Json → List Char
  | .null => "null".toList
  | .bool b => if b then "true".toList else "false".toList
  | .number n => n.render
  | .string s => renderString s
  | .array items => '[' :: renderItems items ++ [']']
  | .object members => '\x7b' :: renderMembers members ++ ['\x7d']

/-- The items of an array, with commas between them. -/
def renderItems : List Json → List Char
  | [] => []
  | [v] => v.renderChars
  | v :: rest => v.renderChars ++ ',' :: renderItems rest

/-- The members of an object, with commas between them. -/
def renderMembers : List (String × Json) → List Char
  | [] => []
  | [(k, v)] => renderString k ++ ':' :: v.renderChars
  | (k, v) :: rest => renderString k ++ ':' :: v.renderChars ++ ',' :: renderMembers rest

end

/-- A value as JSON text. -/
def render (v : Json) : String := String.ofList v.renderChars

end Json

end Phrasebook
