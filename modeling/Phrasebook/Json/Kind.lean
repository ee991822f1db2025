import Phrasebook.Json.Printer
import Phrasebook.Json.Reader

/-!
# Texts whose value has to be of one kind

Some texts have to hold a string or an object. A value of another kind is described in the error,
where a scalar is read in full first and an array or object only opened.
-/

namespace Phrasebook.Json

/-- What a value of the wrong kind is called. -/
def describe : Json → String
  | .null => "null"
  | .bool b => s!"boolean \x60{b}\x60"
  | .number (.double isNegative x) =>
    s!"floating point \x60{String.ofList (JsonNumber.render (.double isNegative x))}\x60"
  | .number n => s!"integer \x60{String.ofList n.render}\x60"
  | .string s => s!"string {Text.quoted s}"
  | .array _ => "sequence"
  | .object _ => "map"

namespace Reader

/-- Refuses a value that is not of the kind expected. -/
def refuse {α : Type} (expected : String) : Reader α := fun s =>
  match skipSpace s with
  | [] => .error ⟨.endInValue, []⟩
  | b :: rest =>
    if b = 0x5B then .error ⟨.wrongKind (describe (.array [])) expected, b :: rest⟩
    else if b = 0x7B then .error ⟨.wrongKind (describe (.object [])) expected, b :: rest⟩
    else do
      let (v, rest) ← value 0 (b :: rest)
      .error ⟨.wrongKind (describe v) expected, rest⟩

/-- A string. -/
def expectString : Reader String := fun s =>
  match skipSpace s with
  | b :: rest => if b = 0x22 then text rest else refuse "a string" (b :: rest)
  | [] => refuse "a string" []

/-- An object with members read by a reader of their own. -/
def expectObject {α : Type} (item : Reader α) : Reader (List (String × α)) := fun s =>
  match skipSpace s with
  | b :: rest => if b = 0x7B then object item rest else refuse "a map" (b :: rest)
  | [] => refuse "a map" []

end Reader

/-- The string that a whole text holds. -/
def stringOfBytes (bytes : List UInt8) : Except Error String :=
  Reader.document Reader.expectString bytes

/-- The members of the object that a whole text holds. -/
def membersOfBytes (bytes : List UInt8) : Except Error (List (String × Json)) :=
  Reader.document (Reader.expectObject (Reader.value (maxDepth - 1))) bytes

end Phrasebook.Json
