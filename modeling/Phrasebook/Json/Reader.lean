import Phrasebook.Json.Text

/-!
# Reading JSON

One pass over the bytes, which stops at the first byte that no JSON text has there. Arrays and
objects nest only so deep. `document` is a whole text; `value` is any value, and `object` an
object whose members are read by a reader of their own.
-/

namespace Phrasebook.Json

/-- How many arrays and objects may stand inside one another. -/
def maxDepth : Nat := 127

namespace Reader

/-- White space between the parts of a text. -/
def isSpace (b : UInt8) : Bool := b = 0x20 || b = 0x0A || b = 0x09 || b = 0x0D

/-- The bytes without white space in front. -/
def skipSpace (s : List UInt8) : List UInt8 := s.dropWhile isSpace

/-- The rest of a literal name of which some bytes are still expected. -/
def literal (v : Json) : List UInt8 → Reader Json
  | [], s => .ok (v, s)
  | _ :: _, [] => .error ⟨.endInValue, []⟩
  | e :: expected, b :: rest =>
    if b = e then literal v expected rest else .error ⟨.literalExpected, rest⟩

/-- Some values with commas between them, from the first one on, up to the byte that closes the
list. Each round reads at least a comma, so the length of the bytes bounds the rounds. -/
def listed {α : Type} (close : UInt8) (atEnd noComma : Problem) (item : Reader α) :
    Nat → Reader (List α)
  | 0, _ => .error ⟨atEnd, []⟩
  | rounds + 1, s => do
    let (v, s) ← item s
    match skipSpace s with
    | [] => .error ⟨atEnd, []⟩
    | b :: s =>
      if b = 0x2C then
        match skipSpace s with
        | [] => .error ⟨.endInValue, []⟩
        | c :: s =>
          if c = close then .error ⟨.trailingComma, s⟩
          else do
            let (vs, s) ← listed close atEnd noComma item rounds (c :: s)
            .ok (v :: vs, s)
      else if b = close then .ok ([v], s)
      else .error ⟨noComma, s⟩

/-- A list, which may be empty, after the byte that opens it. -/
def enclosed {α : Type} (close : UInt8) (atEnd noComma : Problem) (item : Reader α) :
    Reader (List α) := fun s =>
  match skipSpace s with
  | [] => .error ⟨atEnd, []⟩
  | b :: s =>
    if b = close then .ok ([], s) else listed close atEnd noComma item (s.length + 1) (b :: s)

/-- An array, after its opening bracket. -/
def array {α : Type} (item : Reader α) : Reader (List α) :=
  enclosed 0x5D .endInArray .commaOrArrayEndExpected item

/-- A member of an object. -/
def member {α : Type} (item : Reader α) : Reader (String × α)
  | [] => .error ⟨.endInValue, []⟩
  | q :: s =>
    if q = 0x22 then do
      let (key, s) ← text s
      match skipSpace s with
      | [] => .error ⟨.endInObject, []⟩
      | b :: s =>
        if b = 0x3A then do
          let (v, s) ← item s
          .ok ((key, v), s)
        else .error ⟨.colonExpected, s⟩
    else .error ⟨.keyNotString, s⟩

/-- An object, after its opening brace. -/
def object {α : Type} (item : Reader α) : Reader (List (String × α)) :=
  enclosed 0x7D .endInObject .commaOrObjectEndExpected (member item)

/-- A value in which `room` arrays and objects may stand inside one another. -/
def value (room : Nat) : Reader Json := fun s =>
  match skipSpace s with
  | [] => .error ⟨.endInValue, []⟩
  | b :: s =>
    if b = 0x6E then literal .null [0x75, 0x6C, 0x6C] s
    else if b = 0x74 then literal (.bool true) [0x72, 0x75, 0x65] s
    else if b = 0x66 then literal (.bool false) [0x61, 0x6C, 0x73, 0x65] s
    else if b = 0x2D ∨ isDigit b then (number (b :: s)).map (fun p => (.number p.1, p.2))
    else if b = 0x22 then (text s).map (fun p => (.string p.1, p.2))
    else if b = 0x5B then
      match room with
      | 0 => .error ⟨.tooDeep, s⟩
      | room + 1 => (array (value room) s).map (fun p => (.array p.1, p.2))
    else if b = 0x7B then
      match room with
      | 0 => .error ⟨.tooDeep, s⟩
      | room + 1 => (object (value room) s).map (fun p => (.object p.1, p.2))
    else .error ⟨.valueExpected, s⟩

/-- A whole text, in which nothing but white space follows the value. -/
def document {α : Type} (read : Reader α) (bytes : List UInt8) : Except Error α :=
  match read bytes with
  | .error f => .error (f.toError bytes)
  | .ok (v, s) =>
    match skipSpace s with
    | [] => .ok v
    | _ :: s => .error (Fault.toError bytes ⟨.trailingCharacters, s⟩)

end Reader

/-- The value of a whole text. -/
def ofBytes (bytes : List UInt8) : Except Error Json :=
  Reader.document (Reader.value maxDepth) bytes

end Phrasebook.Json
