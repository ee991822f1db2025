/-!
# What can be wrong with a JSON text

A reader that fails names the problem and the bytes it had not passed. Line and column of the
message follow from those: lines are counted from one, columns in bytes.
-/

namespace Phrasebook.Json

/-- The ways in which a text is not the JSON that was asked for. -/
inductive Problem
  | endInValue
  | endInString
  | endInArray
  | endInObject
  | valueExpected
  | literalExpected
  | colonExpected
  | commaOrArrayEndExpected
  | commaOrObjectEndExpected
  | keyNotString
  | trailingComma
  | trailingCharacters
  | malformedNumber
  | numberOutOfRange
  | malformedEscape
  | loneSurrogate
  | endInEscape
  | malformedText
  | controlCharacter
  | tooDeep
  /-- A value of another kind than the one expected. -/
  | wrongKind (found expected : String)
  /-- A value that is JSON, but no entry of a message catalog. -/
  | notAnEntry
  deriving DecidableEq, Repr

/-- The text of a problem. -/
def Problem.message : Problem → String
  | .endInValue => "EOF while parsing a value"
  | .endInString => "EOF while parsing a string"
  | .endInArray => "EOF while parsing a list"
  | .endInObject => "EOF while parsing an object"
  | .valueExpected => "expected value"
  | .literalExpected => "expected ident"
  | .colonExpected => "expected \x60:\x60"
  | .commaOrArrayEndExpected => "expected \x60,\x60 or \x60]\x60"
  | .commaOrObjectEndExpected => "expected \x60,\x60 or \x60\x7d\x60"
  | .keyNotString => "key must be a string"
  | .trailingComma => "trailing comma"
  | .trailingCharacters => "trailing characters"
  | .malformedNumber => "invalid number"
  | .numberOutOfRange => "number out of range"
  | .malformedEscape => "invalid escape"
  | .loneSurrogate => "lone leading surrogate in hex escape"
  | .endInEscape => "unexpected end of hex escape"
  | .malformedText => "invalid unicode code point"
  | .controlCharacter => "control character (\\u0000-\\u001F) found while parsing a string"
  | .tooDeep => "recursion limit exceeded"
  | .wrongKind found expected => s!"invalid type: {found}, expected {expected}"
  | .notAnEntry => "data did not match any variant of untagged enum CatalogEntry"

/-- A problem and the bytes that were not passed when it was met. -/
structure Fault where
  problem : Problem
  rest : List UInt8
  deriving DecidableEq, Repr

/-- A place in a text. -/
structure Position where
  line : Nat
  column : Nat
  deriving DecidableEq, Repr

/-- The place after some bytes. -/
def Position.after (bytes : List UInt8) : Position where
  line := 1 + bytes.count 0x0A
  column := (bytes.reverse.takeWhile (· ≠ 0x0A)).length

/-- Why a JSON text was refused, and where if the place is known. -/
structure Error where
  problem : Problem
  position : Option Position
  deriving DecidableEq, Repr

/-- The error of a fault met in a text. -/
def Fault.toError (text : List UInt8) (f : Fault) : Error where
  problem := f.problem
  position := some (.after (text.take (text.length - f.rest.length)))

/-- The text of an error. -/
def Error.message (e : Error) : String :=
  match e.position with
  | none => e.problem.message
  | some p => s!"{e.problem.message} at line {p.line} column {p.column}"

end Phrasebook.Json
