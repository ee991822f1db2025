import Phrasebook.Text.Characters
import Phrasebook.Text.Utf8

/-!
# Percent-encoding

Each part of a URL has a set of bytes that it cannot hold as they are. They are written as a
percent sign and two digits in base 16. All sets hold the controls and every byte past ASCII.
-/

namespace Phrasebook.Percent

/-- The bytes that a part of a URL escapes. -/
abbrev EscapeSet := UInt8 → Bool

/-- Controls and bytes past ASCII. -/
def controls : EscapeSet := fun b => b < 0x20 || 0x7F ≤ b

/-- The bytes that a fragment escapes: a space, quotes, angle brackets and the grave accent. -/
def inFragment : EscapeSet := fun b => controls b || b ∈ [0x20, 0x22, 0x3C, 0x3E, 0x60]

/-- The bytes that a query escapes. -/
def inQuery : EscapeSet := fun b => controls b || b ∈ [0x20, 0x22, 0x23, 0x3C, 0x3E]

/-- The bytes that the query of a special URL escapes, among them the single quote. -/
def inSpecialQuery : EscapeSet := fun b => inQuery b || b = 0x27

/-- The bytes that a path escapes: those of a fragment, the number sign, the question mark and
braces. -/
def inPath : EscapeSet := fun b => inFragment b || b ∈ [0x23, 0x3F, 0x7B, 0x7D]

/-- The bytes that user name and password escape. -/
def inUserInfo : EscapeSet := fun b =>
  inPath b || b ∈ [0x2F, 0x3A, 0x3B, 0x3D, 0x40, 0x5B, 0x5C, 0x5D, 0x5E, 0x7C]

/-- The bytes that a single segment of a path escapes: also the slash and the percent sign. -/
def inSegment : EscapeSet := fun b => inPath b || b ∈ [0x2F, 0x25]

/-- The bytes that a segment of a special URL escapes: also the backslash, which would read as a
slash there. -/
def inSpecialSegment : EscapeSet := fun b => inSegment b || b = 0x5C

/-- A byte as it stands in a URL. -/
def encodeByte (escapes : EscapeSet) (b : UInt8) : List Char :=
  if escapes b then ['%', Hex.digit (b.toNat / 16), Hex.digit (b.toNat % 16)]
  else [Char.ofNat b.toNat]

/-- Some bytes as they stand in a URL. -/
def encodeBytes (escapes : EscapeSet) (bytes : List UInt8) : List Char :=
  bytes.flatMap (encodeByte escapes)

/-- A text as it stands in a URL. -/
def encode (escapes : EscapeSet) (text : List Char) : List Char :=
  encodeBytes escapes (Utf8.encode text)

/-- The bytes that a part of a URL stands for. A percent sign without two digits stands for
itself. -/
def decodeBytes : List UInt8 → List UInt8
  | [] => []
  | [a] => [a]
  | [a, b] => [a, b]
  | a :: b :: c :: rest =>
    match decide (a = 0x25), Hex.value? b, Hex.value? c with
    | true, some x, some y => (x * 16 + y).toUInt8 :: decodeBytes rest
    | _, _, _ => a :: decodeBytes (b :: c :: rest)

/-- The bytes that a part of a URL stands for. -/
def decode (text : List Char) : List UInt8 := decodeBytes (Utf8.encode text)

end Phrasebook.Percent
