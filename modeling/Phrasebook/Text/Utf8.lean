/-!
# UTF-8

Characters read from bytes one at a time, so that a reader can say where a byte sequence stops
being text. `next?` is the step, `decode?` the whole text, and `lossy` the text with a
replacement character for each ill-formed stretch.
-/

namespace Phrasebook.Utf8

/-- A byte that continues a character. -/
def isTail (b : UInt8) : Bool := 0x80 ≤ b && b ≤ 0xBF

/-- The second byte of a character of three or four bytes, given its first. Four lead bytes
restrict it: below `A0` and `90` the form would be too long, above `9F` it would name a surrogate
and above `8F` a number past the last character. -/
def isSecond (lead b : UInt8) : Bool :=
  (if lead = 0xE0 then 0xA0 else if lead = 0xF0 then 0x90 else 0x80) ≤ b &&
    b ≤ (if lead = 0xED then 0x9F else if lead = 0xF4 then 0x8F else 0xBF)

/-- The payload of a tail byte. -/
def payload (b : UInt8) : Nat := b.toNat - 0x80

/-- The first character of a byte sequence and the bytes after it, if the sequence starts with a
well-formed character. -/
def next? : List UInt8 → Option (Char × List UInt8)
  | [] => none
  | a :: rest =>
    if a < 0x80 then some (Char.ofNat a.toNat, rest)
    else if 0xC2 ≤ a && a ≤ 0xDF then
      match rest with
      | b :: rest =>
        if isTail b then some (Char.ofNat ((a.toNat - 0xC0) * 64 + payload b), rest) else none
      | _ => none
    else if 0xE0 ≤ a && a ≤ 0xEF then
      match rest with
      | b :: c :: rest =>
        if isSecond a b && isTail c then
          some (Char.ofNat (((a.toNat - 0xE0) * 64 + payload b) * 64 + payload c), rest)
        else none
      | _ => none
    else if 0xF0 ≤ a && a ≤ 0xF4 then
      match rest with
      | b :: c :: d :: rest =>
        if isSecond a b && isTail c && isTail d then
          some (Char.ofNat
            ((((a.toNat - 0xF0) * 64 + payload b) * 64 + payload c) * 64 + payload d), rest)
        else none
      | _ => none
    else none

/-- Reading a character uses up at least one byte. -/
theorem length_lt_of_next? {s r : List UInt8} {c : Char} (h : next? s = some (c, r)) :
    r.length < s.length := by
  unfold next? at h
  split at h
  · simp at h
  · repeat' split at h
    all_goals simp_all
    all_goals omega

/-- The characters of a byte sequence that is well formed throughout. -/
def decode? (s : List UInt8) : Option (List Char) :=
  if s.isEmpty then some []
  else
    match h : next? s with
    | none => none
    | some (c, r) =>
      have := length_lt_of_next? h
      (decode? r).map (c :: ·)
termination_by s.length

/-- How many bytes one replacement character stands for: the longest start of a character that
the sequence opens with, and one byte where there is none. -/
def brokenLength : List UInt8 → Nat
  | a :: b :: c :: _ =>
    if 0xF0 ≤ a && a ≤ 0xF4 && isSecond a b && isTail c then 3
    else if 0xE0 ≤ a && a ≤ 0xF4 && isSecond a b then 2 else 1
  | a :: b :: _ => if 0xE0 ≤ a && a ≤ 0xF4 && isSecond a b then 2 else 1
  | _ => 1

/-- One byte at least is passed over where bytes are broken, so decoding gets on. -/
theorem brokenLength_pos (s : List UInt8) : 0 < brokenLength s := by
  unfold brokenLength
  repeat' split
  all_goals omega

/-- Passing over an ill-formed stretch uses up at least one byte. -/
theorem length_sub_brokenLength_lt {s : List UInt8} (h : s ≠ []) :
    s.length - brokenLength s < s.length := by
  have := brokenLength_pos s
  have := List.length_pos_iff.mpr h
  omega

/-- The characters of any byte sequence, with U+FFFD for each ill-formed stretch. -/
def lossy (s : List UInt8) : List Char :=
  if hs : s = [] then []
  else
    match h : next? s with
    | some (c, r) =>
      have := length_lt_of_next? h
      c :: lossy r
    | none =>
      have := length_sub_brokenLength_lt hs
      '\uFFFD' :: lossy (s.drop (brokenLength s))
termination_by s.length

/-- The bytes of a text. -/
def encode (text : List Char) : List UInt8 := text.flatMap String.utf8EncodeChar

/-- The bytes of a string. -/
def ofString (s : String) : List UInt8 := encode s.toList

/-- The string that a well-formed byte sequence holds. -/
def toString? (s : List UInt8) : Option String := (decode? s).map String.ofList

end Phrasebook.Utf8
