import Phrasebook.Json.Numeral
import Phrasebook.Text.Characters
import Phrasebook.Text.Utf8

/-!
# Strings in JSON texts

The part of a string after its opening quote. Escapes stand for one character each; a character
past the 16-bit ones takes two of the numbered escapes. Bytes that are no text are reported when
the string closes.
-/

namespace Phrasebook.Json.Reader

/-- Four digits in base 16. -/
def hexQuad : Reader Nat
  | a :: b :: c :: d :: rest =>
    match Hex.value? a, Hex.value? b, Hex.value? c, Hex.value? d with
    | some a, some b, some c, some d => .ok (((a * 16 + b) * 16 + c) * 16 + d, rest)
    | _, _, _, _ => .error ⟨.malformedEscape, rest⟩
  | _ => .error ⟨.endInString, []⟩

/-- One byte that an escape needs next. -/
def escapeByte (b : UInt8) : List UInt8 → Except Fault (List UInt8)
  | [] => .error ⟨.endInString, []⟩
  | x :: rest => if x = b then .ok rest else .error ⟨.endInEscape, rest⟩

/-- The character of a numbered escape, after its letter. The first half of a pair needs the
second half right behind it. -/
def numberedEscape : Reader Char := fun s => do
  let (n, rest) ← hexQuad s
  if 0xDC00 ≤ n ∧ n ≤ 0xDFFF then .error ⟨.loneSurrogate, rest⟩
  else if 0xD800 ≤ n ∧ n ≤ 0xDBFF then
    let rest ← escapeByte 0x5C rest
    let rest ← escapeByte 0x75 rest
    let (m, rest) ← hexQuad rest
    if 0xDC00 ≤ m ∧ m ≤ 0xDFFF then
      .ok (Char.ofNat ((n - 0xD800) * 0x400 + (m - 0xDC00) + 0x10000), rest)
    else .error ⟨.loneSurrogate, rest⟩
  else .ok (Char.ofNat n, rest)

/-- The character that a letter after a backslash stands for. -/
def shortEscape? (b : UInt8) : Option Char :=
  match b.toNat with
  | 0x22 => some '"'
  | 0x5C => some '\\'
  | 0x2F => some '/'
  | 0x62 => some '\x08'
  | 0x66 => some '\x0c'
  | 0x6E => some '\n'
  | 0x72 => some '\r'
  | 0x74 => some '\t'
  | _ => none

/-- The character of an escape, after its backslash. -/
def escape : Reader Char
  | [] => .error ⟨.endInString, []⟩
  | b :: rest =>
    match shortEscape? b with
    | some c => .ok (c, rest)
    | none => if b = 0x75 then numberedEscape rest else .error ⟨.malformedEscape, rest⟩

/-- A number of four digits takes four bytes. -/
theorem length_of_hexQuad {s r : List UInt8} {n : Nat} (h : hexQuad s = .ok (n, r)) :
    r.length + 4 = s.length := by
  unfold hexQuad at h
  split at h
  · split at h <;> simp_all
  · simp at h

/-- A byte that was needed and came is taken. -/
theorem length_of_escapeByte {b : UInt8} {s r : List UInt8} (h : escapeByte b s = .ok r) :
    r.length + 1 = s.length := by
  unfold escapeByte at h
  split at h
  · simp at h
  · split at h <;> simp_all

/-- A numbered escape takes some bytes, so the reading of a string gets on. -/
theorem length_lt_of_numberedEscape {s r : List UInt8} {c : Char}
    (h : numberedEscape s = .ok (c, r)) : r.length < s.length := by
  simp only [numberedEscape, bind, Except.bind] at h
  split at h
  · simp at h
  · rename_i p hp
    have h1 := length_of_hexQuad (n := p.1) (r := p.2) hp
    split at h
    · simp at h
    · split at h
      · split at h
        · simp at h
        · rename_i a ha
          have h2 := length_of_escapeByte ha
          split at h
          · simp at h
          · rename_i b hb
            have h3 := length_of_escapeByte hb
            split at h
            · simp at h
            · rename_i q hq
              have h4 := length_of_hexQuad (n := q.1) (r := q.2) hq
              split at h
              · simp only [Except.ok.injEq, Prod.mk.injEq] at h
                rw [← h.2]
                omega
              · simp at h
      · simp only [Except.ok.injEq, Prod.mk.injEq] at h
        rw [← h.2]
        omega

/-- Reading an escape uses up at least one byte. -/
theorem length_lt_of_escape {s r : List UInt8} {c : Char} (h : escape s = .ok (c, r)) :
    r.length < s.length := by
  unfold escape at h
  split at h
  · simp at h
  · split at h
    · simp_all
    · split at h
      · have := length_lt_of_numberedEscape h
        simp only [List.length_cons]
        omega
      · simp at h

/-- A string up to its closing quote. -/
structure Stretch where
  characters : List Char := []
  /-- How many bytes the text has from the first one on that is no text. -/
  broken : Option Nat := none
  rest : List UInt8

/-- The string with a character in front. -/
def Stretch.cons (c : Char) (s : Stretch) : Stretch := { s with characters := c :: s.characters }

/-- The string up to its closing quote. `broken` is how many bytes there are so far from the first
one on that is no text; an escape counts as the bytes of its character. -/
def stretch (broken : Option Nat) (s : List UInt8) : Except Fault Stretch :=
  match s with
  | [] => .error ⟨.endInString, []⟩
  | b :: rest =>
    if b = 0x22 then .ok { broken, rest }
    else if b = 0x5C then
      match h : escape rest with
      | .error f => .error f
      | .ok (c, after) =>
        have := length_lt_of_escape h
        (stretch (broken.map (· + c.utf8Size)) after).map (·.cons c)
    else if b < 0x20 then .error ⟨.controlCharacter, rest⟩
    else
      match h : Utf8.next? (b :: rest) with
      | some (c, after) =>
        have := Utf8.length_lt_of_next? h
        (stretch (broken.map (· + c.utf8Size)) after).map (·.cons c)
      | none => stretch (some (broken.getD 0 + 1)) rest
termination_by s.length
decreasing_by all_goals grind

/-- A string, after its opening quote. Bytes that are no text are reported as far before the closing
quote as the text has bytes from there on. -/
def text : Reader String := fun s => do
  let p ← stretch none s
  match p.broken with
  | none => return (String.ofList p.characters, p.rest)
  | some n => throw ⟨.malformedText, s.drop (s.length - p.rest.length - n)⟩

end Phrasebook.Json.Reader
