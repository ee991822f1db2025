/-!
# Names in ASCII

A name with other characters is written with its ASCII characters first. Then follow, in order of
code point, the steps from one insertion to the next as numbers of variable length in base 36,
whose digits adapt to the steps before.
-/

namespace Phrasebook.Punycode

/-- The letter or digit of a value below 36. -/
def digit (n : Nat) : Char := Char.ofNat (if n < 26 then 0x61 + n else 0x30 + (n - 26))

/-- The value of a small letter or digit. -/
def digitValue? (c : Char) : Option Nat :=
  if 'a' ≤ c ∧ c ≤ 'z' then some (c.toNat - 'a'.toNat)
  else if '0' ≤ c ∧ c ≤ '9' then some (c.toNat - '0'.toNat + 26)
  else none

/-- A digit below this ends a number. -/
def threshold (position bias : Nat) : Nat := max 1 (min 26 (position - bias))

/-- The threshold is not zero, so the rest of a number that goes on is smaller than the number. -/
theorem threshold_pos (position bias : Nat) : 0 < threshold position bias := by
  simp only [threshold]
  omega

/-- The bias for a step, after it is scaled down. -/
def biasOf (position delta : Nat) : Nat :=
  if 455 < delta then biasOf (position + 36) (delta / 35)
  else position + 36 * delta / (delta + 38)
termination_by delta
decreasing_by omega

/-- The bias after a step, of which the first one is scaled down more. -/
def adapt (delta size : Nat) (isFirst : Bool) : Nat :=
  let scaled := if isFirst then delta / 700 else delta / 2
  biasOf 0 (scaled + scaled / size)

/-- A number in digits. -/
def encodeNumber (bias position n : Nat) : List Char :=
  let t := threshold position bias
  if n < t then [digit n]
  else digit (t + (n - t) % (36 - t)) :: encodeNumber bias (position + 36) ((n - t) / (36 - t))
termination_by n
decreasing_by
  have h1 := threshold_pos position bias
  exact Nat.lt_of_le_of_lt (Nat.div_le_self _ _) (by omega)

/-- How far a name is written. -/
structure Progress where
  output : List Char
  delta : Nat
  bias : Nat
  /-- How many characters are written. -/
  count : Nat

/-- Passes one character while those of code point `n` are written. -/
def pass (basic n : Nat) (p : Progress) (c : Char) : Progress :=
  if c.toNat < n then { p with delta := p.delta + 1 }
  else if c.toNat = n then
    { output := p.output ++ encodeNumber p.bias 36 p.delta
      delta := 0
      bias := adapt p.delta (p.count + 1) (p.count = basic)
      count := p.count + 1 }
  else p

/-- Writes the characters of some code points, which increase from `n` on. -/
def encodeFrom (text : List Char) (basic n : Nat) (p : Progress) : List Nat → Progress
  | [] => p
  | m :: rest =>
    let p := { p with delta := p.delta + (m - n) * (p.count + 1) }
    let p := text.foldl (pass basic m) p
    encodeFrom text basic (m + 1) { p with delta := p.delta + 1 } rest

/-- The code points past ASCII of a text, each once, in order. -/
def extended (text : List Char) : List Nat :=
  ((text.map Char.toNat).filter (0x80 ≤ ·)).mergeSort.eraseDups

/-- The ASCII form of a text. -/
def encode (text : List Char) : List Char :=
  let basic := text.filter (fun c => c.toNat < 0x80)
  let start : Progress :=
    { output := if basic = [] then [] else basic ++ ['-']
      delta := 0
      bias := 72
      count := basic.length }
  (encodeFrom text basic.length 0x80 start (extended text)).output

/-- Reads a number of variable length: it is added to `total`, and its next digit counts
`weight`. -/
def decodeNumber (bias position weight total : Nat) : List Char → Option (Nat × List Char)
  | [] => none
  | c :: rest =>
    match digitValue? c with
    | none => none
    | some d =>
      let t := threshold position bias
      let total := total + d * weight
      if d < t then some (total, rest)
      else decodeNumber bias (position + 36) (weight * (36 - t)) total rest

/-- A number takes some characters, so decoding gets on. -/
theorem length_lt_of_decodeNumber {bias position weight total n : Nat} {s rest : List Char}
    (h : decodeNumber bias position weight total s = some (n, rest)) :
    rest.length < s.length := by
  induction s generalizing position weight total with
  | nil => simp [decodeNumber] at h
  | cons c s ih =>
    rw [decodeNumber] at h
    split at h
    · simp at h
    · dsimp only at h
      split at h
      · simp only [Option.some.injEq, Prod.mk.injEq] at h
        simp [h.2]
      · have := ih h
        simp only [List.length_cons]
        omega

/-- The character of a code point. -/
def char? (n : Nat) : Option Char := if h : n.isValidChar then some (Char.ofNatAux n h) else none

/-- Inserts characters into a text. The next one is not before place `place` and not below code
point `n`. -/
def decodeFrom (text : List Char) (place n bias : Nat) (s : List Char) : Option (List Char) :=
  if s = [] then some text
  else
    match h : decodeNumber bias 36 1 place s with
    | none => none
    | some (total, rest) =>
      have := length_lt_of_decodeNumber h
      let size := text.length + 1
      match char? (n + total / size) with
      | none => none
      | some c =>
        let i := total % size
        decodeFrom (text.take i ++ c :: text.drop i) (i + 1) (n + total / size)
          (adapt (total - place) size (place = 0)) rest
termination_by s.length

/-- The text of an ASCII form. -/
def decode? (s : List Char) : Option (List Char) :=
  let steps := (s.reverse.takeWhile (· ≠ '-')).reverse
  let basic := (s.take (s.length - steps.length)).dropLast
  if basic = [] then decodeFrom [] 0 0x80 72 s else decodeFrom basic 0 0x80 72 steps

end Phrasebook.Punycode
