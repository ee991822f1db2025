import Phrasebook.Proofs.Text.Utf8
import Phrasebook.Url.Percent

/-!
# What percent-encoding writes

Percent-encoded text consists of percent signs, digits in base 16 and the characters that are not
escaped. So a delimiter does not occur in it if it is escaped, or if it does not occur in the text.
Where the percent sign itself and all bytes past ASCII are escaped, decoding gives the text back.
-/

namespace Phrasebook.Percent

/-- A character that no escape is written with. -/
def IsDelimiter (c : Char) : Prop :=
  c.toNat < 0x80 ∧ c ≠ '%' ∧ ∀ n < 16, c ≠ Hex.digit n

instance (c : Char) : Decidable (IsDelimiter c) := inferInstanceAs (Decidable (_ ∧ _ ∧ _))

/-- A text behind a text is percent-encoded behind it. -/
@[simp] theorem encode_append (escapes : EscapeSet) (t u : List Char) :
    encode escapes (t ++ u) = encode escapes t ++ encode escapes u := by
  simp [encode, encodeBytes]

/-- A delimiter in an encoded text is a character of the text, and one that is not escaped. -/
theorem mem_of_mem_encode {escapes : EscapeSet} {c : Char} {text : List Char}
    (hc : IsDelimiter c) (h : c ∈ encode escapes text) :
    c ∈ text ∧ escapes (UInt8.ofNat c.toNat) = false := by
  obtain ⟨hascii, hpercent, hdigits⟩ := hc
  obtain ⟨b, hb, hmem⟩ := List.mem_flatMap.mp h
  have hlt := b.toNat_lt
  unfold encodeByte at hmem
  split at hmem
  · simp only [List.mem_cons, List.not_mem_nil, or_false] at hmem
    rcases hmem with hmem | hmem | hmem
    · exact absurd hmem hpercent
    · exact absurd hmem (hdigits _ (by omega))
    · exact absurd hmem (hdigits _ (by omega))
  · rename_i hescapes
    rw [List.mem_singleton] at hmem
    have hnumber : (Char.ofNat b.toNat).toNat = b.toNat := Utf8.val_toNat_ofNat (by omega)
    have hbyte : b.toNat < 0x80 := by rwa [hmem, hnumber] at hascii
    rw [hmem, hnumber, UInt8.ofNat_toNat]
    exact ⟨Utf8.ofNat_mem_of_mem_encode hbyte hb, by simpa using hescapes⟩

/-- A delimiter that is escaped does not occur in an encoded text. -/
theorem not_mem_encode_of_escapes {escapes : EscapeSet} {c : Char} (hc : IsDelimiter c)
    (h : escapes (UInt8.ofNat c.toNat) = true) (text : List Char) : c ∉ encode escapes text := by
  intro hmem
  have hfalse := (mem_of_mem_encode hc hmem).2
  rw [h] at hfalse
  cases hfalse

/-! ### Reading back -/

/-- A set of bytes for which everything that is written can be read back: it has the percent sign
and all bytes past ASCII. -/
def EscapeSet.IsReversible (escapes : EscapeSet) : Prop :=
  escapes 0x25 = true ∧ ∀ b : UInt8, 0x80 ≤ b.toNat → escapes b = true

/-- What is escaped in a segment of a URL of the web can be decoded without loss. -/
theorem isReversible_inSpecialSegment : inSpecialSegment.IsReversible := by
  refine ⟨by decide, fun b hb => ?_⟩
  have hcontrol : 0x7F ≤ b := by
    rw [UInt8.le_iff_toNat_le]
    exact Nat.le_of_succ_le hb
  simp [inSpecialSegment, inSegment, inPath, inFragment, controls, hcontrol]

/-- A byte that is no percent sign stands for itself. -/
theorem decodeBytes_cons_of_ne {b : UInt8} (h : b ≠ 0x25) (rest : List UInt8) :
    decodeBytes (b :: rest) = b :: decodeBytes rest := by
  match rest with
  | [] => rfl
  | [_] => rfl
  | _ :: _ :: _ => rw [decodeBytes, decide_eq_false h]

/-- Two digits behind a percent sign stand for one byte. -/
theorem decodeBytes_percent {x y : UInt8} {m n : Nat} (hx : Hex.value? x = some m)
    (hy : Hex.value? y = some n) (rest : List UInt8) :
    decodeBytes (0x25 :: x :: y :: rest) = (m * 16 + n).toUInt8 :: decodeBytes rest := by
  rw [decodeBytes, decide_eq_true rfl, hx, hy]

/-- What a byte is written as is read back as this byte, whatever stands behind it. -/
theorem decodeBytes_encodeByte {escapes : EscapeSet} (h : escapes.IsReversible) (b : UInt8)
    (rest : List UInt8) :
    decodeBytes (Utf8.encode (encodeByte escapes b) ++ rest) = b :: decodeBytes rest := by
  have hb := b.toNat_lt
  unfold encodeByte
  split
  · have hhigh : b.toNat / 16 < 16 := by omega
    have hlow : b.toNat % 16 < 16 := by omega
    have hbytes : Utf8.encode ['%', Hex.digit (b.toNat / 16), Hex.digit (b.toNat % 16)] =
        [0x25, UInt8.ofNat (Hex.digit (b.toNat / 16)).toNat,
          UInt8.ofNat (Hex.digit (b.toNat % 16)).toNat] := by
      simp [Utf8.encodeChar_ascii (Hex.toNat_digit_lt hhigh),
        Utf8.encodeChar_ascii (Hex.toNat_digit_lt hlow)]
    have hvalue : b.toNat / 16 * 16 + b.toNat % 16 = b.toNat := by omega
    rw [hbytes, List.cons_append, List.cons_append, List.cons_append, List.nil_append,
      decodeBytes_percent (Hex.value?_digit hhigh) (Hex.value?_digit hlow), hvalue]
    exact congrArg (· :: decodeBytes rest) (UInt8.ofNat_toNat)
  · rename_i hplain
    have hascii : b.toNat < 0x80 := Nat.lt_of_not_ge fun hge => hplain (h.2 b hge)
    have hne : b ≠ 0x25 := by
      rintro rfl
      exact hplain h.1
    have hbytes : Utf8.encode [Char.ofNat b.toNat] = [b] := by
      rw [Utf8.encode_cons, Utf8.encodeChar_one hascii, Utf8.encode_nil, List.append_nil]
    rw [hbytes, List.singleton_append, decodeBytes_cons_of_ne hne]

/-- What some bytes are written as is read back as these bytes. -/
theorem decodeBytes_encodeBytes {escapes : EscapeSet} (h : escapes.IsReversible)
    (bytes rest : List UInt8) :
    decodeBytes (Utf8.encode (encodeBytes escapes bytes) ++ rest) = bytes ++ decodeBytes rest := by
  induction bytes with
  | nil => rfl
  | cons b bytes ih =>
    rw [encodeBytes, List.flatMap_cons, Utf8.encode_append, List.append_assoc,
      decodeBytes_encodeByte h, ← encodeBytes, ih, List.cons_append]

/-- Decoding an encoded text gives the bytes of the text. -/
theorem decode_encode {escapes : EscapeSet} (h : escapes.IsReversible) (text : List Char) :
    decode (encode escapes text) = Utf8.encode text := by
  have hback := decodeBytes_encodeBytes h (Utf8.encode text) []
  rw [List.append_nil] at hback
  rw [decode, encode, hback, decodeBytes, List.append_nil]

end Phrasebook.Percent
