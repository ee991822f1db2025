import Phrasebook.Json.Text
import Phrasebook.Proofs.Json.Grammar
import Phrasebook.Proofs.Results
import Phrasebook.Proofs.Text.Utf8

/-!
# Reading strings

The string reader takes exactly the strings of the grammar: what it accepts is the encoding of a
string body and a quote, and every such encoding is accepted with the characters of the string.
-/

namespace Phrasebook.Json.Reader

open Except (bind_eq_ok_iff map_eq_ok_iff)
open Utf8 (encode encode_cons encode_append encode_nil encodeChar_ascii)

/-! ### Escapes -/

/-- A byte below 128 and its character have the same number in base 16. -/
theorem hexDigit?_ofNat {b : UInt8} (h : b.toNat < 0x80) :
    hexDigit? (Char.ofNat b.toNat) = Hex.value? b := by
  have hb : UInt8.ofNat b.toNat = b := UInt8.ofNat_toNat
  have hall : ∀ n : Fin 0x80, hexDigit? (Char.ofNat n) = Hex.value? (UInt8.ofNat n) := by decide
  rw [← hb]
  simpa using hall ⟨b.toNat, h⟩

/-- A byte with a value in base 16 is the encoding of a digit of this value. -/
theorem exists_char_of_value? {b : UInt8} {x : Nat} (h : Hex.value? b = some x) :
    ∃ c, String.utf8EncodeChar c = [b] ∧ hexDigit? c = some x := by
  have hb : b.toNat < 0x80 := by
    simp only [Hex.value?, Bool.and_eq_true, decide_eq_true_eq, UInt8.le_iff_toNat_le,
      UInt8.reduceToNat] at h
    split at h
    · omega
    split at h
    · omega
    split at h
    · omega
    · cases h
  exact ⟨_, Utf8.encodeChar_one hb, (hexDigit?_ofNat hb).trans h⟩

/-- A digit in base 16 is encoded as one byte, which has its value. -/
theorem exists_byte_of_hexDigit? {c : Char} {x : Nat} (h : hexDigit? c = some x) :
    ∃ b, String.utf8EncodeChar c = [b] ∧ Hex.value? b = some x := by
  have hc : c.toNat < 0x80 := by
    have hle {d : Char} (h : c ≤ d) : c.toNat ≤ d.toNat := h
    unfold hexDigit? at h
    split at h
    · rename_i hr
      exact Nat.lt_of_le_of_lt (hle hr.2) (by decide)
    split at h
    · rename_i hr
      exact Nat.lt_of_le_of_lt (hle hr.2) (by decide)
    split at h
    · rename_i hr
      exact Nat.lt_of_le_of_lt (hle hr.2) (by decide)
    · cases h
  have hb : (UInt8.ofNat c.toNat).toNat = c.toNat := Utf8.toNat_ofNat_of_lt (by omega)
  refine ⟨_, encodeChar_ascii hc, ?_⟩
  rw [← hexDigit?_ofNat (by omega), hb, Char.ofNat_toNat, h]

/-- Four digits are read as their number. -/
theorem hexQuad_eq_ok_iff {s rest : List UInt8} {n : Nat} :
    hexQuad s = .ok (n, rest) ↔ ∃ quad, HexQuad n quad ∧ s = encode quad ++ rest := by
  constructor
  · intro h
    unfold hexQuad at h
    split at h
    · split at h
      · rename_i ha hb hc hd
        obtain ⟨a, ha', ha⟩ := exists_char_of_value? ha
        obtain ⟨b, hb', hb⟩ := exists_char_of_value? hb
        obtain ⟨c, hc', hc⟩ := exists_char_of_value? hc
        obtain ⟨d, hd', hd⟩ := exists_char_of_value? hd
        simp only [Except.ok.injEq, Prod.mk.injEq] at h
        obtain ⟨rfl, rfl⟩ := h
        refine ⟨[a, b, c, d], .mk ha hb hc hd, ?_⟩
        simp only [encode_cons, encode_nil, ha', hb', hc', hd', List.cons_append, List.nil_append]
      · cases h
    · cases h
  · rintro ⟨quad, ⟨ha, hb, hc, hd⟩, rfl⟩
    obtain ⟨a', ha', ha⟩ := exists_byte_of_hexDigit? ha
    obtain ⟨b', hb', hb⟩ := exists_byte_of_hexDigit? hb
    obtain ⟨c', hc', hc⟩ := exists_byte_of_hexDigit? hc
    obtain ⟨d', hd', hd⟩ := exists_byte_of_hexDigit? hd
    simp only [encode_cons, encode_nil, ha', hb', hc', hd', List.cons_append, List.nil_append,
      hexQuad, ha, hb, hc, hd]

/-- The letters of the short escapes are bytes below 128. -/
theorem shortEscape?_eq_some_iff {b : UInt8} {c : Char} :
    shortEscape? b = some c ↔
      ∃ letter, (letter, c) ∈ shortEscapes ∧ String.utf8EncodeChar letter = [b] := by
  constructor
  · intro h
    unfold shortEscape? at h
    split at h
    case h_9 => cases h
    all_goals
      rename_i hb
      cases h
      exact ⟨Char.ofNat b.toNat, by rw [hb]; decide, Utf8.encodeChar_one (by omega)⟩
  · rintro ⟨letter, hmem, hb⟩
    have htable : ∀ p ∈ shortEscapes,
        p.1.toNat < 0x80 ∧ shortEscape? (UInt8.ofNat p.1.toNat) = some p.2 := by decide
    obtain ⟨hascii, hletter⟩ := htable _ hmem
    rw [encodeChar_ascii hascii] at hb
    rw [← (List.cons.inj hb).1, hletter]

/-- A byte that is needed is taken exactly if it comes next. -/
theorem escapeByte_eq_ok_iff {b : UInt8} {s rest : List UInt8} :
    escapeByte b s = .ok rest ↔ s = b :: rest := by
  cases s with
  | nil => simp [escapeByte]
  | cons x s =>
    rw [escapeByte]
    split
    · rename_i h
      simp [h]
    · rename_i h
      simp [h]

/-- After its letter a numbered escape is read as its character. -/
theorem numberedEscape_eq_ok_iff {s rest : List UInt8} {c : Char} :
    numberedEscape s = .ok (c, rest) ↔ ∃ e, Escape c ('u' :: e) ∧ s = encode e ++ rest := by
  unfold numberedEscape
  rw [bind_eq_ok_iff]
  constructor
  · rintro ⟨⟨n, r⟩, hn, h⟩
    obtain ⟨quad, hquad, rfl⟩ := hexQuad_eq_ok_iff.mp hn
    dsimp only at h
    split at h
    · cases h
    split at h
    · rename_i hlow hhigh
      -- A first half needs the second one right behind it.
      simp only [bind_eq_ok_iff, escapeByte_eq_ok_iff] at h
      obtain ⟨_, rfl, _, rfl, ⟨m, r⟩, hm, h⟩ := h
      obtain ⟨second, hsecond, rfl⟩ := hexQuad_eq_ok_iff.mp hm
      dsimp only at h
      split at h
      · rename_i hm
        obtain ⟨rfl, rfl⟩ := Prod.mk.inj (Except.ok.inj h)
        refine ⟨quad ++ '\\' :: 'u' :: second, ?_, by simp⟩
        rw [Nat.add_comm, ← Nat.add_assoc]
        exact .pair (by omega) hm hquad hsecond
      · cases h
    · rename_i hlow hhigh
      obtain ⟨rfl, rfl⟩ := Prod.mk.inj (Except.ok.inj h)
      exact ⟨quad, .numbered (by omega) hquad, rfl⟩
  · rintro ⟨e, he, rfl⟩
    -- Which escape it is shows only in the whole text, its letter included.
    generalize hu : 'u' :: e = t at he
    cases he with
    | short h =>
      cases hu
      simp [shortEscapes] at h
    | numbered hn h =>
      cases hu
      refine ⟨_, hexQuad_eq_ok_iff.mpr ⟨_, h, rfl⟩, ?_⟩
      dsimp only
      rw [if_neg (by omega), if_neg (by omega)]
    | pair hn hm hfirst hsecond =>
      rename_i n m first second
      obtain ⟨-, rfl⟩ := List.cons.inj hu
      refine ⟨(n, 0x5C :: 0x75 :: (encode second ++ rest)),
        hexQuad_eq_ok_iff.mpr ⟨first, hfirst, by simp⟩, ?_⟩
      dsimp only
      rw [if_neg (by omega), if_pos hn]
      simp only [bind_eq_ok_iff, escapeByte_eq_ok_iff]
      refine ⟨_, rfl, _, rfl, (m, rest), hexQuad_eq_ok_iff.mpr ⟨second, hsecond, rfl⟩, ?_⟩
      dsimp only
      rw [if_pos hm, Nat.add_comm, ← Nat.add_assoc]

/-- After its backslash an escape is read as its character. -/
theorem escape_eq_ok_iff {s rest : List UInt8} {c : Char} :
    escape s = .ok (c, rest) ↔ ∃ e, Escape c e ∧ s = encode e ++ rest := by
  constructor
  · intro h
    unfold escape at h
    split at h
    · cases h
    split at h
    · rename_i hletter
      obtain ⟨rfl, rfl⟩ := Prod.mk.inj (Except.ok.inj h)
      obtain ⟨letter, hmem, hb⟩ := shortEscape?_eq_some_iff.mp hletter
      exact ⟨[letter], .short hmem, by simp [hb]⟩
    split at h
    · rename_i hu
      obtain ⟨e, he, rfl⟩ := numberedEscape_eq_ok_iff.mp h
      exact ⟨'u' :: e, he, by simp [hu]⟩
    · cases h
  · rintro ⟨e, he, rfl⟩
    have hnumbered {t : List Char} (ht : Escape c ('u' :: t)) :
        escape (encode ('u' :: t) ++ rest) = .ok (c, rest) := by
      have hu : encode ('u' :: t) ++ rest = 0x75 :: (encode t ++ rest) := by simp
      have hshort : shortEscape? 0x75 = none := rfl
      simp only [hu, escape, hshort, if_true]
      exact numberedEscape_eq_ok_iff.mpr ⟨t, ht, rfl⟩
    cases he with
    | @short letter _ hmem =>
      have htable : ∀ p ∈ shortEscapes, p.1.toNat < 0x80 := by decide
      have hletter := shortEscape?_eq_some_iff.mpr ⟨letter, hmem, encodeChar_ascii (htable _ hmem)⟩
      simp only [encode_cons, encode_nil, encodeChar_ascii (htable _ hmem), List.cons_append,
        List.nil_append, escape, hletter]
    | numbered hn h => exact hnumbered (.numbered hn h)
    | pair hn hm hfirst hsecond => exact hnumbered (.pair hn hm hfirst hsecond)

/-! ### Whole strings -/

/-- The first byte of a character that may stand for itself in a string. -/
theorem encodeChar_plain {c : Char} (hcontrol : 0x20 ≤ c.toNat) (hquote : c ≠ '"')
    (hbackslash : c ≠ '\\') :
    ∃ b bs, String.utf8EncodeChar c = b :: bs ∧ b ≠ 0x22 ∧ b ≠ 0x5C ∧ ¬ b < 0x20 := by
  suffices ∃ b bs, String.utf8EncodeChar c = b :: bs ∧
      b.toNat ≠ 0x22 ∧ b.toNat ≠ 0x5C ∧ 0x20 ≤ b.toNat by
    obtain ⟨b, bs, hbytes, h1, h2, h3⟩ := this
    refine ⟨b, bs, hbytes, fun h => h1 (by rw [h]; rfl), fun h => h2 (by rw [h]; rfl), fun h => ?_⟩
    exact absurd (UInt8.lt_iff_toNat_lt.mp h) (Nat.not_lt.mpr h3)
  rcases Nat.lt_or_ge c.toNat 0x80 with hc | hc
  · have hb : (UInt8.ofNat c.toNat).toNat = c.toNat := Utf8.toNat_ofNat_of_lt (by omega)
    have hne {d : Char} (h : c ≠ d) : c.toNat ≠ d.toNat := fun heq => h (Char.toNat_inj.mp heq)
    refine ⟨_, _, encodeChar_ascii hc, ?_⟩
    rw [hb]
    exact ⟨hne hquote, hne hbackslash, hcontrol⟩
  · obtain ⟨b, bs, hbytes, hb⟩ := Utf8.encodeChar_of_not_ascii hc
    exact ⟨b, bs, hbytes, by omega, by omega, by omega⟩

/-- A character whose first byte is no quote, no backslash and no control may stand for itself. -/
theorem plain_of_encodeChar {c : Char} {b : UInt8} {rest after : List UInt8}
    (h : b :: rest = String.utf8EncodeChar c ++ after) (hquote : b ≠ 0x22) (hbackslash : b ≠ 0x5C)
    (hcontrol : ¬ b < 0x20) : 0x20 ≤ c.toNat ∧ c ≠ '"' ∧ c ≠ '\\' := by
  have hfirst (hc : c.toNat < 0x80) : b = UInt8.ofNat c.toNat := by
    rw [encodeChar_ascii hc] at h
    exact (List.cons.inj h).1
  refine ⟨Nat.not_lt.mp fun hc => hcontrol ?_, ?_, ?_⟩
  · have hb : (UInt8.ofNat c.toNat).toNat = c.toNat := Utf8.toNat_ofNat_of_lt (by omega)
    rw [hfirst (by omega), UInt8.lt_iff_toNat_lt, hb]
    exact hc
  · rintro rfl
    exact hquote (hfirst (by decide))
  · rintro rfl
    exact hbackslash (hfirst (by decide))

/-- What is read without a byte that is no text is a string of the grammar. -/
theorem stringBody_of_stretch {broken : Option Nat} {s : List UInt8} {p : Stretch}
    (h : stretch broken s = .ok p) (hp : p.broken = none) :
    broken = none ∧ ∃ t, StringBody p.characters t ∧ s = encode t ++ 0x22 :: p.rest := by
  fun_induction stretch broken s generalizing p with
  | case1 => cases h
  | case2 broken rest =>
    cases h
    exact ⟨hp, [], .nil, rfl⟩
  | case3 => cases h
  | case4 broken rest c after hescape _ _ ih =>
    obtain ⟨q, hq, rfl⟩ := map_eq_ok_iff.mp h
    obtain ⟨hnone, t, ht, rfl⟩ := ih hq hp
    obtain ⟨e, he, rfl⟩ := escape_eq_ok_iff.mp hescape
    exact ⟨Option.map_eq_none_iff.mp hnone, '\\' :: e ++ t, .escaped he ht, by simp [Stretch.cons]⟩
  | case5 => cases h
  | case6 broken b rest hquote hbackslash hcontrol c after hnext _ ih =>
    obtain ⟨q, hq, rfl⟩ := map_eq_ok_iff.mp h
    obtain ⟨hnone, t, ht, rfl⟩ := ih hq hp
    have hbytes := Utf8.eq_encodeChar_of_next? hnext
    obtain ⟨h1, h2, h3⟩ := plain_of_encodeChar hbytes hquote hbackslash hcontrol
    exact ⟨Option.map_eq_none_iff.mp hnone, c :: t, .plain h1 h2 h3 ht,
      by simp [hbytes, Stretch.cons]⟩
  | case7 broken b rest _ _ _ _ ih =>
    -- A byte that is no text stays counted up to the closing quote.
    exact absurd (ih h hp).1 (by simp)

/-- The string behind an escape. -/
theorem stretch_of_escape {rest after : List UInt8} {c : Char} (broken : Option Nat)
    (h : escape rest = .ok (c, after)) :
    stretch broken (0x5C :: rest) =
      (stretch (broken.map (· + c.utf8Size)) after).map (·.cons c) := by
  rw [stretch, if_neg (by decide), if_pos rfl]
  split <;> simp_all

/-- The string behind a character that stands for itself. -/
theorem stretch_of_next? {b : UInt8} {rest after : List UInt8} {c : Char} (broken : Option Nat)
    (hquote : b ≠ 0x22) (hbackslash : b ≠ 0x5C) (hcontrol : ¬ b < 0x20)
    (h : Utf8.next? (b :: rest) = some (c, after)) :
    stretch broken (b :: rest) =
      (stretch (broken.map (· + c.utf8Size)) after).map (·.cons c) := by
  rw [stretch, if_neg hquote, if_neg hbackslash, if_neg hcontrol]
  split <;> simp_all

/-- Every string of the grammar is read, and has no byte that is no text. -/
theorem stretch_encode {cs t : List Char} (h : StringBody cs t) (rest : List UInt8) :
    stretch none (encode t ++ 0x22 :: rest) = .ok { characters := cs, rest } := by
  induction h with
  | nil => simp [stretch]
  | @plain c cs t hcontrol hquote hbackslash _ ih =>
    obtain ⟨b, bs, hbytes, h1, h2, h3⟩ := encodeChar_plain hcontrol hquote hbackslash
    have hnext := Utf8.next?_encodeChar c (encode t ++ 0x22 :: rest)
    rw [hbytes, List.cons_append] at hnext
    rw [encode_cons, hbytes, List.append_assoc, List.cons_append,
      stretch_of_next? none h1 h2 h3 hnext, Option.map_none, ih]
    rfl
  | @escaped c cs e t he _ ih =>
    have hescape : escape (encode e ++ (encode t ++ 0x22 :: rest)) =
        .ok (c, encode t ++ 0x22 :: rest) := escape_eq_ok_iff.mpr ⟨e, he, rfl⟩
    have hbytes : encode ('\\' :: e ++ t) ++ 0x22 :: rest =
        0x5C :: (encode e ++ (encode t ++ 0x22 :: rest)) := by simp
    rw [hbytes, stretch_of_escape none hescape, Option.map_none, ih]
    rfl

/-- After its opening quote a string is read exactly if it is one of the grammar. -/
theorem text_eq_ok_iff {s rest : List UInt8} {v : String} :
    text s = .ok (v, rest) ↔ ∃ t, StringBody v.toList t ∧ s = encode t ++ 0x22 :: rest := by
  unfold text
  rw [bind_eq_ok_iff]
  constructor
  · rintro ⟨p, hp, h⟩
    split at h
    · rename_i hnone
      obtain ⟨rfl, rfl⟩ := Prod.mk.inj (Except.ok.inj h)
      obtain ⟨-, t, ht, rfl⟩ := stringBody_of_stretch hp hnone
      exact ⟨t, by rwa [String.toList_ofList], rfl⟩
    · cases h
  · rintro ⟨t, ht, rfl⟩
    exact ⟨_, stretch_encode ht rest, by simp [pure, Except.pure]⟩

end Phrasebook.Json.Reader
