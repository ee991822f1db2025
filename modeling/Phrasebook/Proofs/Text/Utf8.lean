import Phrasebook.Text.Utf8

/-!
# Decoding is the inverse of encoding

A byte sequence starts with a well-formed character exactly if it starts with the bytes that the
character is written with, and then that is the only one it starts with. So decoding a sequence
gives the text whose encoding it is, if there is one.
-/

namespace Phrasebook.Utf8

/-- The bytes that continue a character, as numbers. -/
theorem isTail_iff {b : UInt8} : isTail b = true ↔ 0x80 ≤ b.toNat ∧ b.toNat ≤ 0xBF := by
  simp [isTail, UInt8.le_iff_toNat_le]

/-- The bytes that may stand second, as numbers. Four of the first bytes leave only a part of them:
forms that are too long, surrogates and what is past the last character are ruled out. -/
theorem isSecond_iff {lead b : UInt8} : isSecond lead b = true ↔
    (0x80 ≤ b.toNat ∧ (lead.toNat = 0xE0 → 0xA0 ≤ b.toNat) ∧
      (lead.toNat = 0xF0 → 0x90 ≤ b.toNat)) ∧
    b.toNat ≤ 0xBF ∧ (lead.toNat = 0xED → b.toNat ≤ 0x9F) ∧
      (lead.toNat = 0xF4 → b.toNat ≤ 0x8F) := by
  have hE0 : lead = 0xE0 ↔ lead.toNat = 0xE0 := UInt8.toNat_inj.symm
  have hF0 : lead = 0xF0 ↔ lead.toNat = 0xF0 := UInt8.toNat_inj.symm
  have hED : lead = 0xED ↔ lead.toNat = 0xED := UInt8.toNat_inj.symm
  have hF4 : lead = 0xF4 ↔ lead.toNat = 0xF4 := UInt8.toNat_inj.symm
  simp only [isSecond, Bool.and_eq_true, decide_eq_true_eq, UInt8.le_iff_toNat_le, hE0, hF0, hED,
    hF4, apply_ite UInt8.toNat, UInt8.reduceToNat]
  refine and_congr ?_ ?_ <;> split <;> try split
  all_goals omega

/-- A byte below 128 is a character by itself. -/
theorem next?_one {a : UInt8} (ha : a.toNat < 0x80) (r : List UInt8) :
    next? (a :: r) = some (Char.ofNat a.toNat, r) := by
  have h : a < 0x80 := UInt8.lt_iff_toNat_lt.mpr ha
  unfold next?
  simp only [h, if_true]

/-- Two bytes of the right form are a character, and their payloads give its number. -/
theorem next?_two {a b : UInt8} (ha : 0xC2 ≤ a.toNat ∧ a.toNat ≤ 0xDF)
    (hb : isTail b = true) (r : List UInt8) :
    next? (a :: b :: r) = some (Char.ofNat ((a.toNat - 0xC0) * 64 + payload b), r) := by
  have h1 : ¬ a < 0x80 := by rw [UInt8.lt_iff_toNat_lt]; simp; omega
  have h2 : (0xC2 ≤ a && a ≤ 0xDF) = true := by simpa [UInt8.le_iff_toNat_le] using ha
  simp only [next?, if_neg h1, h2, if_true, hb]

/-- Three bytes of the right form are a character, and their payloads give its number. -/
theorem next?_three {a b c : UInt8} (ha : 0xE0 ≤ a.toNat ∧ a.toNat ≤ 0xEF)
    (hb : isSecond a b = true) (hc : isTail c = true) (r : List UInt8) :
    next? (a :: b :: c :: r) =
      some (Char.ofNat (((a.toNat - 0xE0) * 64 + payload b) * 64 + payload c), r) := by
  have h1 : ¬ a < 0x80 := by rw [UInt8.lt_iff_toNat_lt]; simp; omega
  have h2 : ¬ (0xC2 ≤ a && a ≤ 0xDF) = true := by simp [UInt8.le_iff_toNat_le]; omega
  have h3 : (0xE0 ≤ a && a ≤ 0xEF) = true := by simpa [UInt8.le_iff_toNat_le] using ha
  simp only [next?, if_neg h1, if_neg h2, h3, if_true, hb, hc, Bool.and_self]

/-- Four bytes of the right form are a character, and their payloads give its number. -/
theorem next?_four {a b c d : UInt8} (ha : 0xF0 ≤ a.toNat ∧ a.toNat ≤ 0xF4)
    (hb : isSecond a b = true) (hc : isTail c = true) (hd : isTail d = true) (r : List UInt8) :
    next? (a :: b :: c :: d :: r) = some (Char.ofNat
      ((((a.toNat - 0xF0) * 64 + payload b) * 64 + payload c) * 64 + payload d), r) := by
  have h1 : ¬ a < 0x80 := by rw [UInt8.lt_iff_toNat_lt]; simp; omega
  have h2 : ¬ (0xC2 ≤ a && a ≤ 0xDF) = true := by simp [UInt8.le_iff_toNat_le]; omega
  have h3 : ¬ (0xE0 ≤ a && a ≤ 0xEF) = true := by simp [UInt8.le_iff_toNat_le]; omega
  have h4 : (0xF0 ≤ a && a ≤ 0xF4) = true := by simpa [UInt8.le_iff_toNat_le] using ha
  simp only [next?, if_neg h1, if_neg h2, if_neg h3, h4, if_true, hb, hc, hd, Bool.and_self]

/-- The number of a byte that is made from one. -/
theorem toNat_ofNat_of_lt {n : Nat} (h : n < 0x100) : (UInt8.ofNat n).toNat = n :=
  UInt8.toNat_ofNat_of_lt' h

/-- The numbers of characters are those below `0x110000` without the surrogates. -/
theorem toNat_isValidChar (c : Char) :
    c.toNat < 0xD800 ∨ (0xDFFF < c.toNat ∧ c.toNat < 0x110000) := c.valid

/-- The bytes of a character are read as this character, whatever stands behind them. -/
theorem next?_encodeChar (c : Char) (r : List UInt8) :
    next? (String.utf8EncodeChar c ++ r) = some (c, r) := by
  have hc := toNat_isValidChar c
  have hback (n : Nat) (h : n = c.toNat) : Char.ofNat n = c := by rw [h, Char.ofNat_toNat]
  have hv : c.val.toNat = c.toNat := rfl
  unfold String.utf8EncodeChar
  rw [hv]
  clear hv
  -- The number of the character tells its length, from one byte to four.
  generalize c.toNat = v at *
  dsimp only
  split
  · have h0 := toNat_ofNat_of_lt (n := v) (by omega)
    rw [List.cons_append, List.nil_append, next?_one (by omega), h0, hback v rfl]
  split
  · have h0 := toNat_ofNat_of_lt (n := v / 64 % 32 + 192) (by omega)
    have h1 := toNat_ofNat_of_lt (n := v % 64 + 128) (by omega)
    generalize UInt8.ofNat (v / 64 % 32 + 192) = a at *
    generalize UInt8.ofNat (v % 64 + 128) = b at *
    have hvalue : (a.toNat - 0xC0) * 64 + payload b = v := by
      unfold payload
      omega
    have htail : isTail b = true := isTail_iff.mpr (by omega)
    rw [List.cons_append, List.cons_append, List.nil_append, next?_two (by omega) htail,
      hback _ hvalue]
  split
  · have h0 := toNat_ofNat_of_lt (n := v / 4096 % 16 + 224) (by omega)
    have h1 := toNat_ofNat_of_lt (n := v / 64 % 64 + 128) (by omega)
    have h2 := toNat_ofNat_of_lt (n := v % 64 + 128) (by omega)
    generalize UInt8.ofNat (v / 4096 % 16 + 224) = a at *
    generalize UInt8.ofNat (v / 64 % 64 + 128) = b at *
    generalize UInt8.ofNat (v % 64 + 128) = d at *
    have hvalue : ((a.toNat - 0xE0) * 64 + payload b) * 64 + payload d = v := by
      unfold payload
      omega
    have hsecond : isSecond a b = true := isSecond_iff.mpr (by omega)
    have htail : isTail d = true := isTail_iff.mpr (by omega)
    rw [List.cons_append, List.cons_append, List.cons_append, List.nil_append,
      next?_three (by omega) hsecond htail, hback _ hvalue]
  · have h0 := toNat_ofNat_of_lt (n := v / 262144 % 8 + 240) (by omega)
    have h1 := toNat_ofNat_of_lt (n := v / 4096 % 64 + 128) (by omega)
    have h2 := toNat_ofNat_of_lt (n := v / 64 % 64 + 128) (by omega)
    have h3 := toNat_ofNat_of_lt (n := v % 64 + 128) (by omega)
    generalize UInt8.ofNat (v / 262144 % 8 + 240) = a at *
    generalize UInt8.ofNat (v / 4096 % 64 + 128) = b at *
    generalize UInt8.ofNat (v / 64 % 64 + 128) = d at *
    generalize UInt8.ofNat (v % 64 + 128) = e at *
    have hvalue :
        (((a.toNat - 0xF0) * 64 + payload b) * 64 + payload d) * 64 + payload e = v := by
      unfold payload
      omega
    have hsecond : isSecond a b = true := isSecond_iff.mpr (by omega)
    have htail : isTail d = true := isTail_iff.mpr (by omega)
    have hlast : isTail e = true := isTail_iff.mpr (by omega)
    rw [List.cons_append, List.cons_append, List.cons_append, List.cons_append, List.nil_append,
      next?_four (by omega) hsecond htail hlast, hback _ hvalue]

/-- A byte whose number is known. -/
theorem ofNat_eq_of_toNat {n : Nat} {b : UInt8} (h : n = b.toNat) : UInt8.ofNat n = b := by
  rw [h, UInt8.ofNat_toNat]

/-- The number of the character with a given number. -/
theorem val_toNat_ofNat {n : Nat} (h : n < 0xD800 ∨ (0xDFFF < n ∧ n < 0x110000)) :
    (Char.ofNat n).val.toNat = n := by
  unfold Char.ofNat
  rw [dif_pos h]
  rfl

/-- The character that one byte is read as is written as this byte. -/
theorem encodeChar_one {a : UInt8} (ha : a.toNat < 0x80) :
    String.utf8EncodeChar (Char.ofNat a.toNat) = [a] := by
  unfold String.utf8EncodeChar
  rw [val_toNat_ofNat (by omega)]
  dsimp only
  rw [if_pos (by omega), UInt8.ofNat_toNat]

/-- The character that two bytes are read as is written as these bytes. -/
theorem encodeChar_two {a b : UInt8} (ha : 0xC2 ≤ a.toNat ∧ a.toNat ≤ 0xDF)
    (hb : isTail b = true) :
    String.utf8EncodeChar (Char.ofNat ((a.toNat - 0xC0) * 64 + payload b)) = [a, b] := by
  have hb := isTail_iff.mp hb
  unfold payload
  generalize hn : (a.toNat - 0xC0) * 64 + (b.toNat - 0x80) = n
  unfold String.utf8EncodeChar
  rw [val_toNat_ofNat (by omega)]
  dsimp only
  rw [if_neg (by omega), if_pos (by omega), ofNat_eq_of_toNat (b := a) (by omega),
    ofNat_eq_of_toNat (b := b) (by omega)]

/-- The character that three bytes are read as is written as these bytes. -/
theorem encodeChar_three {a b c : UInt8} (ha : 0xE0 ≤ a.toNat ∧ a.toNat ≤ 0xEF)
    (hb : isSecond a b = true) (hc : isTail c = true) :
    String.utf8EncodeChar
      (Char.ofNat (((a.toNat - 0xE0) * 64 + payload b) * 64 + payload c)) = [a, b, c] := by
  have hb := isSecond_iff.mp hb
  have hc := isTail_iff.mp hc
  unfold payload
  generalize hn : ((a.toNat - 0xE0) * 64 + (b.toNat - 0x80)) * 64 + (c.toNat - 0x80) = n
  unfold String.utf8EncodeChar
  rw [val_toNat_ofNat (by omega)]
  dsimp only
  rw [if_neg (by omega), if_neg (by omega), if_pos (by omega),
    ofNat_eq_of_toNat (b := a) (by omega), ofNat_eq_of_toNat (b := b) (by omega),
    ofNat_eq_of_toNat (b := c) (by omega)]

/-- The character that four bytes are read as is written as these bytes. -/
theorem encodeChar_four {a b c d : UInt8} (ha : 0xF0 ≤ a.toNat ∧ a.toNat ≤ 0xF4)
    (hb : isSecond a b = true) (hc : isTail c = true) (hd : isTail d = true) :
    String.utf8EncodeChar (Char.ofNat
      ((((a.toNat - 0xF0) * 64 + payload b) * 64 + payload c) * 64 + payload d)) =
      [a, b, c, d] := by
  have hb := isSecond_iff.mp hb
  have hc := isTail_iff.mp hc
  have hd := isTail_iff.mp hd
  unfold payload
  generalize hn : (((a.toNat - 0xF0) * 64 + (b.toNat - 0x80)) * 64 + (c.toNat - 0x80)) * 64 +
    (d.toNat - 0x80) = n
  unfold String.utf8EncodeChar
  rw [val_toNat_ofNat (by omega)]
  dsimp only
  rw [if_neg (by omega), if_neg (by omega), if_neg (by omega),
    ofNat_eq_of_toNat (b := a) (by omega), ofNat_eq_of_toNat (b := b) (by omega),
    ofNat_eq_of_toNat (b := c) (by omega), ofNat_eq_of_toNat (b := d) (by omega)]

/-- A character below 128 is one byte. -/
@[simp] theorem encodeChar_ascii {c : Char} (h : c.toNat < 0x80) :
    String.utf8EncodeChar c = [UInt8.ofNat c.toNat] := by
  unfold String.utf8EncodeChar
  exact if_pos (by change c.toNat ≤ 127; omega)

/-- The first byte of a character past those is no character of its own. -/
theorem encodeChar_of_not_ascii {c : Char} (h : 0x80 ≤ c.toNat) :
    ∃ b bs, String.utf8EncodeChar c = b :: bs ∧ 0x80 ≤ b.toNat := by
  have hc := toNat_isValidChar c
  have hv : c.val.toNat = c.toNat := rfl
  unfold String.utf8EncodeChar
  rw [hv]
  clear hv
  generalize c.toNat = v at *
  dsimp only
  split
  · omega
  split
  · exact ⟨_, _, rfl, by rw [toNat_ofNat_of_lt (by omega)]; omega⟩
  split
  · exact ⟨_, _, rfl, by rw [toNat_ofNat_of_lt (by omega)]; omega⟩
  · exact ⟨_, _, rfl, by rw [toNat_ofNat_of_lt (by omega)]; omega⟩

/-- No byte of a character past those is one of theirs. -/
theorem le_of_mem_encodeChar {c : Char} {b : UInt8} (hc : 0x80 ≤ c.toNat)
    (hb : b ∈ String.utf8EncodeChar c) : 0x80 ≤ b.toNat := by
  have hvalid := toNat_isValidChar c
  have hv : c.val.toNat = c.toNat := rfl
  unfold String.utf8EncodeChar at hb
  rw [hv] at hb
  clear hv
  generalize c.toNat = v at *
  have hmade {n : Nat} (hn : 0x80 ≤ n ∧ n < 0x100) (h : b = UInt8.ofNat n) : 0x80 ≤ b.toNat := by
    rw [h, toNat_ofNat_of_lt hn.2]
    exact hn.1
  dsimp only at hb
  split at hb
  · omega
  split at hb
  · simp only [List.mem_cons, List.not_mem_nil, or_false] at hb
    rcases hb with hb | hb <;> exact hmade (by omega) hb
  split at hb
  · simp only [List.mem_cons, List.not_mem_nil, or_false] at hb
    rcases hb with hb | hb | hb <;> exact hmade (by omega) hb
  · simp only [List.mem_cons, List.not_mem_nil, or_false] at hb
    rcases hb with hb | hb | hb | hb <;> exact hmade (by omega) hb

/-- A well-formed character at the front of a byte sequence stands there with the bytes that it is
written with. -/
theorem eq_encodeChar_of_next? {s r : List UInt8} {c : Char} (h : next? s = some (c, r)) :
    s = String.utf8EncodeChar c ++ r := by
  -- The first byte tells the length of the character, from one byte to four.
  unfold next? at h
  split at h
  · cases h
  rename_i a rest
  split at h
  · rename_i ha
    cases h
    rw [encodeChar_one (UInt8.lt_iff_toNat_lt.mp ha)]
    rfl
  split at h
  · rename_i ha
    simp only [Bool.and_eq_true, decide_eq_true_eq, UInt8.le_iff_toNat_le, UInt8.reduceToNat]
      at ha
    split at h
    · split at h
      · rename_i hb
        obtain ⟨rfl, rfl⟩ := Prod.mk.inj (Option.some.inj h)
        rw [encodeChar_two ha hb]
        rfl
      · cases h
    · cases h
  split at h
  · rename_i ha
    simp only [Bool.and_eq_true, decide_eq_true_eq, UInt8.le_iff_toNat_le, UInt8.reduceToNat]
      at ha
    split at h
    · split at h
      · rename_i hbc
        obtain ⟨rfl, rfl⟩ := Prod.mk.inj (Option.some.inj h)
        rw [Bool.and_eq_true] at hbc
        rw [encodeChar_three ha hbc.1 hbc.2]
        rfl
      · cases h
    · cases h
  split at h
  · rename_i ha
    simp only [Bool.and_eq_true, decide_eq_true_eq, UInt8.le_iff_toNat_le, UInt8.reduceToNat]
      at ha
    split at h
    · split at h
      · rename_i hbcd
        obtain ⟨rfl, rfl⟩ := Prod.mk.inj (Option.some.inj h)
        rw [Bool.and_eq_true, Bool.and_eq_true] at hbcd
        rw [encodeChar_four ha hbcd.1.1 hbcd.1.2 hbcd.2]
        rfl
      · cases h
    · cases h
  · cases h

/-- The empty text is encoded as no bytes. -/
@[simp] theorem encode_nil : encode [] = [] := rfl

/-- A text is encoded character by character. -/
@[simp] theorem encode_cons (c : Char) (t : List Char) :
    encode (c :: t) = String.utf8EncodeChar c ++ encode t := rfl

/-- A text behind a text is encoded behind it. -/
@[simp] theorem encode_append (t u : List Char) : encode (t ++ u) = encode t ++ encode u :=
  List.flatMap_append

/-- A byte below 128 in the encoding of a text is the byte of one of its characters. -/
theorem ofNat_mem_of_mem_encode {b : UInt8} {t : List Char} (hb : b.toNat < 0x80)
    (h : b ∈ encode t) : Char.ofNat b.toNat ∈ t := by
  obtain ⟨c, hc, hmem⟩ := List.mem_flatMap.mp h
  by_cases hascii : c.toNat < 0x80
  · rw [encodeChar_ascii hascii, List.mem_singleton] at hmem
    rwa [hmem, toNat_ofNat_of_lt (by omega), Char.ofNat_toNat]
  · have hle := le_of_mem_encodeChar (by omega) hmem
    omega

/-- The text behind the first character of a byte sequence. -/
theorem decode?_of_next? {s r : List UInt8} {c : Char} (h : next? s = some (c, r)) :
    decode? s = (decode? r).map (c :: ·) := by
  have hs : s ≠ [] := by
    rintro rfl
    cases h
  rw [decode?, if_neg (by simpa using hs)]
  split
  · simp_all
  · simp_all

/-- Every text is decoded from its encoding. -/
@[simp] theorem decode?_encode (t : List Char) : decode? (encode t) = some t := by
  induction t with
  | nil => simp [decode?]
  | cons c t ih => rw [encode_cons, decode?_of_next? (next?_encodeChar c _), ih, Option.map_some]

/-- Decoding a byte sequence gives the text whose encoding it is, if there is one. -/
theorem decode?_eq_some_iff {s : List UInt8} {t : List Char} :
    decode? s = some t ↔ s = encode t := by
  refine ⟨fun h => ?_, fun h => h ▸ decode?_encode t⟩
  induction s using decode?.induct generalizing t with
  | case1 s hs =>
    rw [decode?, if_pos hs] at h
    cases h
    simpa using hs
  | case2 s hs hnone =>
    rw [decode?, if_neg hs] at h
    split at h
    · cases h
    · simp_all
  | case3 s hs c r hnext _ ih =>
    rw [decode?_of_next? hnext, Option.map_eq_some_iff] at h
    obtain ⟨u, hu, rfl⟩ := h
    rw [encode_cons, ← ih hu]
    exact eq_encodeChar_of_next? hnext

/-- A byte sequence holds a string exactly if it is the bytes of that string. -/
theorem toString?_eq_some_iff {s : List UInt8} {text : String} :
    toString? s = some text ↔ s = ofString text := by
  rw [toString?, Option.map_eq_some_iff]
  constructor
  · rintro ⟨t, ht, rfl⟩
    rw [decode?_eq_some_iff.mp ht, ofString, String.toList_ofList]
  · rintro rfl
    exact ⟨text.toList, decode?_encode _, String.ofList_toList⟩

/-- What holds of the characters of a byte sequence holds of those of its string. -/
theorem exists_eq_encode_iff {s : List UInt8} {P : List Char → Prop} :
    (∃ t, s = encode t ∧ P t) ↔ ∃ text, toString? s = some text ∧ P text.toList := by
  simp only [toString?_eq_some_iff]
  constructor
  · rintro ⟨t, rfl, ht⟩
    exact ⟨String.ofList t, by rw [ofString, String.toList_ofList], by rwa [String.toList_ofList]⟩
  · rintro ⟨text, rfl, ht⟩
    exact ⟨text.toList, rfl, ht⟩

/-- The bytes of two texts differ if the texts do. -/
theorem encode_injective {t u : List Char} (h : encode t = encode u) : t = u := by
  have hu := decode?_encode u
  rw [← h, decode?_encode, Option.some.injEq] at hu
  exact hu

end Phrasebook.Utf8
