import Phrasebook.Json.Kind
import Phrasebook.Proofs.Json.Numerals
import Phrasebook.Proofs.Json.Strings

/-!
# Reading values

The value reader takes exactly the values of the grammar that do not nest too deep, and a whole text
is read exactly if it is a document. `Reads` is what a reader has to satisfy for this; lists,
members and objects inherit it from the reader of their parts.
-/

namespace Phrasebook.Json

namespace Reader

open Except (bind_eq_ok_iff map_eq_ok_iff)
open Utf8 (encode encode_cons encode_nil encode_append)

variable {α : Type}

/-! ### White space -/

/-- The bytes of white space are those that a reader skips. -/
theorem isSpace_of_isBlank {t : List Char} (h : IsBlank t) : ∀ b ∈ encode t, isSpace b = true := by
  intro b hb
  obtain ⟨c, hc, hb⟩ := List.mem_flatMap.mp hb
  rcases h c hc with rfl | rfl | rfl | rfl <;>
    rw [List.mem_singleton.mp hb] <;> decide

/-- White space is skipped together with what is skipped behind it. -/
theorem skipSpace_encode {t : List Char} (h : IsBlank t) (s : List UInt8) :
    skipSpace (encode t ++ s) = skipSpace s :=
  List.dropWhile_append_of_pos (isSpace_of_isBlank h)

/-- Nothing is skipped in front of a byte that is no white space. -/
theorem skipSpace_cons {b : UInt8} (h : isSpace b = false) (s : List UInt8) :
    skipSpace (b :: s) = b :: s :=
  List.dropWhile_cons_of_neg (by simp [h])

/-- What is skipped is white space. -/
theorem exists_blank (s : List UInt8) : ∃ t, IsBlank t ∧ s = encode t ++ skipSpace s := by
  have hspace : ∀ b ∈ s.takeWhile isSpace, isSpace b = true :=
    List.all_eq_true.mp List.all_takeWhile
  have hbyte {b : UInt8} (h : isSpace b = true) :
      b.toNat < 0x80 ∧ (Char.ofNat b.toNat = ' ' ∨ Char.ofNat b.toNat = '\n' ∨
        Char.ofNat b.toNat = '\t' ∨ Char.ofNat b.toNat = '\r') := by
    simp only [isSpace, Bool.or_eq_true, decide_eq_true_eq] at h
    rcases h with ((rfl | rfl) | rfl) | rfl <;> decide
  refine ⟨asciiChars (s.takeWhile isSpace), fun c hc => ?_, ?_⟩
  · obtain ⟨b, hb, rfl⟩ := List.mem_map.mp hc
    exact (hbyte (hspace b hb)).2
  · rw [encode_asciiChars fun b hb => (hbyte (hspace b hb)).1]
    exact (List.takeWhile_append_dropWhile).symm

/-- Neither white space nor what stops a numeral makes one longer. -/
theorem stops_encode_append {t : List Char} {s : List UInt8} (ht : IsBlank t) (hs : Stops s) :
    Stops (encode t ++ s) := by
  intro b hb
  cases hbytes : encode t with
  | nil =>
    rw [hbytes] at hb
    exact hs b hb
  | cons x bytes =>
    rw [hbytes] at hb
    obtain rfl : x = b := by simpa using hb
    have hx := isSpace_of_isBlank ht x (by simp [hbytes])
    simp only [isSpace, Bool.or_eq_true, decide_eq_true_eq] at hx
    rcases hx with ((rfl | rfl) | rfl) | rfl <;> decide

/-! ### What a reader does -/

/-- A reader takes white space and a text of a value, and nothing else. Without white space in
front it takes every such text, unless what follows would make a numeral longer. -/
structure Reads (read : Reader α) (P : α → List Char → Prop) : Prop where
  sound : ∀ {s rest : List UInt8} {v : α}, read s = .ok (v, rest) →
    ∃ b t, IsBlank b ∧ P v t ∧ s = encode (b ++ t) ++ rest
  complete : ∀ {rest : List UInt8} {v : α} {t : List Char}, P v t → Stops rest →
    read (encode t ++ rest) = .ok (v, rest)
  /-- No text starts with white space or with a byte that closes a list. -/
  opens : ∀ {v : α} {t : List Char}, P v t →
    ∃ b bs, encode t = b :: bs ∧ isSpace b = false ∧ b ≠ 0x5D ∧ b ≠ 0x7D

/-- A reader passes over white space in front. -/
def SkipsBlank (read : Reader α) : Prop :=
  ∀ {t : List Char}, IsBlank t → ∀ s, read (encode t ++ s) = read s

section Lists

variable {P : α → List Char → Prop} {item : Reader α} {close : UInt8} {atEnd noComma : Problem}

/-- The bytes that close a list. -/
def IsClosing (close : UInt8) : Prop := close = 0x5D ∨ close = 0x7D

/-- A closing byte is no white space. -/
theorem IsClosing.isSpace_eq (h : IsClosing close) : isSpace close = false := by
  rcases h with rfl | rfl <;> decide

/-- A closing byte is no comma. -/
theorem IsClosing.ne_comma (h : IsClosing close) : close ≠ 0x2C := by
  rcases h with rfl | rfl <;> decide

/-- A byte that closes neither kind of list does not close this one. -/
theorem IsClosing.ne (h : IsClosing close) {b : UInt8} (hbracket : b ≠ 0x5D) (hbrace : b ≠ 0x7D) :
    b ≠ close := by
  rcases h with rfl | rfl
  · exact hbracket
  · exact hbrace

/-- A numeral in front of a closing byte is at its end. -/
theorem IsClosing.stops (h : IsClosing close) (rest : List UInt8) : Stops (close :: rest) := by
  intro b hb
  obtain rfl : close = b := by simpa using hb
  rcases h with rfl | rfl <;> decide

/-- A numeral in front of a comma is at its end. -/
theorem stops_comma (rest : List UInt8) : Stops (0x2C :: rest) := by
  intro b hb
  obtain rfl : 0x2C = b := by simpa using hb
  decide

/-- What is read as a list is a list of the grammar. -/
theorem separated_of_listed (hitem : Reads item P) {rounds : Nat} {s rest : List UInt8}
    {vs : List α} (h : listed close atEnd noComma item rounds s = .ok (vs, rest)) :
    ∃ t, Separated P vs t ∧ s = encode t ++ close :: rest := by
  induction rounds generalizing s vs with
  | zero => cases h
  | succ rounds ih =>
    rw [listed, bind_eq_ok_iff] at h
    obtain ⟨⟨v, after⟩, hv, h⟩ := h
    obtain ⟨b, t, hb, ht, rfl⟩ := hitem.sound hv
    obtain ⟨b', hb', hafter⟩ := exists_blank after
    dsimp only at h
    split at h
    · cases h
    rename_i x tail htail
    rw [htail] at hafter
    have hone : Padded P v (b ++ t ++ b') := .mk hb ht hb'
    -- A comma has one more item behind it, and the closing byte ends the list.
    split at h
    · rename_i hcomma
      obtain ⟨b'', hb'', hblank⟩ := exists_blank tail
      split at h
      · cases h
      rename_i c more hmore
      rw [hmore] at hblank
      split at h
      · cases h
      rw [bind_eq_ok_iff] at h
      obtain ⟨⟨vs', _⟩, hvs, h⟩ := h
      obtain ⟨rfl, rfl⟩ := Prod.mk.inj (Except.ok.inj h)
      obtain ⟨u, hu, hbytes⟩ := ih hvs
      refine ⟨b ++ t ++ b' ++ ',' :: (b'' ++ u), .more hone (hu.blank_append hb''), ?_⟩
      simp [hafter, hblank, hbytes, hcomma]
    split at h
    · rename_i hclose
      obtain ⟨rfl, rfl⟩ := Prod.mk.inj (Except.ok.inj h)
      exact ⟨_, .one hone, by simp [hafter, hclose]⟩
    · cases h

/-- Behind white space a reader finds a text of its value. -/
theorem Reads.skipSpace_padded (hitem : Reads item P) {v : α} {t : List Char}
    (h : Padded P v t) : ∃ u after, P v u ∧ IsBlank after ∧
      ∀ s, skipSpace (encode t ++ s) = encode u ++ (encode after ++ s) := by
  obtain ⟨hbefore, hu, hafter⟩ := h
  rename_i before u after
  obtain ⟨b, bs, hbytes, hspace, -, -⟩ := hitem.opens hu
  refine ⟨u, after, hu, hafter, fun s => ?_⟩
  rw [encode_append, encode_append, List.append_assoc, List.append_assoc,
    skipSpace_encode hbefore, hbytes]
  exact skipSpace_cons hspace _

/-- Behind white space a list starts with a byte of its first item, and it has at least as many
bytes as items. -/
theorem Reads.opens_separated (hitem : Reads item P) {vs : List α} {t : List Char}
    (h : Separated P vs t) (rest : List UInt8) :
    ∃ b bs, skipSpace (encode t ++ rest) = b :: bs ∧ b ≠ 0x5D ∧ b ≠ 0x7D ∧
      vs.length ≤ bs.length + 1 := by
  induction h with
  | one h =>
    obtain ⟨u, after, hu, -, hskip⟩ := hitem.skipSpace_padded h
    obtain ⟨b, bs, hbytes, -, hne⟩ := hitem.opens hu
    rw [hskip, hbytes]
    exact ⟨b, _, rfl, hne.1, hne.2, by simp⟩
  | @more v vs t u h _ ih =>
    obtain ⟨w, after, hw, -, hskip⟩ := hitem.skipSpace_padded h
    obtain ⟨b, bs, hbytes, -, hne⟩ := hitem.opens hw
    obtain ⟨c, cs, hrest, -, -, hlength⟩ := ih
    have hle : (skipSpace (encode u ++ rest)).length ≤ (encode u ++ rest).length :=
      (List.dropWhile_suffix isSpace).length_le
    rw [encode_append, List.append_assoc, hskip, hbytes]
    refine ⟨b, _, rfl, hne.1, hne.2, ?_⟩
    rw [hrest] at hle
    simp at hle ⊢
    omega

/-- Every list of the grammar is read. -/
theorem listed_encode (hitem : Reads item P) (hclose : IsClosing close) {vs : List α}
    {t : List Char} (h : Separated P vs t) {rounds : Nat} (hrounds : vs.length ≤ rounds)
    (rest : List UInt8) :
    listed close atEnd noComma item rounds (skipSpace (encode t ++ close :: rest)) =
      .ok (vs, rest) := by
  induction h generalizing rounds with
  | one h =>
    obtain ⟨rounds, rfl⟩ : ∃ n, rounds = n + 1 := Nat.exists_eq_add_of_le' hrounds
    obtain ⟨u, after, hu, hafter, hskip⟩ := hitem.skipSpace_padded h
    have hread := hitem.complete hu (stops_encode_append hafter (hclose.stops rest))
    have hend : skipSpace (encode after ++ close :: rest) = close :: rest := by
      rw [skipSpace_encode hafter, skipSpace_cons hclose.isSpace_eq]
    rw [hskip, listed, hread]
    simp only [bind, Except.bind, hend, hclose.ne_comma, if_false, if_true]
  | @more v vs t u h hs ih =>
    obtain ⟨rounds, rfl⟩ := Nat.exists_eq_add_of_le' (Nat.le_trans (Nat.le_add_left ..) hrounds)
    obtain ⟨w, after, hw, hafter, hskip⟩ := hitem.skipSpace_padded h
    obtain ⟨c, cs, hnext, hbracket, hbrace, -⟩ := hitem.opens_separated hs (close :: rest)
    have hread := hitem.complete hw
      (stops_encode_append hafter (stops_comma (encode u ++ close :: rest)))
    have hend (s : List UInt8) : skipSpace (encode after ++ 0x2C :: s) = 0x2C :: s := by
      rw [skipSpace_encode hafter, skipSpace_cons (by decide)]
    -- What follows the comma is an item, so it does not close the list.
    have hne := hclose.ne hbracket hbrace
    have hrest := ih (Nat.le_of_succ_le_succ hrounds)
    rw [hnext] at hrest
    have hbytes : encode (t ++ ',' :: u) ++ close :: rest =
        encode t ++ 0x2C :: (encode u ++ close :: rest) := by simp
    rw [hbytes, hskip, listed, hread]
    simp only [bind, Except.bind, hend, hnext, hne, hrest, if_true, if_false]

/-- After its opening byte a list is read exactly if it is one of the grammar. -/
theorem enclosed_eq_ok_iff (hitem : Reads item P) (hclose : IsClosing close)
    {s rest : List UInt8} {vs : List α} :
    enclosed close atEnd noComma item s = .ok (vs, rest) ↔
      ∃ t, Listing P vs t ∧ s = encode t ++ close :: rest := by
  constructor
  · intro h
    obtain ⟨b, hb, hblank⟩ := exists_blank s
    unfold enclosed at h
    split at h
    · cases h
    rename_i x tail htail
    rw [htail] at hblank
    split at h
    · rename_i hx
      obtain ⟨rfl, rfl⟩ := Prod.mk.inj (Except.ok.inj h)
      exact ⟨b, .empty hb, by rw [hblank, hx]⟩
    · obtain ⟨t, ht, hbytes⟩ := separated_of_listed hitem h
      exact ⟨b ++ t, .separated (ht.blank_append hb), by simp [hblank, hbytes]⟩
  · rintro ⟨t, ht, rfl⟩
    unfold enclosed
    cases ht with
    | empty ht =>
      rw [skipSpace_encode ht, skipSpace_cons hclose.isSpace_eq]
      simp
    | separated ht =>
      obtain ⟨c, cs, hnext, hbracket, hbrace, hlength⟩ := hitem.opens_separated ht (close :: rest)
      have hne := hclose.ne hbracket hbrace
      have hread := @listed_encode _ _ _ _ atEnd noComma hitem hclose _ _ ht _ hlength rest
      rw [hnext] at hread ⊢
      simpa [hne] using hread

/-- Behind its bracket an array is read exactly as the grammar has it. -/
theorem array_eq_ok_iff (hitem : Reads item P) {s rest : List UInt8} {vs : List α} :
    array item s = .ok (vs, rest) ↔ ∃ t, ArrayOf P vs t ∧ 0x5B :: s = encode t ++ rest := by
  unfold array
  rw [enclosed_eq_ok_iff hitem (.inl rfl)]
  constructor
  · rintro ⟨t, ht, rfl⟩
    exact ⟨_, .mk ht, by simp⟩
  · rintro ⟨_, ⟨ht⟩, hbytes⟩
    exact ⟨_, ht, by simpa using hbytes⟩

/-- A member is read if its value is. -/
theorem Reads.member (hitem : Reads item P) (hskip : SkipsBlank item) :
    Reads (Reader.member item) (Member P) where
  sound := by
    rintro s rest ⟨key, v⟩ h
    unfold Reader.member at h
    split at h
    · cases h
    split at h
    · rename_i q tail hq
      rw [bind_eq_ok_iff] at h
      obtain ⟨⟨_, after⟩, hkey, h⟩ := h
      obtain ⟨k, hk, rfl⟩ := text_eq_ok_iff.mp hkey
      -- Behind the key the colon has to come, with white space before and behind it.
      obtain ⟨b, hb, hblank⟩ := exists_blank after
      dsimp only at h
      split at h
      · cases h
      rename_i colon more hmore
      rw [hmore] at hblank
      split at h
      · rename_i hcolon
        rw [bind_eq_ok_iff] at h
        obtain ⟨⟨_, _⟩, hv, h⟩ := h
        obtain ⟨⟨rfl, rfl⟩, rfl⟩ : (_ ∧ _) ∧ _ := by simpa using h
        obtain ⟨b', t, hb', ht, rfl⟩ := hitem.sound hv
        refine ⟨[], _, by simp [IsBlank], .mk (.mk hk) hb hb' ht, ?_⟩
        simp [hq, hblank, hcolon]
      · cases h
    · cases h
  complete := by
    rintro rest _ _ ⟨⟨hk⟩, hbefore, hafter, h⟩ hrest
    rename_i key v before after t k
    have hbytes : encode ('"' :: k ++ ['"'] ++ before ++ ':' :: after ++ t) ++ rest =
        0x22 :: (encode k ++ 0x22 ::
          (encode before ++ 0x3A :: (encode after ++ (encode t ++ rest)))) := by simp
    have hkey := text_eq_ok_iff.mpr ⟨k, hk, @rfl _ (encode k ++ 0x22 ::
      (encode before ++ 0x3A :: (encode after ++ (encode t ++ rest))))⟩
    have hcolon (s : List UInt8) : skipSpace (encode before ++ 0x3A :: s) = 0x3A :: s := by
      rw [skipSpace_encode hbefore, skipSpace_cons (by decide)]
    rw [hbytes]
    simp only [Reader.member, hkey, bind, Except.bind, hcolon, if_true, hskip hafter,
      hitem.complete h hrest]
  opens := by
    rintro _ _ ⟨⟨hk⟩, -, -, -⟩
    exact ⟨0x22, _, rfl, by decide⟩

/-- Behind its brace an object is read exactly as the grammar has it. -/
theorem object_eq_ok_iff (hitem : Reads item P) (hskip : SkipsBlank item) {s rest : List UInt8}
    {members : List (String × α)} :
    object item s = .ok (members, rest) ↔
      ∃ t, ObjectOf P members t ∧ 0x7B :: s = encode t ++ rest := by
  unfold object
  rw [enclosed_eq_ok_iff (hitem.member hskip) (.inr rfl)]
  constructor
  · rintro ⟨t, ht, rfl⟩
    exact ⟨_, .mk ht, by simp⟩
  · rintro ⟨_, ⟨ht⟩, hbytes⟩
    exact ⟨_, ht, by simpa using hbytes⟩

end Lists

/-! ### Values -/

/-- Behind its quote a string is read exactly as the grammar has it. -/
theorem text_eq_ok_iff_quoted {s rest : List UInt8} {v : String} :
    text s = .ok (v, rest) ↔ ∃ t, Quoted v t ∧ 0x22 :: s = encode t ++ rest := by
  rw [text_eq_ok_iff]
  constructor
  · rintro ⟨t, ht, rfl⟩
    exact ⟨_, .mk ht, by simp⟩
  · rintro ⟨_, ⟨ht⟩, hbytes⟩
    exact ⟨_, ht, by simpa using hbytes⟩

/-- A literal is read exactly if its bytes come next. -/
theorem literal_eq_ok_iff {v w : Json} {expected s rest : List UInt8} :
    literal v expected s = .ok (w, rest) ↔ v = w ∧ s = expected ++ rest := by
  induction expected generalizing s with
  | nil => simp [literal]
  | cons e expected ih =>
    cases s with
    | nil => simp [literal]
    | cons b s =>
      rw [literal]
      split
      · rename_i hb
        simp [ih, hb]
      · rename_i hb
        simp [hb]

/-- The value reader passes over white space in front. -/
theorem skipsBlank_value (room : Nat) : SkipsBlank (value room) := by
  intro t ht s
  unfold value
  simp only [skipSpace_encode ht]

/-- The first byte of a number is no white space and no letter. -/
theorem ne_of_isDigit {b : UInt8} (h : b = 0x2D ∨ isDigit b = true) :
    isSpace b = false ∧ b ≠ 0x6E ∧ b ≠ 0x74 ∧ b ≠ 0x66 ∧ b ≠ 0x5D ∧ b ≠ 0x7D := by
  rcases h with rfl | h
  · decide
  · have hne {x : UInt8} (hx : isDigit x = false) : b ≠ x := by
      rintro rfl
      exact absurd h (by simp [hx])
    refine ⟨?_, hne rfl, hne rfl, hne rfl, hne rfl, hne rfl⟩
    simp only [isSpace, Bool.or_eq_false_iff, decide_eq_false_iff_not]
    exact ⟨⟨⟨hne rfl, hne rfl⟩, hne rfl⟩, hne rfl⟩

/-- A scalar opens with a byte that is no white space and closes no list. -/
theorem opens_scalar {v : Json} {t : List Char} (h : Scalar v t) :
    ∃ b bs, encode t = b :: bs ∧ isSpace b = false ∧ b ≠ 0x5D ∧ b ≠ 0x7D := by
  cases h with
  | null => exact ⟨0x6E, _, rfl, by decide⟩
  | true => exact ⟨0x74, _, rfl, by decide⟩
  | false => exact ⟨0x66, _, rfl, by decide⟩
  | number h =>
    obtain ⟨b, bs, hbytes, hb⟩ := exists_cons_of_isNumeral h
    obtain ⟨hspace, -, -, -, hne⟩ := ne_of_isDigit hb
    exact ⟨b, bs, hbytes, hspace, hne⟩
  | string h =>
    obtain ⟨_⟩ := h
    exact ⟨0x22, _, rfl, by decide⟩

/-- Every scalar of the grammar is read. -/
theorem value_scalar {v : Json} {t : List Char} {rest : List UInt8} (h : Scalar v t)
    (hrest : Stops rest) (room : Nat) : value room (encode t ++ rest) = .ok (v, rest) := by
  unfold value
  cases h with
  | null =>
    have hbytes : encode ['n', 'u', 'l', 'l'] ++ rest = 0x6E :: ([0x75, 0x6C, 0x6C] ++ rest) := by
      simp
    rw [hbytes, skipSpace_cons (by decide)]
    exact (if_pos rfl).trans (literal_eq_ok_iff.mpr ⟨rfl, rfl⟩)
  | true =>
    have hbytes : encode ['t', 'r', 'u', 'e'] ++ rest = 0x74 :: ([0x72, 0x75, 0x65] ++ rest) := by
      simp
    rw [hbytes, skipSpace_cons (by decide)]
    exact (if_neg (by decide)).trans ((if_pos rfl).trans (literal_eq_ok_iff.mpr ⟨rfl, rfl⟩))
  | false =>
    have hbytes : encode ['f', 'a', 'l', 's', 'e'] ++ rest =
        0x66 :: ([0x61, 0x6C, 0x73, 0x65] ++ rest) := by simp
    rw [hbytes, skipSpace_cons (by decide)]
    exact (if_neg (by decide)).trans ((if_neg (by decide)).trans
      ((if_pos rfl).trans (literal_eq_ok_iff.mpr ⟨rfl, rfl⟩)))
  | number h =>
    have hnumber := number_encode h hrest
    obtain ⟨b, bs, hbytes, hb⟩ := exists_cons_of_isNumeral h
    obtain ⟨hspace, hn, ht, hf, -⟩ := ne_of_isDigit hb
    rw [hbytes, List.cons_append] at hnumber ⊢
    rw [skipSpace_cons hspace]
    simp only [hn, ht, hf, hb, if_true, if_false, hnumber, Except.map]
  | string h =>
    obtain ⟨h⟩ := h
    rename_i text u
    have hbytes : encode ('"' :: u ++ ['"']) ++ rest = 0x22 :: (encode u ++ 0x22 :: rest) := by simp
    have htext := text_eq_ok_iff.mpr ⟨u, h, @rfl _ (encode u ++ 0x22 :: rest)⟩
    have hdigit : ¬ (0x22 = (0x2D : UInt8) ∨ isDigit 0x22 = true) := by decide
    rw [hbytes, skipSpace_cons (by decide)]
    simp [htext, Except.map, isDigit]

/-- What a byte is read as that is no white space. -/
theorem exists_of_value {room : Nat} (hroom : ∀ n, room = n + 1 → Reads (value n) (ValueWithin n))
    {s rest : List UInt8} {v : Json} (h : value room s = .ok (v, rest)) :
    ∃ t, ValueWithin room v t ∧ skipSpace s = encode t ++ rest := by
  unfold value at h
  split at h
  · cases h
  -- The first byte decides: the three literals, a numeral, a string, an array, an object.
  rename_i b tail hs
  rw [hs]
  split at h
  · rename_i hb
    obtain ⟨rfl, rfl⟩ := literal_eq_ok_iff.mp h
    exact ⟨_, .of_scalar .null room, by simp [hb]⟩
  split at h
  · rename_i hb
    obtain ⟨rfl, rfl⟩ := literal_eq_ok_iff.mp h
    exact ⟨_, .of_scalar .true room, by simp [hb]⟩
  split at h
  · rename_i hb
    obtain ⟨rfl, rfl⟩ := literal_eq_ok_iff.mp h
    exact ⟨_, .of_scalar .false room, by simp [hb]⟩
  split at h
  · obtain ⟨⟨n, _⟩, hn, h⟩ := map_eq_ok_iff.mp h
    obtain ⟨rfl, rfl⟩ := Prod.mk.inj h
    obtain ⟨t, ht, hbytes⟩ := isNumeral_of_number hn
    exact ⟨t, .of_scalar (.number ht) room, hbytes⟩
  split at h
  · rename_i hb
    obtain ⟨⟨text, _⟩, htext, h⟩ := map_eq_ok_iff.mp h
    obtain ⟨rfl, rfl⟩ := Prod.mk.inj h
    obtain ⟨t, ht, rfl⟩ := text_eq_ok_iff.mp htext
    exact ⟨_, .of_scalar (.string (.mk ht)) room, by simp [hb]⟩
  split at h
  · rename_i hb
    cases room with
    | zero => cases h
    | succ room =>
      obtain ⟨⟨items, _⟩, hitems, h⟩ := map_eq_ok_iff.mp h
      obtain ⟨rfl, rfl⟩ := Prod.mk.inj h
      obtain ⟨t, ht, hbytes⟩ := (array_eq_ok_iff (hroom room rfl)).mp hitems
      exact ⟨t, .inr (.inl ⟨items, rfl, ht⟩), by rw [hb, hbytes]⟩
  split at h
  · rename_i hb
    cases room with
    | zero => cases h
    | succ room =>
      obtain ⟨⟨members, _⟩, hmembers, h⟩ := map_eq_ok_iff.mp h
      obtain ⟨rfl, rfl⟩ := Prod.mk.inj h
      obtain ⟨t, ht, hbytes⟩ :=
        (object_eq_ok_iff (hroom room rfl) (skipsBlank_value room)).mp hmembers
      exact ⟨t, .inr (.inr ⟨members, rfl, ht⟩), by rw [hb, hbytes]⟩
  · cases h

/-- An array opens with its bracket. -/
theorem opens_arrayOf {P : α → List Char → Prop} {vs : List α} {t : List Char}
    (h : ArrayOf P vs t) : ∃ bs, encode t = 0x5B :: bs := by
  obtain ⟨_⟩ := h
  exact ⟨_, rfl⟩

/-- An object opens with its brace. -/
theorem opens_objectOf {P : α → List Char → Prop} {members : List (String × α)} {t : List Char}
    (h : ObjectOf P members t) : ∃ bs, encode t = 0x7B :: bs := by
  obtain ⟨_⟩ := h
  exact ⟨_, rfl⟩

/-- A string opens with its quote. -/
theorem opens_quoted {v : String} {t : List Char} (h : Quoted v t) :
    ∃ bs, encode t = 0x22 :: bs := by
  obtain ⟨_⟩ := h
  exact ⟨_, rfl⟩

/-- Every array of values and every object of values is read. -/
theorem value_arrayOf {room : Nat} (hroom : Reads (value room) (ValueWithin room))
    {items : List Json} {t : List Char} (h : ArrayOf (ValueWithin room) items t)
    (rest : List UInt8) : value (room + 1) (encode t ++ rest) = .ok (.array items, rest) := by
  obtain ⟨bs, hbytes⟩ := opens_arrayOf h
  have hitems : array (value room) (bs ++ rest) = .ok (items, rest) :=
    (array_eq_ok_iff hroom).mpr ⟨t, h, by rw [hbytes]; rfl⟩
  rw [hbytes, List.cons_append, value, skipSpace_cons (by decide)]
  simp [hitems, Except.map, isDigit]

/-- An object takes one level of room, and its values are read in what is left. -/
theorem value_objectOf {room : Nat} (hroom : Reads (value room) (ValueWithin room))
    {members : List (String × Json)} {t : List Char}
    (h : ObjectOf (ValueWithin room) members t) (rest : List UInt8) :
    value (room + 1) (encode t ++ rest) = .ok (.object members, rest) := by
  obtain ⟨bs, hbytes⟩ := opens_objectOf h
  have hmembers : object (value room) (bs ++ rest) = .ok (members, rest) :=
    (object_eq_ok_iff hroom (skipsBlank_value room)).mpr ⟨t, h, by rw [hbytes]; rfl⟩
  rw [hbytes, List.cons_append, value, skipSpace_cons (by decide)]
  simp [hmembers, Except.map, isDigit]

/-- A value with some room is read exactly if it is one of the grammar with as much room. -/
theorem reads_value (room : Nat) : Reads (value room) (ValueWithin room) := by
  have hsound {room : Nat} (hroom : ∀ n, room = n + 1 → Reads (value n) (ValueWithin n))
      {s rest : List UInt8} {v : Json} (h : value room s = .ok (v, rest)) :
      ∃ b t, IsBlank b ∧ ValueWithin room v t ∧ s = encode (b ++ t) ++ rest := by
    obtain ⟨t, ht, hbytes⟩ := exists_of_value hroom h
    obtain ⟨b, hb, hs⟩ := exists_blank s
    exact ⟨b, t, hb, ht, by rw [hs, hbytes, encode_append, List.append_assoc]⟩
  induction room with
  | zero => exact ⟨hsound (by simp), fun h hrest => value_scalar h hrest 0, opens_scalar⟩
  | succ room ih =>
    refine ⟨hsound fun n hn => Nat.succ.inj hn ▸ ih, fun h hrest => ?_, fun h => ?_⟩
    · obtain h | ⟨items, rfl, h⟩ | ⟨members, rfl, h⟩ := h
      · exact value_scalar h hrest _
      · exact value_arrayOf ih h _
      · exact value_objectOf ih h _
    · obtain h | ⟨items, rfl, h⟩ | ⟨members, rfl, h⟩ := h
      · exact opens_scalar h
      · obtain ⟨bs, hbytes⟩ := opens_arrayOf h
        exact ⟨_, bs, hbytes, by decide⟩
      · obtain ⟨bs, hbytes⟩ := opens_objectOf h
        exact ⟨_, bs, hbytes, by decide⟩

/-! ### Whole texts -/

/-- A text is read as a whole exactly if it is one of the reader's with white space around it. -/
theorem document_eq_ok_iff {P : α → List Char → Prop} {read : Reader α} (hread : Reads read P)
    (hskip : SkipsBlank read) {bytes : List UInt8} {v : α} :
    document read bytes = .ok v ↔ ∃ t, Padded P v t ∧ bytes = encode t := by
  unfold document
  constructor
  · intro h
    split at h
    · cases h
    rename_i w after hv
    obtain ⟨b, t, hb, ht, rfl⟩ := hread.sound hv
    obtain ⟨b', hb', hafter⟩ := exists_blank after
    split at h
    · rename_i hend
      obtain rfl := Except.ok.inj h
      rw [hend, List.append_nil] at hafter
      exact ⟨_, .mk hb ht hb', by simp [hafter]⟩
    · cases h
  · rintro ⟨_, ⟨hbefore, ht, hafter⟩, rfl⟩
    rename_i before t after
    have hstops : Stops (encode after) := by
      have := @stops_encode_append _ [] hafter (by simp [Stops])
      rwa [List.append_nil] at this
    have hend : skipSpace (encode after) = [] := by
      have := skipSpace_encode hafter []
      rwa [List.append_nil] at this
    rw [encode_append, encode_append, List.append_assoc, hskip hbefore, hread.complete ht hstops]
    simp only [hend]

/-- A value of the wrong kind is never taken. -/
theorem refuse_ne_ok (expected : String) (s : List UInt8) (r : α × List UInt8) :
    refuse expected s ≠ .ok r := by
  intro h
  unfold refuse at h
  split at h
  · cases h
  split at h
  · cases h
  split at h
  · cases h
  · obtain ⟨_, -, h⟩ := bind_eq_ok_iff.mp h
    cases h

/-- What a reader does that expects one kind of value: behind the byte that opens this kind another
reader goes on, and everything else is refused. -/
def Expects (read inner : Reader α) (opening : UInt8) (kind : String) : Prop :=
  ∀ s, read s = match skipSpace s with
    | b :: rest => if b = opening then inner rest else refuse kind (b :: rest)
    | [] => refuse kind []

section Kinds

variable {P : α → List Char → Prop} {read inner : Reader α} {opening : UInt8} {kind : String}

/-- A reader that expects one kind of value passes over white space in front of it. -/
theorem Expects.skipsBlank (h : Expects read inner opening kind) : SkipsBlank read := by
  intro t ht s
  rw [h, h, skipSpace_encode ht]

/-- A reader that expects one kind of value takes the texts of this kind, and nothing else. -/
theorem Expects.reads (h : Expects read inner opening kind)
    (hinner : ∀ {s rest v},
      inner s = .ok (v, rest) ↔ ∃ t, P v t ∧ opening :: s = encode t ++ rest)
    (hopens : ∀ {v t}, P v t → ∃ bs, encode t = opening :: bs)
    (hopening : isSpace opening = false ∧ opening ≠ 0x5D ∧ opening ≠ 0x7D) : Reads read P where
  sound := by
    intro s rest v hread
    obtain ⟨b, hb, hblank⟩ := exists_blank s
    rw [h] at hread
    split at hread
    · rename_i x tail hs
      split at hread
      · rename_i hx
        obtain ⟨t, ht, hbytes⟩ := hinner.mp hread
        refine ⟨b, t, hb, ht, ?_⟩
        rw [hblank, hs, hx, hbytes, encode_append, List.append_assoc]
      · exact absurd hread (refuse_ne_ok _ _ _)
    · exact absurd hread (refuse_ne_ok _ _ _)
  complete := by
    intro rest v t ht _
    obtain ⟨bs, hbytes⟩ := hopens ht
    have hread : inner (bs ++ rest) = .ok (v, rest) := hinner.mpr ⟨t, ht, by rw [hbytes]; rfl⟩
    rw [hbytes, List.cons_append, h, skipSpace_cons hopening.1]
    exact (if_pos rfl).trans hread
  opens := by
    intro v t ht
    obtain ⟨bs, hbytes⟩ := hopens ht
    exact ⟨_, bs, hbytes, hopening⟩

end Kinds

/-- Where an object is expected, a brace has to come, and the object is read behind it. -/
theorem expects_expectObject (item : Reader α) :
    Expects (expectObject item) (object item) 0x7B "a map" :=
  fun _ => rfl

/-- An object is read where an object is expected, and nothing else. -/
theorem reads_expectObject {P : α → List Char → Prop} {item : Reader α} (hitem : Reads item P)
    (hskip : SkipsBlank item) : Reads (expectObject item) (ObjectOf P) :=
  (expects_expectObject item).reads (object_eq_ok_iff hitem hskip) opens_objectOf (by decide)

/-- White space may stand in front of an object that is expected. -/
theorem skipsBlank_expectObject (item : Reader α) : SkipsBlank (expectObject item) :=
  (expects_expectObject item).skipsBlank

/-- Where a string is expected, a quote has to come, and the string is read behind it. -/
theorem expects_expectString : Expects expectString text 0x22 "a string" :=
  fun _ => rfl

/-- A string is read where a string is expected, and nothing else. -/
theorem reads_expectString : Reads expectString Quoted :=
  expects_expectString.reads text_eq_ok_iff_quoted opens_quoted (by decide)

/-- White space may stand in front of a string that is expected. -/
theorem skipsBlank_expectString : SkipsBlank expectString :=
  expects_expectString.skipsBlank

end Reader

/-- A whole text is read exactly if it is a document that does not nest too deep. -/
theorem ofBytes_eq_ok_iff {bytes : List UInt8} {v : Json} :
    ofBytes bytes = .ok v ↔ ∃ t, bytes = Utf8.encode t ∧ Document v t ∧ v.depth ≤ maxDepth := by
  unfold ofBytes
  rw [Reader.document_eq_ok_iff (Reader.reads_value maxDepth) (Reader.skipsBlank_value maxDepth)]
  constructor
  · rintro ⟨_, ⟨hbefore, h, hafter⟩, rfl⟩
    obtain ⟨hspelled, hdepth⟩ := valueWithin_iff.mp h
    exact ⟨_, rfl, .mk hbefore hspelled hafter, hdepth⟩
  · rintro ⟨t, rfl, hdoc, hdepth⟩
    exact ⟨t, hdoc.imp fun _ h => valueWithin_iff.mpr ⟨h, hdepth⟩, rfl⟩

/-- A whole text is read as a string exactly if it is a document of this string. -/
theorem stringOfBytes_eq_ok_iff {bytes : List UInt8} {text : String} :
    stringOfBytes bytes = .ok text ↔
      ∃ t, bytes = Utf8.encode t ∧ Document (.string text) t := by
  rw [stringOfBytes,
    Reader.document_eq_ok_iff Reader.reads_expectString Reader.skipsBlank_expectString]
  simp only [document_string_iff, and_comm]

/-- A text stands for one value at most. -/
theorem Document.unique {v w : Json} {t : List Char} (hv : Document v t) (hw : Document w t) :
    v = w := by
  have hread {u : Json} (hu : Document u t) (hdepth : u.depth ≤ max v.depth w.depth) :
      Reader.document (Reader.value (max v.depth w.depth)) (Utf8.encode t) = .ok u :=
    (Reader.document_eq_ok_iff (Reader.reads_value _) (Reader.skipsBlank_value _)).mpr
      ⟨t, hu.imp fun _ h => valueWithin_iff.mpr ⟨h, hdepth⟩, rfl⟩
  have hsame := (hread hv (Nat.le_max_left ..)).symm.trans (hread hw (Nat.le_max_right ..))
  exact Except.ok.inj hsame

end Phrasebook.Json
