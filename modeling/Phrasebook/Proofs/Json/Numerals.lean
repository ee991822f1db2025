import Phrasebook.Json.Numeral
import Phrasebook.Proofs.Json.Grammar
import Phrasebook.Proofs.Text.Runs
import Phrasebook.Proofs.Text.Utf8

/-!
# Reading numbers

The number reader takes the numerals of the grammar. It takes as many bytes as it can, so it accepts
a numeral only if what follows would not make it longer.
-/

namespace Phrasebook.Json

/-- What cannot make a numeral longer. -/
def Stops (rest : List UInt8) : Prop :=
  ∀ b ∈ rest.head?, isDigit b = false ∧ b ≠ 0x2E ∧ isExponentMark b = false

namespace Numeral

/-- What starts with no digit. -/
def NoDigit (rest : List UInt8) : Prop := ∀ b ∈ rest.head?, isDigit b = false

section Digits

variable {digits rest : List UInt8} (hdigits : ∀ d ∈ digits, isDigit d = true)
  (hrest : NoDigit rest)

include hdigits hrest

/-- The digits of an exponent give the same number whatever follows them. -/
theorem exponentDigits_append (e : Nat) :
    (exponentDigits e (digits ++ rest)).1 = (exponentDigits e digits).1 ∧
    ((exponentDigits e digits).1 ≠ none → (exponentDigits e (digits ++ rest)).2 = rest) ∧
    (exponentDigits e (digits ++ rest)).2.dropWhile isDigit = rest := by
  induction digits generalizing e with
  | nil =>
    cases rest with
    | nil => simp [exponentDigits]
    | cons b rest => simp [exponentDigits, hrest b rfl]
  | cons d digits ih =>
    obtain ⟨hd, hds⟩ := List.forall_mem_cons.mp hdigits
    simp only [List.cons_append, exponentDigits, hd, if_true]
    split
    · exact ih hds _
    · exact ⟨rfl, fun h => absurd rfl h, Text.dropWhile_run hds hrest⟩

end Digits

/-- At the end of a numeral no more bytes are taken, and the number is the one that the grammar
gives. -/
theorem scaled_eq_ok_iff {isNegative : Bool} {significand : Nat} {e : Int} {s rest : List UInt8}
    {n : JsonNumber} : scaled isNegative significand e s = .ok (n, rest) ↔
      NumeralText.scaled? isNegative significand e = some n ∧ s = rest := by
  unfold scaled NumeralText.scaled?
  cases (toDouble significand).scaleByTen? e <;> simp

/-- In front of a digit a sign is read as the sign that it is. -/
theorem exponentSign_eq_iff {s rest : List UInt8} {isBelow : Bool}
    (hrest : ∀ b ∈ rest.head?, isDigit b = true) :
    exponentSign s = (isBelow, rest) ↔
      ∃ sign, isBelow = Option.getD sign false ∧ s = signBytes sign ++ rest := by
  constructor
  · intro h
    unfold exponentSign at h
    split at h
    · split at h
      · rename_i hb
        cases h
        exact ⟨some false, rfl, by simp [signBytes, hb]⟩
      split at h
      · rename_i hb
        cases h
        exact ⟨some true, rfl, by simp [signBytes, hb]⟩
      · cases h
        exact ⟨none, rfl, rfl⟩
    · cases h
      exact ⟨none, rfl, rfl⟩
  · rintro ⟨sign, rfl, rfl⟩
    match sign with
    | some true => rfl
    | some false => rfl
    | none =>
      cases rest with
      | nil => rfl
      | cons b rest =>
        have hb := hrest b rfl
        have hplus : b ≠ 0x2B := by
          rintro rfl
          exact absurd hb (by decide)
        have hminus : b ≠ 0x2D := by
          rintro rfl
          exact absurd hb (by decide)
        simp [signBytes, exponentSign, hplus, hminus]

/-- The digits in front of a byte sequence that starts with one. -/
theorem areDigits_takeWhile {b : UInt8} (hb : isDigit b = true) (s : List UInt8) :
    AreDigits ((b :: s).takeWhile isDigit) := by
  refine ⟨?_, List.all_eq_true.mp List.all_takeWhile⟩
  rw [List.takeWhile_cons_of_pos hb]
  exact List.cons_ne_nil _ _

/-- The first digit of an exponent is in its range. -/
theorem exponentDigits_cons {d : UInt8} (hd : isDigit d = true) (s : List UInt8) :
    exponentDigits 0 (d :: s) = exponentDigits (digitValue d) s := by
  have hbound : digitValue d ≤ maxExponent := by
    have := UInt8.toNat_lt d
    unfold digitValue maxExponent
    omega
  simp only [exponentDigits, hd, if_true, Nat.zero_mul, Nat.zero_add, if_pos hbound]

/-- After its mark an exponent is read as the number it stands for. -/
theorem exponent_eq_ok_iff {isNegative : Bool} {significand : Nat} {start : Int}
    {rest r : List UInt8} {n : JsonNumber} {e : ExponentText} (he : e.IsProper)
    (hrest : NoDigit rest) :
    exponent isNegative significand start (signBytes e.sign ++ (e.digits ++ rest)) = .ok (n, r) ↔
      NumeralText.raised? isNegative significand start e = some n ∧ rest = r := by
  obtain ⟨hne, hdigits⟩ := he.digits
  obtain ⟨d, ds, hd⟩ := List.exists_cons_of_ne_nil hne
  rw [hd] at hdigits
  obtain ⟨hfirst, hds⟩ := List.forall_mem_cons.mp hdigits
  have hsign : exponentSign (signBytes e.sign ++ (e.digits ++ rest)) =
      (e.isBelow, d :: (ds ++ rest)) := by
    rw [hd, List.cons_append]
    exact (exponentSign_eq_iff (by simpa using hfirst)).mpr ⟨e.sign, rfl, rfl⟩
  obtain ⟨hfst, hsnd, hdrop⟩ := exponentDigits_append hds hrest (digitValue d)
  unfold exponent NumeralText.raised?
  simp only [hsign, hfirst, if_true]
  rw [hd, exponentDigits_cons hfirst, ← hfst]
  rw [← hfst] at hsnd
  generalize exponentDigits (digitValue d) (ds ++ rest) = p at *
  obtain ⟨value, after⟩ := p
  cases value with
  | some k =>
    obtain rfl := hsnd (by simp)
    exact scaled_eq_ok_iff
  | none =>
    dsimp only at hdrop ⊢
    rw [hdrop]
    split <;> simp

/-- Only an exponent is read after its mark. -/
theorem exists_exponentText {isNegative : Bool} {significand : Nat} {start : Int} {mark : UInt8}
    {s : List UInt8} {r : JsonNumber × List UInt8} (hmark : isExponentMark mark = true)
    (h : exponent isNegative significand start s = .ok r) :
    ∃ e : ExponentText, ∃ rest, e.IsProper ∧ NoDigit rest ∧ mark :: s = e.bytes ++ rest := by
  unfold exponent at h
  dsimp only at h
  split at h
  · cases h
  rename_i b after hsign
  split at h
  · rename_i hb
    have hhead : ∀ x ∈ (b :: after).head?, isDigit x = true := by simpa using hb
    obtain ⟨sign, -, rfl⟩ := (exponentSign_eq_iff hhead).mp (Prod.ext rfl hsign)
    refine ⟨⟨mark, sign, (b :: after).takeWhile isDigit⟩, (b :: after).dropWhile isDigit,
      ⟨hmark, areDigits_takeWhile hb after⟩, Text.endsRun_dropWhile _, ?_⟩
    simp only [ExponentText.bytes, List.cons_append, List.append_assoc,
      List.takeWhile_append_dropWhile]
  · cases h

/-- What cannot make a numeral with these parts longer. -/
structure Closes (fraction : Option (List UInt8)) (exponent : Option ExponentText)
    (rest : List UInt8) : Prop where
  digit : NoDigit rest
  mark : exponent = none → ∀ b ∈ rest.head?, isExponentMark b = false
  point : exponent = none → fraction = none → ∀ b ∈ rest.head?, b ≠ 0x2E

/-- What cannot make any numeral longer. -/
theorem Closes.of_stops {rest : List UInt8} (h : Stops rest) (fraction : Option (List UInt8))
    (exponent : Option ExponentText) : Closes fraction exponent rest :=
  ⟨fun b hb => (h b hb).1, fun _ b hb => (h b hb).2.2, fun _ _ b hb => (h b hb).2.1⟩

/-- The mark of an exponent is no digit. -/
theorem isDigit_of_isExponentMark {b : UInt8} (h : isExponentMark b = true) :
    isDigit b = false ∧ b ≠ 0x2E := by
  rcases (by simpa [isExponentMark] using h : b = 0x65 ∨ b = 0x45) with rfl | rfl <;> decide

/-- No digit stands in front of an exponent or of what closes the numeral. -/
theorem Closes.noDigit_append {fraction : Option (List UInt8)} {e : Option ExponentText}
    {rest : List UInt8} (h : Closes fraction e rest) (he : ∀ x ∈ e, x.IsProper) :
    NoDigit (e.elim [] ExponentText.bytes ++ rest) := by
  cases e with
  | none => exact h.digit
  | some e =>
    intro b hb
    obtain rfl : e.mark = b := by simpa [ExponentText.bytes] using hb
    exact (isDigit_of_isExponentMark (he e rfl).mark).1

/-- After its point a fraction is read as the number it stands for. -/
theorem fraction_eq_ok_iff {isNegative : Bool} {significand : Nat} {start : Int}
    {digits rest r : List UInt8} {e : Option ExponentText} {n : JsonNumber}
    (hdigits : AreDigits digits) (he : ∀ x ∈ e, x.IsProper) (hrest : Closes (some digits) e rest) :
    fraction isNegative significand start
        (digits ++ (e.elim [] ExponentText.bytes ++ rest)) = .ok (n, r) ↔
      NumeralText.ended? isNegative (absorb significand digits).1
        (start - (digits.length - (absorb significand digits).2 : Nat)) e = some n ∧ rest = r := by
  have hno := hrest.noDigit_append he
  unfold fraction
  rw [Text.takeWhile_run hdigits.2 hno, Text.dropWhile_run hdigits.2 hno]
  simp only [List.isEmpty_eq_false_iff.mpr hdigits.1, Bool.false_eq_true, if_false]
  cases e with
  | some e =>
    simp only [Option.elim_some, ExponentText.bytes, List.cons_append, List.append_assoc,
      (he e rfl).mark, if_true]
    exact exponent_eq_ok_iff (he e rfl) hrest.digit
  | none =>
    simp only [Option.elim_none, List.nil_append]
    cases rest with
    | nil => exact scaled_eq_ok_iff
    | cons b rest =>
      have hb := hrest.mark rfl b rfl
      simp only [hb, Bool.false_eq_true, if_false]
      exact scaled_eq_ok_iff

/-- Only a fraction is read after its point. -/
theorem exists_fractionText {isNegative : Bool} {significand : Nat} {start : Int}
    {s : List UInt8} {r : JsonNumber × List UInt8}
    (h : fraction isNegative significand start s = .ok r) :
    ∃ digits e rest, AreDigits digits ∧ (∀ x ∈ e, ExponentText.IsProper x) ∧
      Closes (some digits) e rest ∧ s = digits ++ (e.elim [] ExponentText.bytes ++ rest) := by
  unfold fraction at h
  dsimp only at h
  split at h
  · cases h
  rename_i hempty
  have hdigits : AreDigits (s.takeWhile isDigit) :=
    ⟨by simpa using hempty, List.all_eq_true.mp List.all_takeWhile⟩
  have hsplit := (List.takeWhile_append_dropWhile (p := isDigit) (l := s)).symm
  have hno : NoDigit (s.dropWhile isDigit) := Text.endsRun_dropWhile s
  generalize s.takeWhile isDigit = digits at *
  generalize s.dropWhile isDigit = tail at *
  subst hsplit
  split at h
  · rename_i b after
    split at h
    · rename_i hmark
      obtain ⟨e, rest, he, hrest, hbytes⟩ := exists_exponentText hmark h
      exact ⟨digits, some e, rest, hdigits, by simpa using he, ⟨hrest, by simp, by simp⟩,
        by simp [hbytes]⟩
    · rename_i hmark
      exact ⟨digits, none, b :: after, hdigits, by simp, ⟨hno, by simpa using hmark, by simp⟩, rfl⟩
  · exact ⟨digits, none, [], hdigits, by simp, ⟨hno, by simp, by simp⟩, rfl⟩

/-- After its whole digits a numeral is read as the number it stands for. -/
theorem afterWhole_eq_ok_iff {p : NumeralText} (hp : p.IsProper) {rest r : List UInt8}
    {n : JsonNumber} (hrest : Closes p.fraction p.exponent rest) :
    afterWhole p.isNegative (absorb 0 p.digits).1 (absorb 0 p.digits).2
        (NumeralText.tailBytes p.fraction p.exponent ++ rest) = .ok (n, r) ↔
      p.value? = some n ∧ rest = r := by
  obtain ⟨isNegative, digits, fraction, e⟩ := p
  unfold afterWhole NumeralText.value? NumeralText.tailBytes
  dsimp only at *
  cases fraction with
  | some ds =>
    simp only [Option.elim_some, List.cons_append, List.append_assoc, if_true]
    exact fraction_eq_ok_iff (hp.fraction ds rfl) hp.exponent hrest
  | none =>
    cases e with
    | some e =>
      have he := hp.exponent e rfl
      have hpoint := (isDigit_of_isExponentMark he.mark).2
      simp only [Option.elim_some, Option.elim_none, List.nil_append, ExponentText.bytes,
        List.cons_append, List.append_assoc, hpoint, he.mark, if_true, if_false,
        Option.isNone_some, Bool.false_eq_true, false_and]
      exact exponent_eq_ok_iff he hrest.digit
    | none =>
      -- The numeral ends here: whole if its digits fit, and a double otherwise.
      have hplain : (if (absorb 0 digits).2 = 0
            then Except.ok (whole isNegative (absorb 0 digits).1, rest)
            else scaled isNegative (absorb 0 digits).1 (absorb 0 digits).2 rest) = .ok (n, r) ↔
          (if (absorb 0 digits).2 = 0 then some (whole isNegative (absorb 0 digits).1)
            else NumeralText.scaled? isNegative (absorb 0 digits).1 (absorb 0 digits).2) =
              some n ∧ rest = r := by
        split
        · simp
        · exact scaled_eq_ok_iff
      simp only [Option.elim_none, List.nil_append, Option.isNone_none, true_and]
      cases rest with
      | nil => exact hplain
      | cons b rest =>
        have hmark := hrest.mark rfl b rfl
        have hpoint := hrest.point rfl rfl b rfl
        simp only [hpoint, hmark, Bool.false_eq_true, if_false]
        exact hplain

/-- Only the rest of a numeral is read after its whole digits. -/
theorem exists_tail {isNegative : Bool} {significand left : Nat} {s : List UInt8}
    {r : JsonNumber × List UInt8} (hs : NoDigit s)
    (h : afterWhole isNegative significand left s = .ok r) :
    ∃ fraction e rest, (∀ ds ∈ fraction, AreDigits ds) ∧ (∀ x ∈ e, ExponentText.IsProper x) ∧
      Closes fraction e rest ∧ s = NumeralText.tailBytes fraction e ++ rest := by
  unfold afterWhole at h
  dsimp only at h
  split at h
  · rename_i b after
    split at h
    · rename_i hpoint
      obtain ⟨ds, e, rest, hds, he, hrest, rfl⟩ := exists_fractionText h
      exact ⟨some ds, e, rest, by simpa using hds, he, hrest,
        by simp [NumeralText.tailBytes, hpoint]⟩
    split at h
    · rename_i hpoint hmark
      obtain ⟨e, rest, he, hrest, hbytes⟩ := exists_exponentText hmark h
      exact ⟨none, some e, rest, by simp, by simpa using he, ⟨hrest, by simp, by simp⟩,
        by simp [NumeralText.tailBytes, hbytes]⟩
    · rename_i hpoint hmark
      exact ⟨none, none, b :: after, by simp, by simp,
        ⟨hs, by simpa using hmark, by simpa using hpoint⟩, rfl⟩
  · exact ⟨none, none, [], by simp, by simp, ⟨by simp [NoDigit], by simp, by simp⟩, rfl⟩

/-- No digit follows the whole digits of a numeral. -/
theorem Closes.noDigit_tail {fraction : Option (List UInt8)} {e : Option ExponentText}
    {rest : List UInt8} (h : Closes fraction e rest) (he : ∀ x ∈ e, x.IsProper) :
    NoDigit (NumeralText.tailBytes fraction e ++ rest) := by
  unfold NumeralText.tailBytes
  cases fraction with
  | none => exact h.noDigit_append he
  | some ds =>
    intro b hb
    obtain rfl : 0x2E = b := by simpa using hb
    rfl

/-- After a zero that comes first only the rest of a numeral is read. -/
theorem unsigned_zero {isNegative : Bool} {s : List UInt8} (hs : NoDigit s) :
    unsigned isNegative (0x30 :: s) = afterWhole isNegative 0 0 s := by
  cases s with
  | nil => simp [unsigned]
  | cons b s => simp [unsigned, hs b rfl]

/-- After its sign a numeral is read as the number it stands for. -/
theorem unsigned_eq_ok_iff {p : NumeralText} (hp : p.IsProper) {rest r : List UInt8}
    {n : JsonNumber} (hrest : Closes p.fraction p.exponent rest) :
    unsigned p.isNegative (p.digits ++ (NumeralText.tailBytes p.fraction p.exponent ++ rest)) =
      .ok (n, r) ↔ p.value? = some n ∧ rest = r := by
  have hno := hrest.noDigit_tail hp.exponent
  rw [← afterWhole_eq_ok_iff hp hrest]
  obtain ⟨hne, hdigits⟩ := hp.digits
  obtain ⟨d, ds, hd⟩ := List.exists_cons_of_ne_nil hne
  by_cases hzero : d = 0x30
  · have hone := hp.leading (by simp [hd, hzero])
    rw [hone, List.cons_append, List.nil_append, unsigned_zero hno]
    rfl
  · rw [hd] at hdigits ⊢
    obtain ⟨hfirst, hds⟩ := List.forall_mem_cons.mp hdigits
    simp only [List.cons_append, unsigned, if_neg hzero, hfirst, if_true,
      Text.takeWhile_run hds hno, Text.dropWhile_run hds hno]

/-- Only a numeral is read. -/
theorem exists_numeralText {isNegative : Bool} {s : List UInt8} {r : JsonNumber × List UInt8}
    (h : unsigned isNegative s = .ok r) :
    ∃ p : NumeralText, ∃ rest, p.isNegative = isNegative ∧ p.IsProper ∧
      Closes p.fraction p.exponent rest ∧
      s = p.digits ++ (NumeralText.tailBytes p.fraction p.exponent ++ rest) := by
  -- The whole digits, those behind them and how the reader goes on.
  have hdigits : ∃ digits tail significand left, AreDigits digits ∧
      (digits.head? = some 0x30 → digits = [0x30]) ∧ NoDigit tail ∧ s = digits ++ tail ∧
      afterWhole isNegative significand left tail = .ok r := by
    cases s with
    | nil => cases h
    | cons b s =>
      by_cases hzero : b = 0x30
      · subst hzero
        have hs : NoDigit s := by
          intro d hd
          cases s with
          | nil => cases hd
          | cons x s =>
            obtain rfl : x = d := by simpa using hd
            simp only [unsigned, if_true] at h
            split at h
            · cases h
            · simpa using ‹¬ isDigit x = true›
        rw [unsigned_zero hs] at h
        have hzero : AreDigits [0x30] := by
          refine ⟨List.cons_ne_nil _ _, fun d hd => ?_⟩
          rw [List.mem_singleton.mp hd]
          rfl
        exact ⟨[0x30], s, 0, 0, hzero, fun _ => rfl, hs, rfl, h⟩
      · simp only [unsigned, if_neg hzero] at h
        split at h
        · rename_i hb
          refine ⟨b :: s.takeWhile isDigit, _, _, _, ?_, by simp [hzero],
            Text.endsRun_dropWhile s, by simp, h⟩
          have := areDigits_takeWhile hb s
          rwa [List.takeWhile_cons_of_pos hb] at this
        · cases h
  obtain ⟨digits, tail, significand, left, hproper, hleading, htail, rfl, hafter⟩ := hdigits
  obtain ⟨fraction, e, rest, hfraction, he, hrest, rfl⟩ := exists_tail htail hafter
  exact ⟨⟨isNegative, digits, fraction, e⟩, rest, rfl, ⟨hproper, hleading, hfraction, he⟩,
    hrest, rfl⟩

end Numeral

namespace Reader

open Utf8 (encode)

/-- Bytes below 128 are the encoding of their characters. -/
theorem encode_asciiChars {bytes : List UInt8} (h : ∀ b ∈ bytes, b.toNat < 0x80) :
    encode (asciiChars bytes) = bytes := by
  induction bytes with
  | nil => rfl
  | cons b bytes ih =>
    obtain ⟨hb, hbytes⟩ := List.forall_mem_cons.mp h
    rw [asciiChars, List.map_cons, Utf8.encode_cons, Utf8.encodeChar_one hb, List.singleton_append]
    exact congrArg (b :: ·) (ih hbytes)

/-- Digits are bytes below 128. -/
theorem lt_of_areDigits {digits : List UInt8} (h : AreDigits digits) :
    ∀ d ∈ digits, d.toNat < 0x80 := by
  intro d hd
  have hdigit := h.2 d hd
  simp only [isDigit, Bool.and_eq_true, decide_eq_true_eq, UInt8.le_iff_toNat_le,
    UInt8.reduceToNat] at hdigit
  omega

/-- The bytes of a numeral are below 128. -/
theorem lt_of_mem_bytes {p : NumeralText} (hp : p.IsProper) : ∀ b ∈ p.bytes, b.toNat < 0x80 := by
  have hsign (sign : Option Bool) : ∀ b ∈ signBytes sign, b.toNat < 0x80 := by
    rcases sign with _ | _ | _ <;> simp [signBytes]
  have hmark {b : UInt8} (h : isExponentMark b = true) : b.toNat < 0x80 := by
    rcases (by simpa [isExponentMark] using h : b = 0x65 ∨ b = 0x45) with rfl | rfl <;> decide
  intro b hb
  simp only [NumeralText.bytes, NumeralText.tailBytes, List.mem_append] at hb
  obtain hb | hb | hb | hb := hb
  · split at hb
    · obtain rfl := List.mem_singleton.mp hb
      decide
    · cases hb
  · exact lt_of_areDigits hp.digits b hb
  · cases hf : p.fraction with
    | none => simp [hf] at hb
    | some ds =>
      rw [hf, Option.elim_some, List.mem_cons] at hb
      rcases hb with rfl | hb
      · decide
      · exact lt_of_areDigits (hp.fraction ds hf) b hb
  · cases he : p.exponent with
    | none => simp [he] at hb
    | some e =>
      have hproper := hp.exponent e he
      rw [he, Option.elim_some, ExponentText.bytes, List.mem_cons, List.mem_append] at hb
      rcases hb with rfl | hb | hb
      · exact hmark hproper.mark
      · exact hsign _ b hb
      · exact lt_of_areDigits hproper.digits b hb

/-- A number is read from a numeral of the grammar only. -/
theorem isNumeral_of_number {s rest : List UInt8} {n : JsonNumber}
    (h : number s = .ok (n, rest)) : ∃ t, IsNumeral n t ∧ s = encode t ++ rest := by
  suffices ∃ p : NumeralText, p.IsProper ∧ p.value? = some n ∧ s = p.bytes ++ rest by
    obtain ⟨p, hp, hvalue, rfl⟩ := this
    exact ⟨_, .mk hp hvalue, by rw [encode_asciiChars (lt_of_mem_bytes hp)]⟩
  have hunsigned {isNegative : Bool} {u : List UInt8}
      (hu : Numeral.unsigned isNegative u = .ok (n, rest)) :
      ∃ p : NumeralText, p.IsProper ∧ p.value? = some n ∧
        (if isNegative then [0x2D] else []) ++ u = p.bytes ++ rest := by
    obtain ⟨p, after, rfl, hp, hafter, rfl⟩ := Numeral.exists_numeralText hu
    obtain ⟨hvalue, rfl⟩ := (Numeral.unsigned_eq_ok_iff hp hafter).mp hu
    exact ⟨p, hp, hvalue, by simp [NumeralText.bytes]⟩
  unfold number at h
  split at h
  · split at h
    · rename_i hminus
      obtain ⟨p, hp, hvalue, hbytes⟩ := hunsigned h
      exact ⟨p, hp, hvalue, by simpa [hminus] using hbytes⟩
    · exact hunsigned h
  · exact hunsigned h

/-- A numeral starts with a minus sign or a digit. -/
theorem exists_cons_of_isNumeral {t : List Char} {n : JsonNumber} (h : IsNumeral n t) :
    ∃ b bs, encode t = b :: bs ∧ (b = 0x2D ∨ isDigit b = true) := by
  obtain ⟨hp, -⟩ := h
  rename_i p
  obtain ⟨hne, hdigits⟩ := hp.digits
  obtain ⟨d, ds, hd⟩ := List.exists_cons_of_ne_nil hne
  rw [encode_asciiChars (lt_of_mem_bytes hp), NumeralText.bytes]
  cases p.isNegative with
  | true => exact ⟨0x2D, _, rfl, .inl rfl⟩
  | false =>
    rw [hd]
    exact ⟨d, _, rfl, .inr (hdigits d (by simp [hd]))⟩

/-- Every numeral of the grammar is read, unless what follows would make it longer. -/
theorem number_encode {t : List Char} {rest : List UInt8} {n : JsonNumber} (h : IsNumeral n t)
    (hrest : Stops rest) : number (encode t ++ rest) = .ok (n, rest) := by
  obtain ⟨hp, hvalue⟩ := h
  rename_i p
  have hunsigned := (Numeral.unsigned_eq_ok_iff hp (.of_stops hrest _ _)).mpr ⟨hvalue, rfl⟩
  rw [encode_asciiChars (lt_of_mem_bytes hp), NumeralText.bytes, List.append_assoc,
    List.append_assoc]
  generalize p.isNegative = isNegative at *
  cases isNegative with
  | true => exact hunsigned
  | false =>
    obtain ⟨hne, hdigits⟩ := hp.digits
    obtain ⟨d, ds, hd⟩ := List.exists_cons_of_ne_nil hne
    have hfirst : d ≠ 0x2D := by
      rintro rfl
      exact absurd (hdigits 0x2D (by simp [hd])) (by decide)
    rw [hd] at hunsigned ⊢
    exact (if_neg hfirst).trans hunsigned

end Reader

end Phrasebook.Json
