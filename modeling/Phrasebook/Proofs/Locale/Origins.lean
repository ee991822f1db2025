import Phrasebook.Locale
import Phrasebook.Proofs.Json.Printing
import Phrasebook.Proofs.Json.Reading

/-!
# Where locales come from

A locale is made from what a user wrote, or is the fallback, or is read from a JSON text. Every
locale is read back from its own text. The code of a locale makes this locale again, unless it was
read from the text of the empty string, which is the code of no locale that a user can ask for.
-/

namespace Phrasebook

namespace Json

/-- Two quotes are the only text of the empty string. -/
theorem quoted_empty_iff {t : List Char} : Quoted "" t ↔ t = ['"', '"'] := by
  have hnil : StringBody "".toList [] := .nil
  constructor
  · rintro ⟨h⟩
    have hempty : "".toList = [] := rfl
    rw [hempty] at h
    cases h
    rfl
  · rintro rfl
    exact .mk hnil

end Json

namespace Locale

/-- A text is read as a locale exactly if it holds the string of its code. -/
theorem ofBytes_eq_ok_iff {bytes : List UInt8} {l : Locale} :
    ofBytes bytes = .ok l ↔ ∃ text, Utf8.toString? bytes = some text ∧
      Json.Document (.string l.code) text.toList := by
  rw [← Utf8.exists_eq_encode_iff, ← Json.stringOfBytes_eq_ok_iff, ofBytes, Except.map_eq_ok_iff]
  constructor
  · rintro ⟨code, hcode, rfl⟩
    exact hcode
  · intro h
    exact ⟨l.code, h, rfl⟩

/-- A locale is read back from its text. -/
theorem ofBytes_render (l : Locale) : ofBytes (Utf8.ofString l.render) = .ok l := by
  have hdocument : Json.Document l.toJson l.render.toList :=
    (Json.spelled_render_string l.code).document_render
  exact ofBytes_eq_ok_iff.mpr ⟨l.render, Utf8.toString?_eq_some_iff.mpr rfl, hdocument⟩

/-- The code of a locale makes it again, unless it is empty. -/
theorem ofString?_code_eq_some_iff {l : Locale} : ofString? l.code = some l ↔ l.code ≠ "" := by
  rw [ofString?_eq_some_iff]
  exact and_iff_left rfl

/-! ### Origins -/

/-- Where a locale comes from. -/
inductive Origin
  /-- What a user wrote. -/
  | given (code : String)
  | fallback
  /-- The bytes of a JSON text. -/
  | read (bytes : List UInt8)

/-- The locale from there, if there is one. -/
def Origin.locale? : Origin → Option Locale
  | .given code => ofString? code
  | .fallback => some Locale.fallback
  | .read bytes => (ofBytes bytes).toOption

/-- Whether this is a JSON text of the empty string: two quotes, with white space around them. -/
def Origin.IsEmptyText : Origin → Prop
  | .given _ | .fallback => False
  | .read bytes => ∃ before after, Json.IsBlank before ∧ Json.IsBlank after ∧
      bytes = Utf8.encode (before ++ ['"', '"'] ++ after)

/-- The locale with the empty code is read from the texts of the empty string, and from no other. -/
theorem ofBytes_eq_ok_empty_iff {bytes : List UInt8} :
    ofBytes bytes = .ok ⟨""⟩ ↔ (Origin.read bytes).IsEmptyText := by
  rw [ofBytes_eq_ok_iff, ← Utf8.exists_eq_encode_iff]
  constructor
  · rintro ⟨t, rfl, hdocument⟩
    obtain ⟨hbefore, h, hafter⟩ := Json.document_string_iff.mp hdocument
    obtain rfl := Json.quoted_empty_iff.mp h
    exact ⟨_, _, hbefore, hafter, rfl⟩
  · rintro ⟨before, after, hbefore, hafter, rfl⟩
    exact ⟨_, rfl, Json.document_string_iff.mpr
      (.mk hbefore (Json.quoted_empty_iff.mpr rfl) hafter)⟩

/-- The code of a locale is empty exactly if it was read from a text of the empty string. -/
theorem Origin.code_eq_empty_iff {o : Origin} {l : Locale} (h : o.locale? = some l) :
    l.code = "" ↔ o.IsEmptyText := by
  cases o with
  | given code =>
    obtain ⟨hne, rfl⟩ := ofString?_eq_some_iff.mp h
    exact iff_of_false hne id
  | fallback =>
    cases h
    exact iff_of_false (by decide) id
  | read bytes =>
    have hread : ofBytes bytes = .ok l := Except.toOption_eq_some_iff.mp h
    rw [← ofBytes_eq_ok_empty_iff, hread]
    constructor
    · intro hcode
      rw [← hcode]
    · intro hempty
      rw [Except.ok.inj hempty]

/-- The code of a locale makes this locale again, wherever it comes from, unless it was read from a
text of the empty string. A text is read as a locale exactly if it holds the string of its code, and
so a locale is read back from its own text, whatever characters its code has. -/
theorem named_by_code_unless_empty (l : Locale) :
    (∀ o : Origin, o.locale? = some l → (ofString? l.code = some l ↔ ¬ o.IsEmptyText)) ∧
    (∀ bytes, ofBytes bytes = .ok l ↔ ∃ text, Utf8.toString? bytes = some text ∧
      Json.Document (.string l.code) text.toList) ∧
    ofBytes (Utf8.ofString l.render) = .ok l := by
  refine ⟨fun o h => ?_, fun bytes => ofBytes_eq_ok_iff, ofBytes_render l⟩
  rw [ofString?_code_eq_some_iff, ← o.code_eq_empty_iff h]

/-- Two quotes are read as a locale, and its code makes none. -/
theorem empty_text_read :
    (Origin.read (Utf8.ofString "\"\"")).locale? = some ⟨""⟩ ∧ ofString? "" = none := by
  -- The two quotes are what the locale with the empty code is written as.
  have hrender : render ⟨""⟩ = "\"\"" := by decide
  have hread := ofBytes_render ⟨""⟩
  rw [hrender] at hread
  exact ⟨Except.toOption_eq_some_iff.mpr hread, rfl⟩

end Locale

end Phrasebook
