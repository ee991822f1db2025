import Phrasebook.Json.Kind
import Phrasebook.Json.Printer

/-!
# Locales

A locale is named by its code (`en`, `pt-BR`). Nothing is assumed about a code but equality:
`" fr"` and `"fr"` are different locales. As JSON a locale is the string of its code. Reading takes
every string for a code, also the empty one, of which `Locale.ofString?` makes no locale.
-/

namespace Phrasebook

/-- A locale, known by its code. -/
structure Locale where
  code : String
  deriving DecidableEq, Repr, Inhabited

namespace Locale

/-- The code that is used when no other locale is asked for or stored. -/
def fallbackCode : String := "en"

/-- The locale that is used when no other is asked for or stored. -/
def fallback : Locale := ⟨fallbackCode⟩

/-- A locale from what a user wrote, taken as it stands. Only the empty string names none. -/
def ofString? (code : String) : Option Locale :=
  if code = "" then none else some ⟨code⟩

/-- Whether this is the fallback locale. -/
def isFallback (l : Locale) : Bool := l.code == fallbackCode

/-- Locales in order of code, repeats kept. -/
def sort (ls : List Locale) : List Locale := ls.mergeSort (fun a b => a.code ≤ b.code)

/-- A text names a locale exactly if it is not empty, and then it is the code of this locale as it
stands. -/
theorem ofString?_eq_some_iff {code : String} {l : Locale} :
    ofString? code = some l ↔ code ≠ "" ∧ l = ⟨code⟩ := by
  unfold ofString?
  split <;> simp_all
  exact eq_comm

/-! ### Locales as JSON -/

/-- The locale whose code a JSON text holds. -/
def ofBytes (bytes : List UInt8) : Except Json.Error Locale :=
  (Json.stringOfBytes bytes).map Locale.mk

/-- A locale as a JSON value. -/
def toJson (l : Locale) : Json := .string l.code

/-- A locale as JSON text. -/
def render (l : Locale) : String := l.toJson.render

end Locale

end Phrasebook
