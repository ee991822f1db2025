import Phrasebook.Catalog.Lookup
import Phrasebook.Locale
import Phrasebook.Log

/-!
# Translating keys

A translator holds catalogs by locale. A key is looked up in the catalog of the active locale, and
where that has no such message in the catalog of the translator's own fallback locale.
-/

namespace Phrasebook

/-- Catalogs by the code of their locale, of which one locale is active. -/
structure Translator where
  fallback : Locale
  active : Locale
  catalogs : KeyMap Catalog := []
  deriving Inhabited

/-- A message that was found, and whether only the fallback locale has it. -/
structure Found where
  text : String
  isFallback : Bool
  deriving DecidableEq, Repr

namespace Translator

/-- The translator without catalogs, on its fallback locale. -/
def withFallback (l : Locale) : Translator := { fallback := l, active := l }

/-- Makes a locale active, with or without a catalog. -/
def setActive (t : Translator) (l : Locale) : Translator := { t with active := l }

/-- Registers a catalog in place of the locale's former one. -/
def register (t : Translator) (l : Locale) (c : Catalog) : Translator :=
  { t with catalogs := t.catalogs.insert l.code c }

/-- The catalog of a locale. -/
def catalog? (t : Translator) (l : Locale) : Option Catalog := t.catalogs.find? l.code

/-- The locales with a catalog, in order of code. -/
def registered (t : Translator) : List Locale := t.catalogs.keys.map Locale.mk

/-- The message that a locale has under a key. -/
def messageIn? (t : Translator) (l : Locale) (key : String) : Option String :=
  (t.catalog? l).bind (·.message? key)

/-- The message under a key. -/
def find? (t : Translator) (key : String) : Option Found :=
  match t.messageIn? t.active key with
  | some text => some ⟨text, false⟩
  | none => (t.messageIn? t.fallback key).map (⟨·, true⟩)

/-- The text under a key. -/
def lookup? (t : Translator) (key : String) : Option String := (t.find? key).map Found.text

/-- The text under a key, or the key itself where there is none. -/
def translate (t : Translator) (key : String) : String := (t.lookup? key).getD key

/-- What a look-up logs: that the fallback was used. -/
def lookupLog (t : Translator) (key : String) : List LogLine :=
  match t.find? key with
  | some ⟨_, true⟩ =>
    let active := t.active.code
    let fallback := t.fallback.code
    [⟨.debug, s!"Key '{key}' not found in locale '{active}', using fallback '{fallback}'"⟩]
  | _ => []

end Translator

end Phrasebook
