import Phrasebook.Environment
import Phrasebook.Url.Parser

/-!
# Settings

What the programs take from their environment: where catalogs are, where preferences are, and how
long a request may take.
-/

namespace Phrasebook

/-- Why a text is no number of 64 bits. -/
inductive NumberError
  | empty
  | malformedDigit
  | tooLarge
  deriving DecidableEq, Repr

/-- The text of an error. -/
def NumberError.message : NumberError → String
  | .empty => "cannot parse integer from empty string"
  | .malformedDigit => "invalid digit found in string"
  | .tooLarge => "number too large to fit in target type"

/-- The greatest number of 64 bits. -/
def maxNumber : Nat := 18446744073709551615

/-- Appends digits to a number of 64 bits. The first fault counts; a digit is looked at before the
number grows by it. -/
def readDigits (n : Nat) : List Char → Except NumberError Nat
  | [] => .ok n
  | c :: rest =>
    if ¬ c.isDigit then .error .malformedDigit
    else
      let next := n * 10 + (c.toNat - '0'.toNat)
      if maxNumber < next then .error .tooLarge else readDigits next rest

/-- The number that a text gives, with a plus sign in front or none. -/
def readNumber (text : List Char) : Except NumberError Nat :=
  match text with
  | [] => .error .empty
  | '+' :: c :: rest => readDigits 0 (c :: rest)
  | text => readDigits 0 text

/-- What a user has set. -/
structure Settings where
  baseUrl : String
  preferencesFile : Option String
  /-- The longest time for a request, in seconds. -/
  timeout : Option Nat
  deriving DecidableEq, Repr

/-- Why settings are of no use. -/
inductive SettingsError
  | timeoutNotNumber (text : String) (cause : NumberError)
  | malformedBase (text : String) (cause : UrlError)
  /-- Nothing can be appended to the URL. -/
  | unusableBase (url : String)
  deriving DecidableEq, Repr

namespace SettingsError

/-- The text of an error. -/
def message : SettingsError → String
  | .timeoutNotNumber text _ => s!"HTTP_TIMEOUT_SECS is not a number: {text}"
  | .malformedBase text _ => s!"LOCALES_BASE_URL is not a valid URL: {text}"
  | .unusableBase url => s!"LOCALES_BASE_URL cannot be used as a base: {url}"

/-- The texts of what caused an error. -/
def causes : SettingsError → List String
  | .timeoutNotNumber _ e => [e.message]
  | .malformedBase _ e => [e.message]
  | .unusableBase _ => []

end SettingsError

namespace Settings

/-- Where catalogs are looked for if nothing else is set. -/
def defaultBase : String := "http://localhost:8080"

/-- The settings that an environment gives. -/
def ofEnvironment (e : Environment) : Except SettingsError Settings := do
  let timeout ←
    match e.text? "HTTP_TIMEOUT_SECS" with
    | none => pure none
    | some text =>
      match readNumber text.toList with
      | .ok n => pure (some n)
      | .error cause => .error (.timeoutNotNumber text cause)
  return {
    baseUrl := (e.text? "LOCALES_BASE_URL").getD defaultBase
    preferencesFile := e.text? "PREFERENCES_FILE"
    timeout }

/-- The base URL, to which catalog paths can be appended. -/
def base (s : Settings) : Except SettingsError Url :=
  match Url.parse s.baseUrl with
  | .error cause => .error (.malformedBase s.baseUrl cause)
  | .ok u => if u.cannotBeBase then .error (.unusableBase u.render) else .ok u

end Settings

end Phrasebook
