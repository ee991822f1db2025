import Phrasebook.FileTree
import Phrasebook.Json.Kind
import Phrasebook.Log

/-!
# Preferences

A store of JSON values by key. It is kept in memory or read from a file, where a file that is
missing is an empty store and any other that is no JSON object is an error.
-/

namespace Phrasebook

/-- Stored values by key. -/
structure Preferences where
  values : KeyMap Json := []
  deriving Inhabited

namespace Preferences

/-- The key of the preferred locale. -/
def localeKey : String := "LOCALE"

/-- The value of a key. -/
def get? (p : Preferences) (key : String) : Option Json := p.values.find? key

/-- Stores a value in place of the one that was there. -/
def set (p : Preferences) (key : String) (value : Json) : Preferences :=
  ⟨p.values.insert key value.canonical⟩

/-- Takes a value away. -/
def remove (p : Preferences) (key : String) : Preferences := ⟨p.values.erase key⟩

/-- The store with a single value. -/
def single (key : String) (value : Json) : Preferences := set {} key value

/-- The store of some members of which a later one wins. -/
def ofMembers (members : List (String × Json)) : Preferences :=
  members.foldl (fun p m => p.set m.1 m.2) {}

end Preferences

/-- Why a file holds no preferences. -/
inductive PreferencesError
  | unreadable (path : String) (cause : ReadError)
  | malformed (path : String) (cause : Json.Error)

namespace PreferencesError

/-- The text of the cause. -/
def cause : PreferencesError → String
  | .unreadable _ e => e.message
  | .malformed _ e => e.message

/-- The text of an error, which ends with that of its cause. -/
def message (e : PreferencesError) : String :=
  match e with
  | .unreadable path _ => s!"failed to read preferences file {path}: " ++ e.cause
  | .malformed path _ => s!"preferences file {path} is not a JSON object: " ++ e.cause

end PreferencesError

namespace Preferences

/-- A path as messages show it. -/
def shownPath (path : List UInt8) : String := String.ofList (Utf8.lossy path)

/-- The preferences in a file, and what is logged on the way. -/
def openFile (files : FileTree) (path : List UInt8) :
    Except PreferencesError (Preferences × List LogLine) :=
  let shown := shownPath path
  match files.readText path with
  | .ok content =>
    match Json.membersOfBytes content with
    | .ok members => .ok (ofMembers members, [])
    | .error e => .error (.malformed shown e)
  | .error .notFound =>
    .ok ({}, [⟨.debug, s!"Preferences file {shown} not found, starting empty"⟩])
  | .error e => .error (.unreadable shown e)

end Preferences

end Phrasebook
