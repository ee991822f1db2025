import Phrasebook.Environment
import Phrasebook.Programs.Outcome
import Phrasebook.Session

/-!
# Showing messages

The program loads one locale and shows the text of each key in it. The locale is the first
argument; without one, or with `-` in its place, it comes from the preferences.
-/

namespace Phrasebook.ShowMessages

/-- The locale that is asked for and the keys to show. -/
def request : List String → Option String × List String
  | [] => (none, [])
  | first :: keys => (if first = "-" then none else some first, keys)

/-- A line that the program tells. -/
def tell (text : String) : ShownLine := ⟨"locale_loader", ⟨.info, text⟩⟩

/-- The lines of a session that are shown. -/
def shown (s : Session) : List ShownLine :=
  (s.log.filter LogLine.isShown).map (⟨"locale_loader::loader", ·⟩)

/-- The preferences that the settings name. -/
def preferences (files : FileTree) (settings : Settings) : Except Failure Preferences :=
  match settings.preferencesFile with
  | none => .ok {}
  | some path =>
    match Preferences.openFile files (Utf8.ofString path) with
    | .ok (p, _) => .ok p
    | .error e => .error ⟨"Failed to open preferences file", [e.message, e.cause]⟩

/-- The session that the program works in. -/
def open? (files : FileTree) (e : Environment) : Except Failure Session := do
  let settings ← (Settings.ofEnvironment (e.withAssignments files)).mapError Failure.ofSettings
  let preferences ← preferences files settings
  let base ← settings.base.mapError Failure.ofSettings
  return .begin base preferences .fallback

/-- The line that shows the text of a key. -/
def messageLine (t : Translator) (l : Locale) (key : String) : ShownLine :=
  let code := l.code
  let text := t.translate key
  tell s!"{key} ({code}) = {text}"

/-- A run of the program. -/
def run (net : Network) (files : FileTree) (e : Environment) (args : List String) : Outcome :=
  match open? files e with
  | .error f => { failure := some f }
  | .ok s =>
    let (requested, keys) := request args
    let (result, s) := s.load net requested
    match result with
    | .error e =>
      { output := shown s
        failure := some ⟨"Failed to load locale", e.message :: e.causes⟩
        history := s.history }
    | .ok l =>
      let active := s.translator.active.code
      { output := shown s ++ tell s!"✓ Active locale: {active}" ::
          keys.map (messageLine s.translator l)
        history := s.history }

end Phrasebook.ShowMessages
