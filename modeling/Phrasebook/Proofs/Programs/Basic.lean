import Phrasebook.Environment
import Phrasebook.Programs.Outcome
import Phrasebook.Proofs.Results
import Phrasebook.Proofs.Session.LoadedSet
import Phrasebook.Proofs.Url.Segments

/-!
# How programs begin and end

Both programs start from the settings of their environment, whose base URL takes the paths of
catalogs, and exit with 0 where nothing has made them give up.
-/

namespace Phrasebook

namespace Settings

/-- Names can be appended to the base of settings that are in use. -/
theorem takesSegments_of_base {s : Settings} {base : Url} (h : s.base = .ok base) :
    base.TakesSegments := by
  unfold Settings.base at h
  split at h
  · cases h
  · rename_i u hparse
    split at h
    · cases h
    · rename_i hbase
      cases h
      have hbase : base.cannotBeBase = false := Bool.eq_false_iff.mpr hbase
      exact ⟨hbase, Url.exists_segments_of_parse hparse hbase⟩

/-- An environment with a base URL and nothing else. -/
def sampleEnvironment : Environment where
  values := [("LOCALES_BASE_URL", Utf8.ofString "http://i")]

/-- The base URL of the environment. -/
def sampleBase : Url where
  scheme := "http"
  authority := some { host := some (.domain "i") }
  path := .segments [""]
  query := none
  fragment := none

/-- The settings of the environment. -/
def sample : Settings where
  baseUrl := "http://i"
  preferencesFile := none
  timeout := none

/-- The sample settings have the sample base URL. -/
theorem base_sample : sample.base = .ok sampleBase :=
  Except.toOption_eq_some_iff.mp (by decide +kernel)

/-- The sample environment gives the sample settings. -/
theorem ofEnvironment_sample :
    ofEnvironment (sampleEnvironment.withAssignments {}) = .ok sample :=
  Except.toOption_eq_some_iff.mp (by decide +kernel)

end Settings

/-- A network with the catalogs of English and German, which have a message under the same key, and
nothing else. -/
def Network.twoCatalogs : Network := fun _ u =>
  if u.path.render = "/locales/en.json" then
    .ok { body := Utf8.ofString "\x7b\x22save\x22: \x22Save\x22\x7d" }
  else if u.path.render = "/locales/de.json" then
    .ok { body := Utf8.ofString "\x7b\x22save\x22: \x22Sichern\x22\x7d" }
  else .ok { status := 404 }

/-- A program exits with 0 exactly if it has no failure. -/
theorem Outcome.exitCode_eq_zero_iff {o : Outcome} : o.exitCode = 0 ↔ o.failure = none := by
  rw [exitCode]
  cases o.failure <;> simp

end Phrasebook
