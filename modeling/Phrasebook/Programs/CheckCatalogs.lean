import Phrasebook.Environment
import Phrasebook.Programs.Outcome
import Phrasebook.Validation.Report

/-!
# Checking catalogs

The program compares the catalogs of some locales with that of the fallback locale, one after the
other, and fails if one of them cannot be fetched or lacks a message.
-/

namespace Phrasebook.CheckCatalogs

/-- A line that the program tells. -/
def tell (level : Level) (text : String) : ShownLine := ⟨"check_catalogs", ⟨level, text⟩⟩

/-- The locales to check: those of the arguments that name one, without the fallback locale. -/
def locales (args : List String) : List Locale :=
  (args.filterMap Locale.ofString?).filter (fun l => ¬ l.isFallback)

/-- A line for each time that an argument names the fallback locale. -/
def skipped (args : List String) : List ShownLine :=
  ((args.filterMap Locale.ofString?).filter Locale.isFallback).map fun l =>
    let code := l.code
    tell .info s!"Skipping '{code}': it is the reference catalog"

/-- What the check of one locale gives. -/
structure Verdict where
  output : List ShownLine
  isFailure : Bool
  deriving DecidableEq, Repr

/-- The verdict on a catalog, or on the failure to fetch it. `progress` says which of how many
locales it is about. -/
def verdict (progress : String) (reference : Catalog) (l : Locale) :
    Except FetchError Catalog → Verdict
  | .error e =>
    let code := l.code
    let cause := e.message
    ⟨[tell .error s!"[{progress}] ✗ {code} - {cause}"], true⟩
  | .ok c =>
    let code := l.code
    let report := reference.compare c
    let about (level : Level) (text : String) : ShownLine := tell level s!"[{code}] {text}"
    let details := report.warnings.map (fun w => about .warn w.message) ++
      report.errors.map (fun p => about .error p.message)
    let errors := report.errors.length
    let warnings := report.warnings.length
    let messages := c.messageCount
    if report.errors.isEmpty then
      ⟨details ++ [tell .info s!"[{progress}] ✓ {code} - {messages} messages, {warnings} warnings"],
        false⟩
    else
      ⟨details ++ [tell .error s!"[{progress}] ✗ {code} - {errors} errors, {warnings} warnings"],
        true⟩

/-- Fetches the catalog of a locale under a base URL. Its URL is asked for as text. -/
def fetch (net : Network) (base : Url) (h : History) (l : Locale) :
    Except FetchError Catalog × History :=
  match catalogUrl? base l with
  | some u => net.fetchText h u.render
  | none => (.error (.unusableBase base), h)

/-- The verdicts on some locales, the first of which is number `n` of `total`. -/
def checkAll (net : Network) (base : Url) (reference : Catalog) (total : Nat) :
    Nat → History → List Locale → List Verdict × History
  | _, h, [] => ([], h)
  | n, h, l :: rest =>
    let (answer, h) := fetch net base h l
    let (others, h) := checkAll net base reference total (n + 1) h rest
    (verdict s!"{n}/{total}" reference l answer :: others, h)

/-- The base URL that the settings give. -/
def base (files : FileTree) (e : Environment) : Except Failure Url := do
  let settings ← (Settings.ofEnvironment (e.withAssignments files)).mapError Failure.ofSettings
  settings.base.mapError Failure.ofSettings

/-- The reference catalog. -/
def reference (net : Network) (base : Url) : Except Failure Catalog × History :=
  match catalogUrl? base .fallback with
  | none => (.error (.ofFetch (.unusableBase base)), [])
  | some u =>
    let url := u.render
    match net.fetchText [] url with
    | (.ok c, h) => (.ok c, h)
    | (.error e, h) =>
      (.error ⟨s!"Failed to fetch reference catalog {url}", e.message :: e.causes⟩, h)

/-- The failure of a run without a locale to check. -/
def usage : Failure :=
  let code := Locale.fallbackCode
  ⟨s!"Usage: check-catalogs <locale> [<locale>...] (locales other than '{code}')", []⟩

/-- The end of a run that has checked some locales. -/
def conclude (output : List ShownLine) (h : History) (verdicts : List Verdict) : Outcome :=
  let failed := verdicts.countP Verdict.isFailure
  let total := verdicts.length
  let output := output ++ verdicts.flatMap Verdict.output
  if failed = 0 then
    { output := output ++ [tell .info s!"All {total} catalogs are complete"], history := h }
  else
    { output
      failure := some ⟨s!"{failed} of {total} catalogs failed validation", []⟩
      history := h }

/-- A run of the program. -/
def run (net : Network) (files : FileTree) (e : Environment) (args : List String) : Outcome :=
  let ls := locales args
  let skips := skipped args
  if ls.isEmpty then { output := skips, failure := some usage }
  else
    match base files e with
    | .error f => { output := skips, failure := some f }
    | .ok u =>
      match reference net u with
      | (.error f, h) => { output := skips, failure := some f, history := h }
      | (.ok c, h) =>
        let code := Locale.fallbackCode
        let messages := c.messageCount
        let opening := tell .info s!"Reference catalog '{code}' has {messages} messages"
        let (verdicts, h) := checkAll net u c ls.length 1 h ls
        conclude (skips ++ [opening]) h verdicts

end Phrasebook.CheckCatalogs
