import Phrasebook.Fetch.Catalog
import Phrasebook.Metrics
import Phrasebook.Preferences
import Phrasebook.Translator

/-!
# Loading locales

A loader fetches the catalog of a locale once and drives a translator: a catalog is registered
before its locale is made active, and a locale that is loaded already is only made active. A load
has two parts. It begins by deciding on the locale and finishes when the answer to its request
comes; other loads may begin and finish in between.
-/

namespace Phrasebook

/-- What a loader asks of its translator. -/
inductive EngineCall
  | register (l : Locale) (c : Catalog)
  | setActive (l : Locale)

/-- A translator after a call. -/
def Translator.apply (t : Translator) : EngineCall → Translator
  | .register l c => t.register l c
  | .setActive l => t.setActive l

/-- Why a locale was not loaded. -/
structure LoadError where
  locale : Locale
  /-- The URL that was asked for, or the base URL if there is none. -/
  url : Url
  source : FetchError
  deriving DecidableEq

namespace LoadError

/-- The text of an error, which ends with that of its cause. -/
def message (e : LoadError) : String :=
  let code := e.locale.code
  let url := e.url.render
  s!"failed to fetch catalog for locale '{code}' from {url}: " ++ e.source.message

/-- The texts of what caused an error. -/
def causes (e : LoadError) : List String := e.source.message :: e.source.causes

end LoadError

/-- The result of a load. -/
abbrev LoadResult := Except LoadError Locale

/-- A load whose request is under way. -/
structure PendingLoad where
  locale : Locale
  url : Url
  deriving DecidableEq

/-- How far a load gets at once: to its end, or to a request. -/
inductive Progress
  | done (result : LoadResult)
  | pending (p : PendingLoad)

/-- What a loader remembers. -/
structure Loader where
  /-- The directory `locales` is under this URL. -/
  base : Url
  preferences : Preferences := {}
  /-- The codes of the loaded locales, in order. -/
  loaded : List String := []
  counters : Counters := {}

/-- What an operation of a loader brings about, besides its value. -/
structure Effect (α : Type) where
  loader : Loader
  value : α
  calls : List EngineCall := []
  log : List LogLine := []

namespace Loader

/-- The locale that a request means: the one asked for, else the one in the preferences, else the
fallback. -/
def resolve (s : Loader) (requested : Option String) : Locale :=
  match requested.bind Locale.ofString? with
  | some l => l
  | none =>
    match s.preferences.get? Preferences.localeKey with
    | some (.string code) => (Locale.ofString? code).getD Locale.fallback
    | _ => Locale.fallback

/-- What the decision logs: that a preference is no string. -/
def resolveLog (s : Loader) (requested : Option String) : List LogLine :=
  match requested.bind Locale.ofString?, s.preferences.get? Preferences.localeKey with
  | some _, _ | none, none | none, some (.string _) => []
  | none, some v =>
    let key := Preferences.localeKey
    let value := v.render
    [⟨.debug, s!"Ignoring non-string {key} preference: {value}"⟩]

/-- Whether a locale is loaded. -/
def isLoaded (s : Loader) (l : Locale) : Bool := s.loaded.contains l.code

/-- Counts an event. -/
def count (s : Loader) (e : LoadEvent) : Loader := { s with counters := s.counters.record e }

/-- The calls that make a locale active, after registering a catalog that is not empty. -/
def activationCalls (l : Locale) : Option Catalog → List EngineCall
  | some c => if c.isEmpty then [.setActive l] else [.register l c, .setActive l]
  | none => [.setActive l]

/-- Makes a locale active, and loaded from then on. -/
def activate (s : Loader) (l : Locale) (c : Option Catalog) : Effect Unit where
  loader := { s with loaded := KeySet.insert l.code s.loaded }
  value := ()
  calls := activationCalls l c

/-- Begins a load. -/
def start (s : Loader) (requested : Option String) : Effect Progress :=
  let l := s.resolve requested
  let code := l.code
  let log := s.resolveLog requested
  if s.isLoaded l then
    let e := (s.count .hit).activate l none
    { loader := e.loader
      value := .done (.ok l)
      calls := e.calls
      log := log ++ [⟨.debug, s!"Locale '{code}' already loaded, activating"⟩] }
  else
    let s := (s.count .miss).count .fetch
    match catalogUrl? s.base l with
    | some u =>
      let url := u.render
      { loader := s
        value := .pending ⟨l, u⟩
        log := log ++ [⟨.debug, s!"Fetching catalog for '{code}' from {url}"⟩] }
    | none =>
      { loader := s.count .failure
        value := .done (.error ⟨l, s.base, .unusableBase s.base⟩)
        log }

/-- Finishes a load with the answer to its request. -/
def finish (s : Loader) (p : PendingLoad) (answer : Except FetchError Catalog) :
    Effect LoadResult :=
  match answer with
  | .error e => { loader := s.count .failure, value := .error ⟨p.locale, p.url, e⟩ }
  | .ok c =>
    let e := s.activate p.locale (some c)
    let code := p.locale.code
    let n := c.messageCount
    { loader := e.loader
      value := .ok p.locale
      calls := e.calls
      log := [⟨.info, s!"Loaded catalog for '{code}' ({n} messages)"⟩] }

end Loader

end Phrasebook
