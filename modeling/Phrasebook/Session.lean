import Phrasebook.Loader

/-!
# Sessions

A loader at work on a translator, with a network behind it. A session keeps what the loader asked
of the translator and what was logged, from its beginning on. Loads that start together all begin
before the first of them gets its answer.
-/

namespace Phrasebook

/-- A loader and its translator, and what has happened so far. -/
structure Session where
  loader : Loader
  translator : Translator
  /-- The requests that servers have answered. -/
  history : History := []
  /-- What the loader has asked of the translator. -/
  calls : List EngineCall := []
  log : List LogLine := []

namespace Session

/-- A session at its beginning. -/
def begin (base : Url) (preferences : Preferences) (fallback : Locale) : Session where
  loader := { base, preferences }
  translator := .withFallback fallback

/-- Takes over what an operation of the loader brings about. -/
def absorb {α : Type} (s : Session) (e : Effect α) : Session :=
  { s with
    loader := e.loader
    translator := e.calls.foldl Translator.apply s.translator
    calls := s.calls ++ e.calls
    log := s.log ++ e.log }

/-- Logs some lines. -/
def tell (s : Session) (lines : List LogLine) : Session := { s with log := s.log ++ lines }

/-- Begins a load. -/
def start (s : Session) (requested : Option String) : Progress × Session :=
  let e := s.loader.start requested
  (e.value, s.absorb e)

/-- Finishes a load with the answer to its request. -/
def finish (s : Session) (p : PendingLoad) (answer : Except FetchError Catalog) :
    LoadResult × Session :=
  let e := s.loader.finish p answer
  (e.value, s.absorb e)

/-- Fetches the catalog of a load under way and finishes it. The URL is asked for as text. -/
def complete (net : Network) (s : Session) : Progress → LoadResult × Session
  | .done r => (r, s)
  | .pending p =>
    let (answer, history) := net.fetchText s.history p.url.render
    { s with history }.finish p answer

/-- Loads a locale. -/
def load (net : Network) (s : Session) (requested : Option String) : LoadResult × Session :=
  let (progress, s) := s.start requested
  s.complete net progress

/-- Begins some loads, in order. -/
def startAll (s : Session) : List (Option String) → List Progress × Session
  | [] => ([], s)
  | requested :: rest =>
    let (progress, s) := s.start requested
    let (others, s) := s.startAll rest
    (progress :: others, s)

/-- Finishes some loads, in order. -/
def completeAll (net : Network) (s : Session) : List Progress → List LoadResult × Session
  | [] => ([], s)
  | progress :: rest =>
    let (result, s) := s.complete net progress
    let (others, s) := s.completeAll net rest
    (result :: others, s)

/-- Loads some locales at the same time. -/
def loadAll (net : Network) (s : Session) (requested : List (Option String)) :
    List LoadResult × Session :=
  let (progress, s) := s.startAll requested
  s.completeAll net progress

/-- Decides which locale a request means. -/
def resolve (s : Session) (requested : Option String) : Locale × Session :=
  (s.loader.resolve requested, s.tell (s.loader.resolveLog requested))

/-- Makes a locale active through the loader. -/
def activate (s : Session) (l : Locale) (c : Option Catalog) : Session :=
  s.absorb (s.loader.activate l c)

/-- Fetches the catalog at a URL and keeps nothing of it. -/
def fetch (net : Network) (s : Session) (url : String) : Except FetchError Catalog × Session :=
  let (answer, history) := net.fetchText s.history url
  (answer, { s with history })

/-- Acts on the translator past the loader. -/
def onTranslator (s : Session) (call : EngineCall) : Session :=
  { s with translator := s.translator.apply call }

/-- Looks a key up. -/
def lookup (s : Session) (key : String) : Option String × Session :=
  (s.translator.lookup? key, s.tell (s.translator.lookupLog key))

/-- Changes the preferences. -/
def onPreferences (s : Session) (f : Preferences → Preferences) : Session :=
  { s with loader := { s.loader with preferences := f s.loader.preferences } }

end Session

end Phrasebook
