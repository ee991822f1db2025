import Phrasebook.Programs.ShowMessages
import Phrasebook.Proofs.Catalog.Leaves
import Phrasebook.Proofs.Programs.Basic
import Phrasebook.Proofs.Session.Overlap

/-!
# The texts that are shown

The program works in a new session and loads one locale in it. So no catalog but the one that it
fetched can answer a look-up, not even that of the fallback, and a program that gave up has shown
nothing.
-/

namespace Phrasebook

/-- Where no other locale has a catalog, a key stands for its text in the active one, or for
itself. -/
theorem Translator.translate_of_only {t : Translator}
    (h : ∀ l, l ≠ t.active → t.catalog? l = none) (key : String) :
    t.translate key = (t.messageIn? t.active key).getD key := by
  rw [translate, lookup?, find?]
  cases hmessage : t.messageIn? t.active key with
  | some text => rfl
  | none =>
    -- The fallback is the active locale itself, or it has no catalog.
    have hfallback : t.messageIn? t.fallback key = none := by
      by_cases heq : t.fallback = t.active
      · rw [heq, hmessage]
      · rw [messageIn?, h _ heq, Option.bind_none]
    rw [hfallback]
    rfl

/-- In a new session whose only activation came with a catalog, keys are looked up in that catalog
alone, also if it is empty. -/
theorem Standing.translate_activate_begin (base : Url) (preferences : Preferences)
    (fallback l : Locale) (c : Catalog) (key : String) :
    ((Session.begin base preferences fallback).standing.activate l
      (some c)).translator.translate key = (c.message? key).getD key := by
  let σ := (Session.begin base preferences fallback).standing
  have hactive : (σ.activate l (some c)).translator.active = l := σ.active_activate l (some c)
  have hothers (m : Locale) (hm : m ≠ (σ.activate l (some c)).translator.active) :
      (σ.activate l (some c)).translator.catalog? m = none := by
    rw [hactive] at hm
    exact σ.catalog?_activate_of_ne (some c) hm
  rw [Translator.translate_of_only hothers, hactive, Translator.messageIn?,
    σ.catalog?_activate_self]
  by_cases hempty : c.isEmpty
  · rw [if_pos hempty, Catalog.message?_of_isEmpty hempty]
    rfl
  · rw [if_neg hempty]
    rfl

namespace ShowMessages

/-- The preferences that a run starts with: those in the file that the settings name, or none if
the file is missing or no file is named. -/
inductive Stored (files : FileTree) (settings : Settings) : Preferences → Prop
  | unnamed (hname : settings.preferencesFile = none) : Stored files settings {}
  | missing {path : String} (hname : settings.preferencesFile = some path)
      (hmissing : files.readText (Utf8.ofString path) = .error .notFound) :
      Stored files settings {}
  | read {path : String} {content : List UInt8} {members : List (String × Json)}
      (hname : settings.preferencesFile = some path)
      (hread : files.readText (Utf8.ofString path) = .ok content)
      (hmembers : Json.membersOfBytes content = .ok members) :
      Stored files settings (.ofMembers members)

/-- The program has the preferences that are stored where the settings say. -/
theorem preferences_eq_ok_iff {files : FileTree} {settings : Settings} {p : Preferences} :
    preferences files settings = .ok p ↔ Stored files settings p := by
  constructor
  · intro h
    unfold preferences at h
    split at h
    · rename_i hname
      cases h
      exact .unnamed hname
    · rename_i path hname
      unfold Preferences.openFile at h
      dsimp only at h
      cases hread : files.readText (Utf8.ofString path) with
      | ok content =>
        rw [hread] at h
        cases hmembers : Json.membersOfBytes content with
        | ok members =>
          simp only [hmembers, Except.ok.injEq] at h
          exact h ▸ .read hname hread hmembers
        | error e =>
          simp only [hmembers] at h
          cases h
      | error e =>
        rw [hread] at h
        cases e with
        | notFound =>
          simp only [Except.ok.injEq] at h
          exact h ▸ .missing hname hread
        | _ => cases h
  · intro h
    cases h with
    | unnamed hname => simp only [preferences, hname]
    | missing hname hmissing => simp only [preferences, Preferences.openFile, hname, hmissing]
    | read hname hread hmembers =>
      simp only [preferences, Preferences.openFile, hname, hread, hmembers]

/-- The settings and the preferences of a run are in order, and these are its base URL and its
preferences. -/
def Starts (files : FileTree) (e : Environment) (base : Url) (p : Preferences) : Prop :=
  ∃ settings, Settings.ofEnvironment (e.withAssignments files) = .ok settings ∧
    Stored files settings p ∧ settings.base = .ok base

/-- A run has a session exactly if it starts, and the session is a new one. -/
theorem open?_eq_ok_iff {files : FileTree} {e : Environment} {s : Session} :
    open? files e = .ok s ↔ ∃ base p, Starts files e base p ∧ s = .begin base p .fallback := by
  simp only [open?, Except.bind_eq_ok_iff, Except.mapError_eq_ok_iff, preferences_eq_ok_iff,
    pure, Except.pure, Except.ok.injEq, Starts]
  constructor
  · rintro ⟨settings, hsettings, p, hp, base, hbase, rfl⟩
    exact ⟨base, p, ⟨settings, hsettings, hp, hbase⟩, rfl⟩
  · rintro ⟨base, p, ⟨settings, hsettings, hp, hbase⟩, rfl⟩
    exact ⟨settings, hsettings, p, hp, base, hbase, rfl⟩

/-- The code in the preferences, or that of the fallback if there is none. -/
def storedCode (p : Preferences) : String :=
  match p.get? Preferences.localeKey with
  | some (.string code) => if code = "" then "en" else code
  | _ => "en"

/-- The code that a run means: its first argument, unless that is absent, empty or `-`, and
otherwise the one in the preferences. -/
def resolvedCode (p : Preferences) : List String → String
  | [] => storedCode p
  | first :: _ => if first = "" ∨ first = "-" then storedCode p else first

/-- Where no locale is asked for, the one of the stored code is meant. -/
theorem resolve_of_none {loader : Loader} {requested : Option String}
    (h : requested.bind Locale.ofString? = none) :
    loader.resolve requested = ⟨storedCode loader.preferences⟩ := by
  rw [Loader.resolve, h, storedCode]
  cases loader.preferences.get? Preferences.localeKey with
  | none => rfl
  | some value =>
    cases value with
    | string code =>
      dsimp only
      by_cases hempty : code = ""
      · rw [Locale.ofString?, if_pos hempty, if_pos hempty]
        rfl
      · rw [Locale.ofString?, if_neg hempty, if_neg hempty]
        rfl
    | _ => rfl

/-- In the session of a run, its request means the code that the run means. -/
theorem resolve_request (base : Url) (p : Preferences) (args : List String) :
    (Session.begin base p .fallback).loader.resolve (request args).1 = ⟨resolvedCode p args⟩ := by
  cases args with
  | nil => exact resolve_of_none rfl
  | cons first keys =>
    rw [request, resolvedCode]
    by_cases hdash : first = "-"
    · rw [if_pos hdash, if_pos (.inr hdash)]
      exact resolve_of_none rfl
    · rw [if_neg hdash]
      by_cases hempty : first = ""
      · rw [if_pos (.inl hempty)]
        exact resolve_of_none (if_pos hempty)
      · rw [if_neg (not_or.mpr ⟨hempty, hdash⟩)]
        have hsome : (some first).bind Locale.ofString? = some ⟨first⟩ := if_neg hempty
        rw [Loader.resolve, hsome]

/-- The arguments behind the first one are keys. -/
theorem keys_request (args : List String) : (request args).2 = args.tail := by
  cases args <;> rfl

/-- The network answers the first request of a run, the one for the catalog of a locale, with a
catalog. -/
def Serves (net : Network) (base : Url) (l : Locale) (c : Catalog) (h : History) : Prop :=
  ∃ u, catalogUrl? base l = some u ∧ net.fetchText [] u.render = (.ok c, h)

/-- The line that tells that a catalog was loaded. -/
def loadedLine (l : Locale) (c : Catalog) : ShownLine :=
  let code := l.code
  let n := c.messageCount
  ⟨"locale_loader::loader", ⟨.info, s!"Loaded catalog for '{code}' ({n} messages)"⟩⟩

/-- The line that shows the text that a catalog has for a key, or the key itself. -/
def textLine (code : String) (c : Catalog) (key : String) : ShownLine :=
  let text := (c.message? key).getD key
  tell s!"{key} ({code}) = {text}"

/-- Nothing that is logged at the beginning of a load is shown. -/
theorem shown_start (s : Session) (requested : Option String) :
    shown (s.start requested).2 = shown s := by
  have hresolve : (s.loader.resolveLog requested).filter LogLine.isShown = [] := by
    unfold Loader.resolveLog
    split <;> rfl
  -- Each way to begin logs the decision and at most one line more, which is a detail, too.
  have hlog : (s.loader.start requested).log.filter LogLine.isShown = [] := by
    unfold Loader.start
    dsimp only
    split
    · rw [List.filter_append, hresolve]
      rfl
    · split
      · rw [List.filter_append, hresolve]
        rfl
      · exact hresolve
  rw [shown, Session.start, Session.absorb, List.filter_append, hlog, List.append_nil, shown]

/-- A catalog that comes is told in one more line. -/
theorem shown_receive_of_ok (s : Session) (p : PendingLoad) (c : Catalog) (h : History) :
    shown (s.receive p ⟨.ok c, h⟩).2 = shown s ++ [loadedLine p.locale c] := by
  simp only [shown, Session.receive, Session.finish, Session.absorb, Session.take, Loader.finish,
    List.filter_append, List.map_append]
  rfl

/-- An answer that is an error shows nothing by itself. -/
theorem shown_receive_of_error (s : Session) (p : PendingLoad) (e : FetchError) (h : History) :
    shown (s.receive p ⟨.error e, h⟩).2 = shown s := by
  simp only [shown, Session.receive, Session.finish, Session.absorb, Session.take, Loader.finish,
    List.append_nil]

section Load

variable {net : Network} {base : Url} {p : Preferences} {fallback l : Locale}
  {requested : Option String}

/-- A first load whose catalog is served makes its locale active with it. -/
theorem load_begin_of_serves {c : Catalog} {h : History}
    (hl : (Session.begin base p fallback).loader.resolve requested = l)
    (hserves : Serves net base l c h) :
    ∃ s, (Session.begin base p fallback).load net requested = (.ok l, s) ∧
      s.standing = (Session.begin base p fallback).standing.activate l (some c) ∧
      s.history = h ∧ shown s = [loadedLine l c] := by
  subst hl
  obtain ⟨u, hu, hfetch⟩ := hserves
  let s := Session.begin base p fallback
  let started := (s.start requested).2
  have hloaded : s.loader.isLoaded (s.loader.resolve requested) = false := rfl
  obtain ⟨-, hstanding, -, hhistory⟩ := Session.start_of_some hloaded hu
  obtain ⟨hvalue, hactivate, -, hrequests⟩ := Session.receive_of_ok (s := started)
    (p := ⟨s.loader.resolve requested, u⟩) (r := ⟨.ok c, h⟩) rfl
  refine ⟨(started.receive ⟨s.loader.resolve requested, u⟩ ⟨.ok c, h⟩).2, ?_, ?_, ?_, ?_⟩
  · exact (Session.load_of_some hloaded hu hfetch).trans (Prod.ext hvalue rfl)
  · rw [hactivate, hstanding]
  · rw [hrequests, hhistory]
    rfl
  · rw [shown_receive_of_ok, shown_start]
    rfl

/-- A first load whose catalog is not served fails, and shows nothing. -/
theorem load_begin_of_not_serves
    (hl : (Session.begin base p fallback).loader.resolve requested = l)
    (hserves : ∀ c h, ¬ Serves net base l c h) :
    ∃ e s, (Session.begin base p fallback).load net requested = (.error e, s) ∧
      shown s = [] := by
  subst hl
  let s := Session.begin base p fallback
  let started := (s.start requested).2
  have hloaded : s.loader.isLoaded (s.loader.resolve requested) = false := rfl
  cases hu : catalogUrl? base (s.loader.resolve requested) with
  | none =>
    obtain ⟨hprogress, -⟩ := Session.start_of_none hloaded hu
    exact ⟨_, started, Session.load_of_done hprogress, shown_start s requested⟩
  | some u =>
    cases hfetch : net.fetchText [] u.render with
    | mk answer requests =>
      cases answer with
      | ok c => exact absurd ⟨u, hu, hfetch⟩ (hserves c requests)
      | error e =>
        obtain ⟨hvalue, -⟩ := Session.receive_of_error (s := started)
          (p := ⟨s.loader.resolve requested, u⟩) (r := ⟨.error e, requests⟩) rfl
        refine ⟨_, (started.receive ⟨s.loader.resolve requested, u⟩ ⟨.error e, requests⟩).2,
          (Session.load_of_some hloaded hu hfetch).trans (Prod.ext hvalue rfl), ?_⟩
        rw [shown_receive_of_error, shown_start]
        rfl

end Load

section Run

variable {net : Network} {files : FileTree} {e : Environment}

/-- A run that does not start fails and shows nothing. -/
theorem run_of_not_starts (args : List String) (h : ∀ base p, ¬ Starts files e base p) :
    (run net files e args).failure ≠ none ∧ (run net files e args).output = [] := by
  rw [run]
  cases hopen : open? files e with
  | error f => exact ⟨Option.some_ne_none f, rfl⟩
  | ok s =>
    obtain ⟨base, p, hstarts, -⟩ := open?_eq_ok_iff.mp hopen
    exact absurd hstarts (h base p)

variable {base : Url} {p : Preferences} {args : List String}

/-- A run whose catalog is not served fails and shows nothing. -/
theorem run_of_not_serves (hstarts : Starts files e base p)
    (h : ∀ c h, ¬ Serves net base ⟨resolvedCode p args⟩ c h) :
    (run net files e args).failure ≠ none ∧ (run net files e args).output = [] := by
  have hopen := open?_eq_ok_iff.mpr ⟨base, p, hstarts, rfl⟩
  obtain ⟨cause, s, hload, hshown⟩ :=
    load_begin_of_not_serves (resolve_request base p args) h
  simp only [run, hopen, hload]
  exact ⟨Option.some_ne_none _, hshown⟩

/-- Any other run shows the texts that its catalog has for the keys. -/
theorem run_of_serves {c : Catalog} {h : History} (hstarts : Starts files e base p)
    (hserves : Serves net base ⟨resolvedCode p args⟩ c h) :
    let code := resolvedCode p args
    run net files e args =
      { output := loadedLine ⟨code⟩ c :: tell s!"✓ Active locale: {code}" ::
          args.tail.map (textLine code c)
        history := h } := by
  intro code
  have hopen := open?_eq_ok_iff.mpr ⟨base, p, hstarts, rfl⟩
  obtain ⟨s, hload, hstanding, rfl, hshown⟩ :=
    load_begin_of_serves (resolve_request base p args) hserves
  -- The only activation of the session came with the catalog that was fetched.
  have htranslator : s.translator = _ := congrArg Standing.translator hstanding
  have hactive : s.translator.active = ⟨code⟩ := by
    rw [htranslator]
    exact Standing.active_activate _ _ _
  have hline : messageLine s.translator ⟨code⟩ = textLine code c := by
    funext key
    rw [messageLine, htranslator, Standing.translate_activate_begin, textLine]
  simp only [run, hopen, hload, hshown, hactive, keys_request, List.singleton_append]
  rw [hline]

/-- A run without a catalog fails and shows nothing. -/
theorem run_of_no_catalog
    (h : ¬ ∃ base p c h, Starts files e base p ∧ Serves net base ⟨resolvedCode p args⟩ c h) :
    (run net files e args).failure ≠ none ∧ (run net files e args).output = [] := by
  by_cases hstarts : ∃ base p, Starts files e base p
  · obtain ⟨base, p, hstarts⟩ := hstarts
    exact run_of_not_serves hstarts fun c requests hserves =>
      h ⟨base, p, c, requests, hstarts, hserves⟩
  · exact run_of_not_starts args fun base p hbase => hstarts ⟨base, p, hbase⟩

end Run

set_option maxRecDepth 10000 in
example :
    (run .twoCatalogs {} Settings.sampleEnvironment ["de", "save", "open", "save"]).output =
      [⟨"locale_loader::loader", ⟨.info, "Loaded catalog for 'de' (1 messages)"⟩⟩,
        tell "✓ Active locale: de", tell "save (de) = Sichern", tell "open (de) = open",
        tell "save (de) = Sichern"] := by
  decide +kernel

end ShowMessages

end Phrasebook
