import Phrasebook.Session

/-!
# The course of a session

Loads overlap: one may begin before another has its answer, and answers come in any order. A
course is a session with the loads that wait for an answer, each under a ticket. Its steps begin
loads, bring answers, and do whatever else may happen in between; what a server does is no more
than the reply that a step carries, so every behaviour of servers is some choice of replies.
This file says once what a step does to a session, for all that is proved about courses.
-/

namespace Phrasebook

namespace Loader

variable {s t : Loader}

/-- Which locale a load means hangs on the preferences alone. -/
theorem resolve_congr (h : s.preferences = t.preferences) (requested : Option String) :
    s.resolve requested = t.resolve requested := by
  simp [resolve, h]

/-- Whether a locale is loaded hangs on the loaded codes alone. -/
theorem isLoaded_congr (h : s.loaded = t.loaded) (l : Locale) :
    s.isLoaded l = t.isLoaded l := by
  simp [isLoaded, h]

/-- A locale is loaded exactly if its code is one of the loaded ones. -/
theorem isLoaded_iff {l : Locale} : s.isLoaded l = true ↔ l.code ∈ s.loaded := by
  simp [isLoaded]

end Loader

/-- What a fetch comes back with: its answer, and the requests that servers answered for it. -/
structure Reply where
  answer : Except FetchError Catalog
  requests : History := []

/-- What a session stands at: everything but its counters, its log and its requests. -/
structure Standing where
  base : Url
  preferences : Preferences
  loaded : List String
  translator : Translator
  calls : List EngineCall

/-- A standing after a locale was made active, with the catalog that came along. -/
def Standing.activate (σ : Standing) (l : Locale) (c : Option Catalog) : Standing :=
  { σ with
    loaded := KeySet.insert l.code σ.loaded
    translator := (Loader.activationCalls l c).foldl Translator.apply σ.translator
    calls := σ.calls ++ Loader.activationCalls l c }

namespace Session

/-- What a session stands at. -/
def standing (s : Session) : Standing where
  base := s.loader.base
  preferences := s.loader.preferences
  loaded := s.loader.loaded
  translator := s.translator
  calls := s.calls

/-- Takes over the requests of a fetch. -/
def take (s : Session) (requests : History) : Session :=
  { s with history := s.history ++ requests }

/-- Finishes a load with the reply to its fetch. -/
def receive (s : Session) (p : PendingLoad) (r : Reply) : LoadResult × Session :=
  (s.take r.requests).finish p r.answer

variable {s : Session} {requested : Option String}

/-- A load of a loaded locale ends at once, makes the locale active and asks for nothing. -/
theorem start_of_loaded (h : s.loader.isLoaded (s.loader.resolve requested) = true) :
    (s.start requested).1 = .done (.ok (s.loader.resolve requested)) ∧
      (s.start requested).2.standing = s.standing.activate (s.loader.resolve requested) none ∧
      (s.start requested).2.loader.counters = s.loader.counters.record .hit ∧
      (s.start requested).2.history = s.history := by
  simp only [start, Loader.start, h, if_true]
  exact ⟨trivial, rfl, rfl, rfl⟩

/-- A load of another locale asks for the catalog at its URL and changes nothing else. -/
theorem start_of_some {u : Url} (h : s.loader.isLoaded (s.loader.resolve requested) = false)
    (hu : catalogUrl? s.loader.base (s.loader.resolve requested) = some u) :
    (s.start requested).1 = .pending ⟨s.loader.resolve requested, u⟩ ∧
      (s.start requested).2.standing = s.standing ∧
      (s.start requested).2.loader.counters =
        (s.loader.counters.record .miss).record .fetch ∧
      (s.start requested).2.history = s.history := by
  have hu' : catalogUrl? ((s.loader.count .miss).count .fetch).base
      (s.loader.resolve requested) = some u := hu
  simp only [start, Loader.start, h, hu']
  refine ⟨rfl, ?_, rfl, rfl⟩
  simp [standing, absorb, Loader.count]

/-- Where the catalog has no URL, a load fails at once and changes nothing else. -/
theorem start_of_none (h : s.loader.isLoaded (s.loader.resolve requested) = false)
    (hu : catalogUrl? s.loader.base (s.loader.resolve requested) = none) :
    (s.start requested).1 = .done (.error
        ⟨s.loader.resolve requested, s.loader.base, .unusableBase s.loader.base⟩) ∧
      (s.start requested).2.standing = s.standing ∧
      (s.start requested).2.loader.counters =
        ((s.loader.counters.record .miss).record .fetch).record .failure ∧
      (s.start requested).2.history = s.history := by
  have hu' : catalogUrl? ((s.loader.count .miss).count .fetch).base
      (s.loader.resolve requested) = none := hu
  simp only [start, Loader.start, h, hu']
  refine ⟨rfl, ?_, rfl, rfl⟩
  simp [standing, absorb, Loader.count]

/-- An answer without a catalog ends a load with an error and changes nothing else. -/
theorem receive_of_error {p : PendingLoad} {r : Reply} {e : FetchError} (h : r.answer = .error e) :
    (s.receive p r).1 = .error ⟨p.locale, p.url, e⟩ ∧
      (s.receive p r).2.standing = s.standing ∧
      (s.receive p r).2.loader.counters = s.loader.counters.record .failure ∧
      (s.receive p r).2.history = s.history ++ r.requests := by
  simp only [receive, finish, Loader.finish, h]
  refine ⟨trivial, ?_, rfl, rfl⟩
  simp [standing, absorb, take, Loader.count]

/-- A catalog ends a load well and makes its locale active. -/
theorem receive_of_ok {p : PendingLoad} {r : Reply} {c : Catalog} (h : r.answer = .ok c) :
    (s.receive p r).1 = .ok p.locale ∧
      (s.receive p r).2.standing = s.standing.activate p.locale (some c) ∧
      (s.receive p r).2.loader.counters = s.loader.counters ∧
      (s.receive p r).2.history = s.history ++ r.requests := by
  simp only [receive, finish, Loader.finish, h]
  exact ⟨trivial, rfl, rfl, rfl⟩

/-- A load without a fetch is over when it begins. -/
theorem load_of_done {net : Network} {result : LoadResult}
    (h : (s.start requested).1 = .done result) :
    s.load net requested = (result, (s.start requested).2) := by
  rw [load]
  cases hstart : s.start requested with
  | mk progress t =>
    rw [hstart] at h
    have hprogress : progress = .done result := h
    rw [hprogress]
    rfl

/-- A load with a fetch begins and receives what the fetch comes back with. -/
theorem load_of_some {net : Network} {u : Url} {answer : Except FetchError Catalog}
    {requests : History}
    (hloaded : s.loader.isLoaded (s.loader.resolve requested) = false)
    (hu : catalogUrl? s.loader.base (s.loader.resolve requested) = some u)
    (hfetch : net.fetchText s.history u.render = (answer, s.history ++ requests)) :
    s.load net requested =
      (s.start requested).2.receive ⟨s.loader.resolve requested, u⟩ ⟨answer, requests⟩ := by
  obtain ⟨hprogress, -, -, hhistory⟩ := start_of_some hloaded hu
  rw [load]
  cases hstart : s.start requested with
  | mk progress t =>
    rw [hstart] at hprogress hhistory
    have hprogress : progress = .pending ⟨s.loader.resolve requested, u⟩ := hprogress
    have hhistory : t.history = s.history := hhistory
    rw [hprogress]
    simp only [complete, hhistory, hfetch, receive, take]

end Session

/-- A session and the loads that wait for an answer, each under its ticket. -/
structure Course where
  session : Session
  waiting : List (Nat × PendingLoad) := []

namespace Course

/-- What happens next. A ticket names a load from its beginning to its answer. -/
inductive Step
  | start (ticket : Nat) (requested : Option String)
  | finish (ticket : Nat) (reply : Reply)
  | activate (l : Locale) (c : Option Catalog)
  /-- A fetch past the loader, of which nothing is kept. -/
  | fetch (reply : Reply)
  /-- A call of the translator past the loader. -/
  | engine (call : EngineCall)
  | prefer (change : Preferences → Preferences)
  | resolve (requested : Option String)
  | lookup (key : String)
  | translate (key : String)

/-- What a step shows to whoever takes it. -/
inductive Event
  /-- A load has asked for its catalog and waits. -/
  | asked (ticket : Nat) (p : PendingLoad)
  | returned (ticket : Nat) (result : LoadResult)
  | fetched (answer : Except FetchError Catalog)
  | resolved (l : Locale)
  | found (text : Option String)
  | translated (text : String)
  | nothing

/-- The load that a step belongs to. -/
def Step.ticket? : Step → Option Nat
  | .start ticket _ | .finish ticket _ => some ticket
  | _ => none

/-- A step with what it shows. An answer for which no load waits is lost. -/
def step (w : Course) : Step → Event × Course
  | .start ticket requested =>
    match w.session.start requested with
    | (.done result, s) => (.returned ticket result, { w with session := s })
    | (.pending p, s) => (.asked ticket p, ⟨s, w.waiting ++ [(ticket, p)]⟩)
  | .finish ticket reply =>
    match w.waiting.lookup ticket with
    | some p =>
      let (result, s) := w.session.receive p reply
      (.returned ticket result, ⟨s, w.waiting.eraseP (·.1 == ticket)⟩)
    | none => (.nothing, w)
  | .activate l c => (.nothing, { w with session := w.session.activate l c })
  | .fetch reply => (.fetched reply.answer, { w with session := w.session.take reply.requests })
  | .engine call => (.nothing, { w with session := w.session.onTranslator call })
  | .prefer change => (.nothing, { w with session := w.session.onPreferences change })
  | .resolve requested =>
    let (l, s) := w.session.resolve requested
    (.resolved l, { w with session := s })
  | .lookup key =>
    let (text, s) := w.session.lookup key
    (.found text, { w with session := s })
  | .translate key =>
    let (_, s) := w.session.lookup key
    (.translated (w.session.translator.translate key), { w with session := s })

/-- What a step shows. -/
def seen (w : Course) (st : Step) : Event := (w.step st).1

/-- The course behind a step. -/
def next (w : Course) (st : Step) : Course := (w.step st).2

/-- The course behind some steps. -/
def run (w : Course) (steps : List Step) : Course := steps.foldl next w

/-- Some steps with what each of them shows. -/
def trace (w : Course) : List Step → List (Step × Event)
  | [] => []
  | st :: rest => (st, w.seen st) :: (w.next st).trace rest

/-- The course of a session at its beginning. -/
def begin (base : Url) (preferences : Preferences) (fallback : Locale) : Course where
  session := .begin base preferences fallback

/-- What a step shows as the result of a load, with the ticket of the load. -/
def result? : Step × Event → Option (Nat × LoadResult)
  | (_, .returned ticket result) => some (ticket, result)
  | _ => none

/-- The results of the loads that return at some steps, by ticket. -/
def returns (trace : List (Step × Event)) : List (Nat × LoadResult) := trace.filterMap result?

/-- The locale that a step makes active through the loader, with the catalog that comes along. -/
def activation? : Step × Event → Option (Locale × Option Catalog)
  | (.start _ _, .returned _ (.ok l)) => some (l, none)
  | (.finish _ reply, .returned _ (.ok l)) => some (l, reply.answer.toOption)
  | (.activate l c, _) => some (l, c)
  | _ => none

/-- The locales that some steps make active through the loader, with the catalogs that come
along. -/
def activations (trace : List (Step × Event)) : List (Locale × Option Catalog) :=
  trace.filterMap activation?

/-- Without steps a course stays where it is. -/
@[simp] theorem run_nil (w : Course) : w.run [] = w := rfl

/-- A course runs through its other steps from where the first one leads. -/
@[simp] theorem run_cons (w : Course) (st : Step) (steps : List Step) :
    w.run (st :: steps) = (w.next st).run steps := rfl

/-- A course runs through more steps from where the steps before lead. -/
theorem run_append (w : Course) (front back : List Step) :
    w.run (front ++ back) = (w.run front).run back := List.foldl_append

/-- Without steps there is nothing to see. -/
@[simp] theorem trace_nil (w : Course) : w.trace [] = [] := rfl

/-- The first step shows what it does where the course is, the others what they do from there on. -/
@[simp] theorem trace_cons (w : Course) (st : Step) (steps : List Step) :
    w.trace (st :: steps) = (st, w.seen st) :: (w.next st).trace steps := rfl

/-- More steps show what they do from where the steps before lead. -/
theorem trace_append (w : Course) (front back : List Step) :
    w.trace (front ++ back) = w.trace front ++ (w.run front).trace back := by
  induction front generalizing w with
  | nil => rfl
  | cons st rest ih => simp [ih]

/-- Where nothing is shown no load returns. -/
@[simp] theorem returns_nil : returns [] = [] := rfl

/-- The result that the first step shows, if it shows one, comes first. -/
theorem returns_cons (o : Step × Event) (rest : List (Step × Event)) :
    returns (o :: rest) = (result? o).toList ++ returns rest := by
  rw [returns, List.filterMap_cons]
  cases result? o <;> rfl

/-- The results that a trace shows and those that a trace behind it shows, in this order. -/
theorem returns_append (front back : List (Step × Event)) :
    returns (front ++ back) = returns front ++ returns back := List.filterMap_append

/-- A load has returned with a result exactly if some step shows this. -/
theorem mem_returns {trace : List (Step × Event)} {ticket : Nat} {result : LoadResult} :
    (ticket, result) ∈ returns trace ↔ ∃ st, (st, .returned ticket result) ∈ trace := by
  rw [returns, List.mem_filterMap]
  constructor
  · rintro ⟨⟨st, e⟩, ho, h⟩
    cases e <;> simp only [result?, Option.some.injEq, Prod.mk.injEq, reduceCtorEq] at h
    obtain ⟨rfl, rfl⟩ := h
    exact ⟨st, ho⟩
  · rintro ⟨st, ho⟩
    exact ⟨_, ho, rfl⟩

/-- What the first step makes active, if it does, comes first. -/
theorem activations_cons (o : Step × Event) (rest : List (Step × Event)) :
    activations (o :: rest) = (activation? o).toList ++ activations rest := by
  rw [activations, List.filterMap_cons]
  cases activation? o <;> rfl

/-- What a trace makes active and what a trace behind it makes active, in this order. -/
theorem activations_append (front back : List (Step × Event)) :
    activations (front ++ back) = activations front ++ activations back :=
  List.filterMap_append

/-- A load that begins does one of three things: it is over at once because its locale is loaded,
it asks for the catalog and waits, or it fails at once for want of a URL. -/
theorem start_cases (w : Course) (ticket : Nat) (requested : Option String) :
    let l := w.session.loader.resolve requested
    let st := Step.start ticket requested
    (w.next st).session.history = w.session.history ∧
    ((w.session.loader.isLoaded l = true ∧ w.seen st = .returned ticket (.ok l) ∧
      (w.next st).waiting = w.waiting ∧
      (w.next st).session.standing = w.session.standing.activate l none ∧
      (w.next st).session.loader.counters = w.session.loader.counters.record .hit) ∨
    (∃ u, w.session.loader.isLoaded l = false ∧
      catalogUrl? w.session.loader.base l = some u ∧ w.seen st = .asked ticket ⟨l, u⟩ ∧
      (w.next st).waiting = w.waiting ++ [(ticket, ⟨l, u⟩)] ∧
      (w.next st).session.standing = w.session.standing ∧
      (w.next st).session.loader.counters =
        (w.session.loader.counters.record .miss).record .fetch) ∨
    (w.session.loader.isLoaded l = false ∧ catalogUrl? w.session.loader.base l = none ∧
      w.seen st = .returned ticket
        (.error ⟨l, w.session.loader.base, .unusableBase w.session.loader.base⟩) ∧
      (w.next st).waiting = w.waiting ∧
      (w.next st).session.standing = w.session.standing ∧
      (w.next st).session.loader.counters =
        ((w.session.loader.counters.record .miss).record .fetch).record .failure)) := by
  intro l st
  cases hl : w.session.loader.isLoaded l with
  | true =>
    obtain ⟨hp, hs, hc, hh⟩ := Session.start_of_loaded hl
    have hst : w.step st = (.returned ticket (.ok l),
        { w with session := (w.session.start requested).2 }) := by
      rw [step, ← Prod.eta (w.session.start requested), hp]
    refine ⟨by simpa only [next, hst] using hh, .inl ?_⟩
    simp only [seen, next, hst]
    exact ⟨trivial, trivial, trivial, hs, hc⟩
  | false =>
    cases hu : catalogUrl? w.session.loader.base l with
    | some u =>
      obtain ⟨hp, hs, hc, hh⟩ := Session.start_of_some hl hu
      have hst : w.step st = (.asked ticket ⟨l, u⟩,
          ⟨(w.session.start requested).2, w.waiting ++ [(ticket, ⟨l, u⟩)]⟩) := by
        rw [step, ← Prod.eta (w.session.start requested), hp]
      refine ⟨by simpa only [next, hst] using hh, .inr (.inl ⟨u, ?_⟩)⟩
      simp only [seen, next, hst]
      exact ⟨trivial, trivial, trivial, trivial, hs, hc⟩
    | none =>
      obtain ⟨hp, hs, hc, hh⟩ := Session.start_of_none hl hu
      have hst : w.step st = (.returned ticket
          (.error ⟨l, w.session.loader.base, .unusableBase w.session.loader.base⟩),
          { w with session := (w.session.start requested).2 }) := by
        rw [step, ← Prod.eta (w.session.start requested), hp]
      refine ⟨by simpa only [next, hst] using hh, .inr (.inr ?_)⟩
      simp only [seen, next, hst]
      exact ⟨trivial, trivial, trivial, trivial, hs, hc⟩

/-- A load that is found under a ticket waits under it. -/
theorem mem_of_lookup {waiting : List (Nat × PendingLoad)} {ticket : Nat} {p : PendingLoad}
    (h : waiting.lookup ticket = some p) : (ticket, p) ∈ waiting := by
  obtain ⟨front, back, rfl, -⟩ := List.lookup_eq_some_iff.mp h
  simp

/-- An answer that comes in does one of three things: no load waits for it, or the load that does
ends with an error, or it ends well. -/
theorem finish_cases (w : Course) (ticket : Nat) (reply : Reply) :
    let st := Step.finish ticket reply
    (w.waiting.lookup ticket = none ∧ w.seen st = .nothing ∧ w.next st = w) ∨
    (∃ p, w.waiting.lookup ticket = some p ∧
      (w.next st).waiting = w.waiting.eraseP (·.1 == ticket) ∧
      (w.next st).session.history = w.session.history ++ reply.requests ∧
      ((∃ e, reply.answer = .error e ∧
        w.seen st = .returned ticket (.error ⟨p.locale, p.url, e⟩) ∧
        (w.next st).session.standing = w.session.standing ∧
        (w.next st).session.loader.counters = w.session.loader.counters.record .failure) ∨
      (∃ c, reply.answer = .ok c ∧ w.seen st = .returned ticket (.ok p.locale) ∧
        (w.next st).session.standing = w.session.standing.activate p.locale (some c) ∧
        (w.next st).session.loader.counters = w.session.loader.counters))) := by
  intro st
  cases hw : w.waiting.lookup ticket with
  | none =>
    have hst : w.step st = (.nothing, w) := by rw [step, hw]
    exact .inl ⟨rfl, by rw [seen, hst], by rw [next, hst]⟩
  | some p =>
    have hst : w.step st = (.returned ticket (w.session.receive p reply).1,
        ⟨(w.session.receive p reply).2, w.waiting.eraseP (·.1 == ticket)⟩) := by rw [step, hw]
    refine .inr ⟨p, rfl, ?_⟩
    simp only [seen, next, hst]
    cases ha : reply.answer with
    | error e =>
      obtain ⟨hr, hs, hc, hh⟩ := Session.receive_of_error (s := w.session) (p := p) ha
      exact ⟨trivial, hh, .inl ⟨e, rfl, by rw [hr], hs, hc⟩⟩
    | ok c =>
      obtain ⟨hr, hs, hc, hh⟩ := Session.receive_of_ok (s := w.session) (p := p) ha
      exact ⟨trivial, hh, .inr ⟨c, rfl, by rw [hr], hs, hc⟩⟩

/-- What a session stands at after a step, from what the step shows: steps past the loader aside,
only the activation of a locale changes anything. -/
def standingAfter (σ : Standing) (o : Step × Event) : Standing :=
  match activation? o with
  | some (l, c) => σ.activate l c
  | none =>
    match o.1 with
    | .engine call => { σ with translator := σ.translator.apply call }
    | .prefer change => { σ with preferences := change σ.preferences }
    | _ => σ

/-- What a session stands at after a step can be told from what the step shows. -/
theorem standing_next (w : Course) (st : Step) :
    (w.next st).session.standing = standingAfter w.session.standing (st, w.seen st) := by
  cases st with
  | start ticket requested =>
    obtain ⟨-, ⟨-, he, -, hs, -⟩ | ⟨u, -, -, he, -, hs, -⟩ | ⟨-, -, he, -, hs, -⟩⟩ :=
      w.start_cases ticket requested <;> rw [he, hs] <;> rfl
  | finish ticket reply =>
    rcases w.finish_cases ticket reply with
      ⟨-, he, hn⟩ | ⟨p, -, -, -, ⟨e, -, he, hs, -⟩ | ⟨c, ha, he, hs, -⟩⟩
    · rw [he, hn]
      rfl
    · rw [he, hs]
      rfl
    · rw [he, hs, standingAfter, activation?, ha]
      rfl
  | activate l c => rfl
  | fetch reply => rfl
  | engine call => rfl
  | prefer change => rfl
  | resolve requested => rfl
  | lookup key => rfl
  | translate key => rfl

/-- The codes that are loaded after a step can be told from what the step shows. -/
theorem loaded_next (w : Course) (st : Step) : (w.next st).session.loader.loaded =
    (standingAfter w.session.standing (st, w.seen st)).loaded :=
  congrArg Standing.loaded (w.standing_next st)

/-- The translator after a step can be told from what the step shows. -/
theorem translator_next (w : Course) (st : Step) : (w.next st).session.translator =
    (standingAfter w.session.standing (st, w.seen st)).translator :=
  congrArg Standing.translator (w.standing_next st)

/-- The loads that wait behind a step, from what the step shows. -/
def waitingAfter (waiting : List (Nat × PendingLoad)) : Step × Event → List (Nat × PendingLoad)
  | (_, .asked ticket p) => waiting ++ [(ticket, p)]
  | (.finish _ _, .returned ticket _) => waiting.eraseP (·.1 == ticket)
  | _ => waiting

/-- The loads that wait after a step can be told from what the step shows. -/
theorem waiting_next (w : Course) (st : Step) :
    (w.next st).waiting = waitingAfter w.waiting (st, w.seen st) := by
  cases st with
  | start ticket requested =>
    obtain ⟨-, ⟨-, he, hw, -⟩ | ⟨u, -, -, he, hw, -⟩ | ⟨-, -, he, hw, -⟩⟩ :=
      w.start_cases ticket requested <;> rw [he, hw] <;> rfl
  | finish ticket reply =>
    rcases w.finish_cases ticket reply with
      ⟨-, he, hn⟩ | ⟨p, -, hw, -, ⟨e, -, he, -⟩ | ⟨c, -, he, -⟩⟩
    · rw [he, hn]
      rfl
    · rw [he, hw]
      rfl
    · rw [he, hw]
      rfl
  | _ => rfl

/-- What the beginning of a load shows, from what the session stands at. -/
theorem seen_start (w : Course) (ticket : Nat) (requested : Option String) :
    w.seen (.start ticket requested) =
      if w.session.loader.isLoaded (w.session.loader.resolve requested) then
        .returned ticket (.ok (w.session.loader.resolve requested))
      else
        match catalogUrl? w.session.loader.base (w.session.loader.resolve requested) with
        | some u => .asked ticket ⟨w.session.loader.resolve requested, u⟩
        | none => .returned ticket (.error ⟨w.session.loader.resolve requested,
            w.session.loader.base, .unusableBase w.session.loader.base⟩) := by
  obtain ⟨-, ⟨hl, he, -⟩ | ⟨u, hl, hu, he, -⟩ | ⟨hl, hu, he, -⟩⟩ :=
    w.start_cases ticket requested
  · rw [he, if_pos hl]
  · rw [he, if_neg (by simp [hl]), hu]
  · rw [he, if_neg (by simp [hl]), hu]

/-- What an answer shows, from the load that waits for it. -/
theorem seen_finish (w : Course) (ticket : Nat) (reply : Reply) :
    w.seen (.finish ticket reply) =
      match w.waiting.lookup ticket, reply.answer with
      | none, _ => .nothing
      | some p, .error e => .returned ticket (.error ⟨p.locale, p.url, e⟩)
      | some p, .ok _ => .returned ticket (.ok p.locale) := by
  rcases w.finish_cases ticket reply with
    ⟨hp, he, -⟩ | ⟨p, hp, -, -, ⟨e, ha, he, -⟩ | ⟨c, ha, he, -⟩⟩
  · rw [he, hp]
  · rw [he, hp, ha]
  · rw [he, hp, ha]

/-- A locale becomes active through the loader when a load of it returns well or when the loader
is told so. -/
theorem exists_activation?_iff (w : Course) (st : Step) (l : Locale) :
    (∃ c, activation? (st, w.seen st) = some (l, c)) ↔
      (∃ ticket, w.seen st = .returned ticket (.ok l)) ∨ ∃ c, st = .activate l c := by
  cases st with
  | start ticket requested =>
    obtain ⟨-, ⟨-, he, -⟩ | ⟨u, -, -, he, -⟩ | ⟨-, -, he, -⟩⟩ :=
      w.start_cases ticket requested <;> simp [he, activation?]
  | finish ticket reply =>
    rcases w.finish_cases ticket reply with
      ⟨-, he, -⟩ | ⟨p, -, -, -, ⟨e, -, he, -⟩ | ⟨c, -, he, -⟩⟩ <;> simp [he, activation?]
  | activate m c => simp [activation?, seen, step]
  | _ => simp [activation?, seen, step]

/-- The locales that some steps make active through the loader are those with which loads return
well, and those of which the loader is told so. -/
theorem exists_mem_activations_iff (w : Course) (steps : List Step) (l : Locale) :
    (∃ c, (l, c) ∈ activations (w.trace steps)) ↔
      (∃ ticket, (ticket, .ok l) ∈ returns (w.trace steps)) ∨ ∃ c, .activate l c ∈ steps := by
  induction steps generalizing w with
  | nil => simp [activations]
  | cons st rest ih =>
    have hfirst := w.exists_activation?_iff st l
    have hrest := ih (w.next st)
    simp only [mem_returns] at hrest ⊢
    simp only [trace_cons, activations_cons, List.mem_append, Option.mem_toList, exists_or,
      hfirst, hrest, List.mem_cons, Prod.mk.injEq]
    grind

/-- Nothing moves the base URL of the loader. -/
theorem base_run (w : Course) (steps : List Step) :
    (w.run steps).session.loader.base = w.session.loader.base := by
  induction steps generalizing w with
  | nil => rfl
  | cons st rest ih =>
    rw [run_cons, ih]
    have h := congrArg Standing.base (w.standing_next st)
    unfold standingAfter at h
    split at h
    · exact h
    · split at h <;> exact h

end Course

end Phrasebook
