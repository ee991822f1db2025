import Phrasebook.Proofs.Session.Joined

/-!
# Failed loads

A load that fails changes nothing but the counters, the log and the requests that were sent. So
the steps of failed loads can be left out of a session, also where other loads overlap them: the
other steps show the same, and what the session stands at is the same all along.
-/

namespace Phrasebook

/-- A session goes on to stand at the same, and counts some more misses, fetches and failures. -/
def Session.OnlyCounts (before after : Session) (misses fetches failures : Nat) : Prop :=
  after.standing = before.standing ∧
    after.loader.counters = { before.loader.counters with
      misses := before.loader.counters.misses + misses
      fetches := before.loader.counters.fetches + fetches
      failures := before.loader.counters.failures + failures }

/-- A load by itself that fails leaves all that a session stands at, and counts a miss, a fetch and
a failure. -/
theorem Session.onlyCounts_load {net : Network} {s : Session} {requested : Option String}
    {e : LoadError} (h : (s.load net requested).1 = .error e) :
    s.OnlyCounts (s.load net requested).2 1 1 1 := by
  have hload : s.load net requested =
      (s.start requested).2.complete net (s.start requested).1 := rfl
  rw [hload] at h ⊢
  cases hl : s.loader.isLoaded (s.loader.resolve requested) with
  | true =>
    obtain ⟨hp, -⟩ := Session.start_of_loaded hl
    rw [hp] at h
    cases h
  | false =>
    cases hu : catalogUrl? s.loader.base (s.loader.resolve requested) with
    | none =>
      obtain ⟨hp, hs, hc, -⟩ := Session.start_of_none hl hu
      rw [hp]
      exact ⟨hs, hc⟩
    | some u =>
      obtain ⟨hp, hs, hc, -⟩ := Session.start_of_some hl hu
      rw [hp, complete_pending] at h ⊢
      cases ha : (net.reply (s.start requested).2.history u.render).answer with
      | error cause =>
        obtain ⟨-, hs', hc', -⟩ := Session.receive_of_error (s := (s.start requested).2)
          (p := ⟨s.loader.resolve requested, u⟩) ha
        exact ⟨hs'.trans hs, by rw [hc', hc]; rfl⟩
      | ok c =>
        obtain ⟨hr, -⟩ := Session.receive_of_ok (s := (s.start requested).2)
          (p := ⟨s.loader.resolve requested, u⟩) ha
        rw [hr] at h
        cases h

namespace Course

/-- Whether a step belongs to a load under a ticket that is dropped. -/
def Step.isOf (dropped : Nat → Bool) (st : Step) : Bool := st.ticket?.any dropped

/-- Some steps without those of the loads under dropped tickets. -/
def without (dropped : Nat → Bool) (steps : List Step) : List Step :=
  steps.filter fun st => !st.isOf dropped

/-- Two courses differ only in that no load under a dropped ticket waits in the second one. -/
structure Erased (dropped : Nat → Bool) (w v : Course) : Prop where
  standing : v.session.standing = w.session.standing
  waiting : v.waiting = w.waiting.filter fun q => !dropped q.1

section Waiting

variable {dropped : Nat → Bool} {ticket : Nat}

/-- A ticket that is kept finds the same load when those under dropped tickets are left out. -/
theorem lookup_filter (h : dropped ticket = false) (waiting : List (Nat × PendingLoad)) :
    (waiting.filter fun q => !dropped q.1).lookup ticket = waiting.lookup ticket := by
  induction waiting with
  | nil => rfl
  | cons q rest ih =>
    obtain ⟨t, p⟩ := q
    by_cases ht : ticket = t
    · subst ht
      simp [h]
    · have hne : (ticket == t) = false := by simpa using ht
      cases hd : dropped t <;> simp [hd, List.lookup_cons, hne, ih]

/-- Taking off the load under a kept ticket and leaving out those under dropped ones go in either
order. -/
theorem eraseP_filter (h : dropped ticket = false) (waiting : List (Nat × PendingLoad)) :
    (waiting.filter fun q => !dropped q.1).eraseP (·.1 == ticket) =
      (waiting.eraseP (·.1 == ticket)).filter fun q => !dropped q.1 := by
  induction waiting with
  | nil => rfl
  | cons q rest ih =>
    by_cases hq : q.1 = ticket
    · simp [hq, h]
    · cases hd : dropped q.1 <;> simp [hq, hd, ih]

/-- Where loads under dropped tickets are left out anyway, it does not matter that one of them is
taken off. -/
theorem filter_eraseP (h : dropped ticket = true) (waiting : List (Nat × PendingLoad)) :
    ((waiting.eraseP (·.1 == ticket)).filter fun q => !dropped q.1) =
      waiting.filter fun q => !dropped q.1 := by
  induction waiting with
  | nil => rfl
  | cons q rest ih =>
    by_cases hq : q.1 = ticket
    · simp [hq, h]
    · cases hd : dropped q.1 <;> simp [hq, hd, ih]

end Waiting

variable {dropped : Nat → Bool} {w v : Course}

/-- A step of another load, or of none, shows the same in both courses. -/
theorem Erased.seen (h : Erased dropped w v) {st : Step} (hst : st.isOf dropped = false) :
    v.seen st = w.seen st := by
  have hresolve := Loader.resolve_congr (congrArg Standing.preferences h.standing)
  have htranslator : v.session.translator = w.session.translator :=
    congrArg Standing.translator h.standing
  cases st with
  | start ticket requested =>
    have hloaded := Loader.isLoaded_congr (congrArg Standing.loaded h.standing)
    have hbase : v.session.loader.base = w.session.loader.base :=
      congrArg Standing.base h.standing
    rw [seen_start, seen_start, hresolve, hloaded, hbase]
  | finish ticket reply => rw [seen_finish, seen_finish, h.waiting, lookup_filter hst]
  | resolve requested => exact congrArg Event.resolved (hresolve requested)
  | lookup key => exact congrArg (fun t => Event.found (t.lookup? key)) htranslator
  | translate key => exact congrArg (fun t => Event.translated (t.translate key)) htranslator
  | _ => rfl

/-- A step of another load, or of none, keeps the courses alike. -/
theorem Erased.next (h : Erased dropped w v) {st : Step} (hst : st.isOf dropped = false) :
    Erased dropped (w.next st) (v.next st) where
  standing := by rw [standing_next, standing_next, h.standing, h.seen hst]
  waiting := by
    rw [waiting_next, waiting_next, h.waiting, h.seen hst]
    cases st with
    | start ticket requested =>
      obtain ⟨-, ⟨-, he, -⟩ | ⟨u, -, -, he, -⟩ | ⟨-, -, he, -⟩⟩ :=
        w.start_cases ticket requested <;> rw [he]
      · rfl
      · have hticket : dropped ticket = false := hst
        simp [waitingAfter, hticket]
      · rfl
    | finish ticket reply =>
      rcases w.finish_cases ticket reply with
        ⟨-, he, -⟩ | ⟨p, -, -, -, ⟨e, -, he, -⟩ | ⟨c, -, he, -⟩⟩ <;> rw [he]
      · rfl
      · exact eraseP_filter hst _
      · exact eraseP_filter hst _
    | _ => rfl

/-- A step of a dropped load does not show in the second course, unless the load returns well. -/
theorem Erased.next_dropped (h : Erased dropped w v) {st : Step} (hst : st.isOf dropped = true)
    (hfails : ∀ ticket l, dropped ticket = true → w.seen st ≠ .returned ticket (.ok l)) :
    Erased dropped (w.next st) v := by
  cases st with
  | start ticket requested =>
    have hticket : dropped ticket = true := hst
    obtain ⟨-, ⟨-, he, -⟩ | ⟨u, -, -, he, hw, hs, -⟩ | ⟨-, -, he, hw, hs, -⟩⟩ :=
      w.start_cases ticket requested
    · exact absurd he (hfails ticket _ hticket)
    · exact ⟨by rw [hs, h.standing], by rw [hw, h.waiting]; simp [hticket]⟩
    · exact ⟨by rw [hs, h.standing], by rw [hw, h.waiting]⟩
  | finish ticket reply =>
    have hticket : dropped ticket = true := hst
    rcases w.finish_cases ticket reply with
      ⟨-, -, hn⟩ | ⟨p, -, hw, -, ⟨e, -, -, hs, -⟩ | ⟨c, -, he, -⟩⟩
    · rwa [hn]
    · exact ⟨by rw [hs, h.standing], by rw [hw, h.waiting, filter_eraseP hticket]⟩
    · exact absurd he (hfails ticket _ hticket)
  | _ => cases hst

/-- Without the steps of dropped loads, none of which returns well, the other steps show the same
and the courses stay alike. -/
theorem Erased.run (h : Erased dropped w v) {steps : List Step}
    (hfails : ∀ ticket l, dropped ticket = true →
      (ticket, .ok l) ∉ returns (w.trace steps)) :
    v.trace (without dropped steps) = (w.trace steps).filter (fun o => !o.1.isOf dropped) ∧
      Erased dropped (w.run steps) (v.run (without dropped steps)) := by
  induction steps generalizing w v with
  | nil => exact ⟨rfl, h⟩
  | cons st rest ih =>
    have hfirst : ∀ ticket l, dropped ticket = true → w.seen st ≠ .returned ticket (.ok l) :=
      fun ticket l hd h => hfails ticket l hd (mem_returns.mpr ⟨st, by simp [h]⟩)
    have hrest : ∀ ticket l, dropped ticket = true →
        (ticket, .ok l) ∉ returns ((w.next st).trace rest) := by
      intro ticket l hd h
      obtain ⟨st', h⟩ := mem_returns.mp h
      exact hfails ticket l hd (mem_returns.mpr ⟨st', List.mem_cons_of_mem _ h⟩)
    -- A step of a dropped load is taken in the first course only, any other one in both.
    cases hst : st.isOf dropped with
    | true =>
      have hskip : without dropped (st :: rest) = without dropped rest := by
        simp [without, hst]
      obtain ⟨htrace, hrun⟩ := ih (h.next_dropped hst hfirst) hrest
      rw [hskip]
      exact ⟨by simpa [hst] using htrace, hrun⟩
    | false =>
      have hkeep : without dropped (st :: rest) = st :: without dropped rest := by
        simp [without, hst]
      obtain ⟨htrace, hrun⟩ := ih (h.next hst) hrest
      rw [hkeep, trace_cons, htrace, h.seen hst]
      exact ⟨by simp [hst], hrun⟩

/-- A load that begins and waits leaves all that a session stands at, and counts a miss and a
fetch. -/
theorem onlyCounts_of_asked {w : Course} {ticket : Nat} {requested : Option String}
    {p : PendingLoad} (h : w.seen (.start ticket requested) = .asked ticket p) :
    w.session.OnlyCounts (w.next (.start ticket requested)).session 1 1 0 := by
  obtain ⟨-, ⟨-, he, -⟩ | ⟨u, -, -, -, -, hs, hc⟩ | ⟨-, -, he, -⟩⟩ :=
    w.start_cases ticket requested
  · simp [he] at h
  · exact ⟨hs, hc⟩
  · simp [he] at h

/-- A load that fails when it begins counts a miss, a fetch and a failure, and no more. -/
theorem onlyCounts_of_start {w : Course} {ticket : Nat} {requested : Option String}
    {e : LoadError} (h : w.seen (.start ticket requested) = .returned ticket (.error e)) :
    w.session.OnlyCounts (w.next (.start ticket requested)).session 1 1 1 := by
  obtain ⟨-, ⟨-, he, -⟩ | ⟨u, -, -, he, -⟩ | ⟨-, -, -, -, hs, hc⟩⟩ :=
    w.start_cases ticket requested
  · simp [he] at h
  · simp [he] at h
  · exact ⟨hs, hc⟩

/-- A load that fails when its answer comes counts the failure, and no more. -/
theorem onlyCounts_of_finish {w : Course} {ticket : Nat} {reply : Reply} {e : LoadError}
    (h : w.seen (.finish ticket reply) = .returned ticket (.error e)) :
    w.session.OnlyCounts (w.next (.finish ticket reply)).session 0 0 1 := by
  rcases w.finish_cases ticket reply with
    ⟨-, he, -⟩ | ⟨p, -, -, -, ⟨_, -, -, hs, hc⟩ | ⟨c, -, he, -⟩⟩
  · simp [he] at h
  · exact ⟨hs, hc⟩
  · simp [he] at h

/-- Failed loads are invisible but for the counters. A load by itself that fails leaves the
translator, the calls made to it, the loaded set and the preferences, and counts one miss, one
fetch and one failure; so does a load that others overlap, which counts the first two when it
begins. And without the steps of any failed loads, a session shows the same at every other step
and stands at the same after each. -/
theorem failed_loads_invisible :
    (∀ (net : Network) (s : Session) (requested : Option String) (e : LoadError),
      (s.load net requested).1 = .error e → s.OnlyCounts (s.load net requested).2 1 1 1) ∧
    (∀ (w : Course) (ticket : Nat) (requested : Option String),
      (∀ p, w.seen (.start ticket requested) = .asked ticket p →
        w.session.OnlyCounts (w.next (.start ticket requested)).session 1 1 0) ∧
      (∀ e, w.seen (.start ticket requested) = .returned ticket (.error e) →
        w.session.OnlyCounts (w.next (.start ticket requested)).session 1 1 1)) ∧
    (∀ (w : Course) (ticket : Nat) (reply : Reply) (e : LoadError),
      w.seen (.finish ticket reply) = .returned ticket (.error e) →
        w.session.OnlyCounts (w.next (.finish ticket reply)).session 0 0 1) ∧
    (∀ (base : Url) (preferences : Preferences) (fallback : Locale) (steps : List Step)
      (dropped : Nat → Bool),
      let w := begin base preferences fallback
      (∀ ticket l, dropped ticket = true → (ticket, .ok l) ∉ returns (w.trace steps)) →
      w.trace (without dropped steps) = (w.trace steps).filter (fun o => !o.1.isOf dropped) ∧
        ∀ front, front <+: steps →
          (w.run (without dropped front)).session.standing = (w.run front).session.standing) := by
  refine ⟨fun net s requested e h => Session.onlyCounts_load h,
    fun w ticket requested => ⟨fun p h => onlyCounts_of_asked h, fun e h => onlyCounts_of_start h⟩,
    fun w ticket reply e h => onlyCounts_of_finish h, ?_⟩
  intro base preferences fallback steps dropped w h
  have hself : Erased dropped w w := ⟨rfl, rfl⟩
  refine ⟨(hself.run h).1, fun front hfront => ?_⟩
  obtain ⟨back, rfl⟩ := hfront
  rw [trace_append, returns_append] at h
  exact (hself.run fun ticket l hd hmem =>
    h ticket l hd (List.mem_append_left _ hmem)).2.standing

end Course

end Phrasebook
