import Phrasebook.Proofs.Session.Counting
import Phrasebook.Proofs.Session.LoadedSet
import Phrasebook.Url.Parser

/-!
# Fetches that are asked for

A fetch is counted before the URL of the catalog is known. Where the base URL takes segments every
load that counts a fetch goes on to ask for it, so the counter says how many fetches were asked for.
Under any other base URL nothing is ever asked for, and yet each load of a locale that is not loaded
counts a fetch and a failure.
-/

namespace Phrasebook.Course

/-- Whether a load asks for its catalog at a step. -/
def isAsked : Step × Event → Bool
  | (_, .asked _ _) => true
  | _ => false

/-- Whether a load ends at a step because no catalog came for what it had asked. -/
def isRefused : Step × Event → Bool
  | (.finish _ _, .returned _ (.error _)) => true
  | _ => false

/-- Whether a load fails at a step without having asked for anything. -/
def isUnasked : Step × Event → Bool
  | (.start _ _, .returned _ (.error _)) => true
  | _ => false

/-- How many loads ask for their catalogs at some steps. -/
def asked (trace : List (Step × Event)) : Nat := trace.countP isAsked

/-- How many loads ask at some steps or before and get no catalog. -/
def refused (trace : List (Step × Event)) : Nat := trace.countP isRefused

/-- How many loads fail at some steps without having asked for anything. -/
def unasked (trace : List (Step × Event)) : Nat := trace.countP isUnasked

/-- A step counts a fetch for a load that asks and for one that fails to, and a failure for a load
that gets no catalog and again for one that fails to ask. -/
theorem counters_next (w : Course) (st : Step) :
    let o := (st, w.seen st)
    let before := w.session.loader.counters
    let after := (w.next st).session.loader.counters
    after.fetches = before.fetches + asked [o] + unasked [o] ∧
      after.failures = before.failures + refused [o] + unasked [o] := by
  cases st with
  | start ticket requested =>
    obtain ⟨-, ⟨-, he, -, -, hc⟩ | ⟨u, -, -, he, -, -, hc⟩ | ⟨-, -, he, -, -, hc⟩⟩ :=
      w.start_cases ticket requested <;> rw [he, hc] <;> exact ⟨rfl, rfl⟩
  | finish ticket reply =>
    rcases w.finish_cases ticket reply with
      ⟨-, he, hn⟩ | ⟨p, -, -, -, ⟨e, -, he, -, hc⟩ | ⟨c, -, he, -, hc⟩⟩
    · rw [he, hn]
      exact ⟨rfl, rfl⟩
    · rw [he, hc]
      exact ⟨rfl, rfl⟩
    · rw [he, hc]
      exact ⟨rfl, rfl⟩
  | _ => exact ⟨rfl, rfl⟩

/-- Over a run the fetches are those of the loads that asked and of those that failed to, and so are
the failures. -/
theorem counters_run (w : Course) (steps : List Step) :
    let before := w.session.loader.counters
    let after := (w.run steps).session.loader.counters
    after.fetches = before.fetches + asked (w.trace steps) + unasked (w.trace steps) ∧
      after.failures = before.failures + refused (w.trace steps) + unasked (w.trace steps) := by
  induction steps generalizing w with
  | nil => exact ⟨rfl, rfl⟩
  | cons st rest ih =>
    obtain ⟨hfetches, hfailures⟩ := w.counters_next st
    obtain ⟨hfetches', hfailures'⟩ := ih (w.next st)
    have hsplit (count : Step × Event → Bool) :
        (w.trace (st :: rest)).countP count =
          [(st, w.seen st)].countP count + ((w.next st).trace rest).countP count := by
      rw [trace_cons, ← List.singleton_append, List.countP_append]
    simp only [run_cons, asked, refused, unasked, hsplit] at *
    omega

/-- Only under a base URL that takes no segments does a load fail to ask, and only under one that
takes them does a load ask. -/
theorem seen_of_base (w : Course) (st : Step) :
    (isUnasked (st, w.seen st) = true → ¬w.session.loader.base.TakesSegments) ∧
      (isAsked (st, w.seen st) = true → w.session.loader.base.TakesSegments) := by
  cases st with
  | start ticket requested =>
    have hurl := exists_catalogUrl?_iff w.session.loader.base (w.session.loader.resolve requested)
    obtain ⟨-, ⟨-, he, -⟩ | ⟨u, -, hu, he, -⟩ | ⟨-, hu, he, -⟩⟩ :=
      w.start_cases ticket requested
    · simp [he, isUnasked, isAsked]
    · simp [he, isUnasked, isAsked, ← hurl, hu]
    · simp [he, isUnasked, isAsked, ← hurl, hu]
  | finish ticket reply =>
    rcases w.finish_cases ticket reply with
      ⟨-, he, -⟩ | ⟨p, -, -, -, ⟨e, -, he, -⟩ | ⟨c, -, he, -⟩⟩ <;>
      simp [he, isUnasked, isAsked]
  | _ => simp [isUnasked, isAsked, seen, step]

/-- What no step shows under the base URL of a course no run shows. -/
theorem countP_trace_eq_zero {count : Step × Event → Bool} {base : Url}
    (h : ∀ w : Course, w.session.loader.base = base → ∀ st, count (st, w.seen st) = false)
    {w : Course} (hbase : w.session.loader.base = base) (steps : List Step) :
    (w.trace steps).countP count = 0 := by
  induction steps generalizing w with
  | nil => rfl
  | cons st rest ih =>
    rw [trace_cons, List.countP_cons_of_neg (by simp [h w hbase st])]
    exact ih ((w.base_run [st]).trans hbase)

/-- Over a base that takes segments every load that has to ask for its catalog does. -/
theorem unasked_eq_zero {w : Course} (h : w.session.loader.base.TakesSegments)
    (steps : List Step) : unasked (w.trace steps) = 0 := by
  refine countP_trace_eq_zero (fun v hv st => Bool.eq_false_iff.mpr fun hunasked => ?_) rfl steps
  exact (v.seen_of_base st).1 hunasked (hv ▸ h)

/-- Over a base that takes no segments no load asks for anything. -/
theorem asked_eq_zero {w : Course} (h : ¬w.session.loader.base.TakesSegments)
    (steps : List Step) : asked (w.trace steps) = 0 := by
  refine countP_trace_eq_zero (fun v hv st => Bool.eq_false_iff.mpr fun hasked => h ?_) rfl steps
  exact hv ▸ (v.seen_of_base st).2 hasked

/-- What the counters of fetches and failures say, at any point of a session. The fetches are those
of the loads that asked for their catalogs and of the loads that failed before they could ask, and
the failures are those of the loads that asked and got no catalog and of the loads that failed
before they could ask. Under a base URL that takes segments no load is of the last kind, so the
counters say what was asked for and what failed. Under any other base URL nothing is asked for, and
each load that finds its locale not loaded counts a fetch and a failure all the same. -/
theorem fetches_eq_asked_add_unasked (base : Url) (preferences : Preferences) (fallback : Locale)
    (steps : List Step) :
    let w := begin base preferences fallback
    let t := w.trace steps
    let c := (w.run steps).session.loader.counters
    c.fetches = asked t + unasked t ∧
    c.failures = refused t + unasked t ∧
    (base.TakesSegments → unasked t = 0 ∧ c.fetches = asked t ∧ c.failures = refused t) ∧
    (¬base.TakesSegments → asked t = 0 ∧ refused t = 0 ∧
      c.fetches = c.misses ∧ c.failures = c.misses ∧ c.misses = unasked t) := by
  intro w t c
  obtain ⟨hfetches, hfailures⟩ : c.fetches = 0 + asked t + unasked t ∧
      c.failures = 0 + refused t + unasked t := w.counters_run steps
  obtain ⟨-, hmisses, -, hbalance⟩ : _ ∧ c.fetches = c.misses ∧ _ ∧
      c.fetches = c.failures + ((w.run steps).waiting.length + fetched t) :=
    (w.tally_run steps).of_fresh rfl rfl
  refine ⟨by omega, by omega, fun h => ?_, fun h => ?_⟩
  · have hunasked : unasked t = 0 := unasked_eq_zero (w := w) h steps
    exact ⟨hunasked, by omega, by omega⟩
  · have hasked : asked t = 0 := asked_eq_zero (w := w) h steps
    -- The fetches that have not failed are no fewer than none, so no answer can have failed.
    have hrefused : refused t = 0 := by omega
    exact ⟨hasked, hrefused, by omega, by omega, by omega⟩

/-- The URL of a mailbox, which takes no segments. -/
def mailboxUrl : Url where
  scheme := "mailto"
  authority := none
  path := .opaqueText "i18n@example.com"
  query := none
  fragment := none

/-- A load under the URL of a mailbox asks for nothing, and yet a fetch and a failure are
counted. -/
theorem unasked_fetch_counted :
    (Url.parse "mailto:i18n@example.com").toOption = some mailboxUrl ∧
      let w := begin mailboxUrl {} Locale.fallback
      let t := w.trace [.start 0 (some "fr")]
      let c := (w.run [.start 0 (some "fr")]).session.loader.counters
      asked t = 0 ∧ refused t = 0 ∧ c.fetches = 1 ∧ c.failures = 1 := by
  decide +kernel

end Phrasebook.Course
