import Phrasebook.Proofs.Session.Joined

/-!
# What the counters add up to

A load counts as a hit or as a miss when it begins, a miss counts a fetch along with it, and an
error that is returned counts a failure. So the counters can be read off what a session has shown,
and the fetches that have not failed are those of the loads that wait and those that brought a
catalog. The balance holds between any two steps, whatever loads overlap there.
-/

namespace Phrasebook.Course

/-- Only loads move the counters. -/
theorem counters_of_ticket?_eq_none (w : Course) {st : Step} (h : st.ticket? = none) :
    (w.next st).session.loader.counters = w.session.loader.counters := by
  cases st with
  | start => cases h
  | finish => cases h
  | _ => rfl

/-- Whether a step begins a load. -/
def Step.isStart : Step → Bool
  | .start _ _ => true
  | _ => false

/-- Whether a load has returned an error. -/
def isFailure : Nat × LoadResult → Bool
  | (_, .error _) => true
  | (_, .ok _) => false

/-- Whether a step ends a load whose fetch brought a catalog. -/
def isFetched : Step × Event → Bool
  | (.finish _ _, .returned _ (.ok _)) => true
  | _ => false

/-- How many loads begin at some steps. -/
def begun (steps : List Step) : Nat := steps.countP Step.isStart

/-- How many loads return an error at some steps. -/
def failed (trace : List (Step × Event)) : Nat := (returns trace).countP isFailure

/-- How many loads end with a fetched catalog at some steps. -/
def fetched (trace : List (Step × Event)) : Nat := trace.countP isFetched

/-- The loads that begin at steps and then at more steps add up. -/
theorem begun_append (front back : List Step) :
    begun (front ++ back) = begun front + begun back := List.countP_append

/-- The errors that are returned at steps and then at more steps add up. -/
theorem failed_append (front back : List (Step × Event)) :
    failed (front ++ back) = failed front + failed back := by
  rw [failed, returns_append, List.countP_append, failed, failed]

/-- The catalogs that are fetched at steps and then at more steps add up. -/
theorem fetched_append (front back : List (Step × Event)) :
    fetched (front ++ back) = fetched front + fetched back := List.countP_append

/-- From one course to a later one, over steps at which some loads begin, some return an error and
some end with a fetched catalog: what the counters and the waiting loads of the two have to do with
each other. -/
structure Tally (w v : Course) (begun failed fetched : Nat) : Prop where
  loads : v.session.loader.counters.hits + v.session.loader.counters.misses =
    w.session.loader.counters.hits + w.session.loader.counters.misses + begun
  fetches : v.session.loader.counters.fetches + w.session.loader.counters.misses =
    w.session.loader.counters.fetches + v.session.loader.counters.misses
  failures : v.session.loader.counters.failures = w.session.loader.counters.failures + failed
  balance : v.session.loader.counters.fetches + w.session.loader.counters.failures +
      w.waiting.length =
    w.session.loader.counters.fetches + v.session.loader.counters.failures +
      v.waiting.length + fetched

/-- From a course to itself nothing is added. -/
theorem Tally.refl (w : Course) : Tally w w 0 0 0 := ⟨rfl, rfl, rfl, rfl⟩

/-- What is added on the way from one course to a second and to a third adds up. -/
theorem Tally.trans {u v w : Course} {b f g b' f' g' : Nat} (h : Tally u v b f g)
    (h' : Tally v w b' f' g') : Tally u w (b + b') (f + f') (g + g') where
  loads := by rw [h'.loads, h.loads, Nat.add_assoc]
  fetches := by
    have := h.fetches
    have := h'.fetches
    omega
  failures := by rw [h'.failures, h.failures, Nat.add_assoc]
  balance := by
    have := h.balance
    have := h'.balance
    omega

/-- From a course that has counted nothing yet and in which no load waits, the balance gives the
counters themselves. -/
theorem Tally.of_fresh {w v : Course} {b f g : Nat} (h : Tally w v b f g)
    (hcounters : w.session.loader.counters = {}) (hwaiting : w.waiting = []) :
    let c := v.session.loader.counters
    c.hits + c.misses = b ∧ c.fetches = c.misses ∧ c.failures = f ∧
      c.fetches = c.failures + (v.waiting.length + g) := by
  obtain ⟨hloads, hfetches, hfailures, hbalance⟩ := h
  simp only [hcounters, hwaiting, List.length_nil, Nat.add_zero, Nat.zero_add]
    at hloads hfetches hfailures hbalance
  exact ⟨hloads, hfetches, hfailures, hbalance.trans (Nat.add_assoc ..)⟩

/-- When a load that waits is taken off, one fewer waits. -/
theorem length_eraseP_of_lookup {waiting : List (Nat × PendingLoad)} {ticket : Nat}
    {p : PendingLoad} (h : waiting.lookup ticket = some p) :
    (waiting.eraseP (·.1 == ticket)).length + 1 = waiting.length := by
  have hmem := mem_of_lookup h
  rw [List.length_eraseP_of_mem hmem (by simp)]
  have := List.length_pos_of_mem hmem
  omega

/-- What one step adds to the balance. -/
theorem tally_next (w : Course) (st : Step) :
    Tally w (w.next st) (begun [st]) (failed [(st, w.seen st)]) (fetched [(st, w.seen st)]) := by
  cases st with
  | start ticket requested =>
    obtain ⟨-, ⟨-, he, hw, -, hc⟩ | ⟨u, -, -, he, hw, -, hc⟩ | ⟨-, -, he, hw, -, hc⟩⟩ :=
      w.start_cases ticket requested <;> rw [he]
    · change Tally w _ 1 0 0
      constructor <;> simp only [hc, hw, Counters.record] <;> omega
    · change Tally w _ 1 0 0
      constructor <;> simp only [hc, hw, Counters.record, List.length_append,
        List.length_singleton] <;> omega
    · change Tally w _ 1 1 0
      constructor <;> simp only [hc, hw, Counters.record] <;> omega
  | finish ticket reply =>
    rcases w.finish_cases ticket reply with
      ⟨-, he, hn⟩ | ⟨p, hp, hw, -, ⟨e, -, he, -, hc⟩ | ⟨c, -, he, -, hc⟩⟩
    · rw [he, hn]
      exact .refl w
    · have hlen := length_eraseP_of_lookup hp
      rw [he]
      change Tally w _ 0 1 0
      constructor <;> simp only [hc, hw, Counters.record] <;> omega
    · have hlen := length_eraseP_of_lookup hp
      rw [he]
      change Tally w _ 0 0 1
      constructor <;> simp only [hc, hw] <;> omega
  | _ => exact ⟨rfl, rfl, rfl, rfl⟩

/-- What a run adds to the balance. -/
theorem tally_run (w : Course) (steps : List Step) :
    Tally w (w.run steps) (begun steps) (failed (w.trace steps)) (fetched (w.trace steps)) := by
  induction steps generalizing w with
  | nil => exact .refl w
  | cons st rest ih =>
    have h := (w.tally_next st).trans (ih (w.next st))
    rwa [← begun_append, ← failed_append, ← fetched_append] at h

/-- What the counters of a session are after any steps, as numbers that its trace and its waiting
loads show. -/
theorem counters_of_run (base : Url) (preferences : Preferences) (fallback : Locale)
    (steps : List Step) :
    let w := begin base preferences fallback
    let after := w.run steps
    let c := after.session.loader.counters
    c.hits + c.misses = begun steps ∧ c.fetches = c.misses ∧
      c.failures = failed (w.trace steps) ∧
      c.fetches = c.failures + (after.waiting.length + fetched (w.trace steps)) :=
  (tally_run _ steps).of_fresh rfl rfl

/-- As long as fewer than `2 ^ 64` loads have begun, 64 bits hold every counter. -/
theorem counters_lt_size (base : Url) (preferences : Preferences) (fallback : Locale)
    (steps : List Step) (hbegun : begun steps < UInt64.size) :
    let c := ((begin base preferences fallback).run steps).session.loader.counters
    c.hits + c.misses < UInt64.size ∧ c.fetches < UInt64.size ∧ c.failures < UInt64.size := by
  intro c
  obtain ⟨hloads, hfetches, -, hbalance⟩ := counters_of_run base preferences fallback steps
  have hmisses : c.fetches ≤ c.hits + c.misses := hfetches ▸ Nat.le_add_left ..
  have hfailures : c.failures ≤ c.fetches := hbalance ▸ Nat.le_add_right ..
  have hsize : c.hits + c.misses < UInt64.size := hloads ▸ hbegun
  have hfetched : c.fetches < UInt64.size := Nat.lt_of_le_of_lt hmisses hsize
  exact ⟨hsize, hfetched, Nat.lt_of_le_of_lt hfailures hfetched⟩

/-- The counters of a session at any point between steps. Hits and misses make up the loads that
have begun, there is a fetch for each miss, and a failure for each error returned; the fetches that
have not failed are those of loads that wait and those that brought a catalog. So failures never
outnumber fetches, and the rate of success in a report is taken of the true difference. As long as
fewer than `2 ^ 64` loads have begun, 64 bits hold every counter. Activations, fetches past the
loader and the other steps outside of loads move no counter. -/
theorem counters_balance (base : Url) (preferences : Preferences) (fallback : Locale)
    (steps : List Step) :
    let w := begin base preferences fallback
    let after := w.run steps
    let c := after.session.loader.counters
    let unfailed := after.waiting.length + fetched (w.trace steps)
    c.hits + c.misses = begun steps ∧
    c.fetches = c.misses ∧
    c.failures = failed (w.trace steps) ∧
    c.failures ≤ c.fetches ∧
    c.fetches - c.failures = unfailed ∧
    c.report.fetchSuccessRate = Binary64.percentage unfailed c.fetches ∧
    (begun steps < UInt64.size →
      c.hits + c.misses < UInt64.size ∧ c.fetches < UInt64.size ∧ c.failures < UInt64.size) ∧
    (∀ st : Step, st.ticket? = none → (after.next st).session.loader.counters = c) := by
  intro w after c unfailed
  obtain ⟨hloads, hfetches, hfailures, hbalance⟩ :
      c.hits + c.misses = begun steps ∧ c.fetches = c.misses ∧
        c.failures = failed (w.trace steps) ∧ c.fetches = c.failures + unfailed :=
    counters_of_run base preferences fallback steps
  have hle : c.failures ≤ c.fetches := by omega
  have hrate : c.fetches - c.failures = unfailed := by omega
  refine ⟨hloads, hfetches, hfailures, hle, hrate, ?_,
    counters_lt_size base preferences fallback steps,
    fun st hst => after.counters_of_ticket?_eq_none hst⟩
  rw [Counters.report, hrate]

end Phrasebook.Course
