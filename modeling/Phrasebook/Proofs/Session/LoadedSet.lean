import Phrasebook.Proofs.Session.Course

/-!
# The set of loaded locales

A code is in the set exactly if a load that meant it has returned well, or the loader was told to
make its locale active. The set only grows and stays in order of code. Whether a load asks for a
catalog is decided by the set alone: never for a code in it, and once for any other, unless the
base URL takes no path segments.
-/

namespace Phrasebook

/-- Names can be appended to the path of a URL: it has segments, and something before them. -/
def Url.TakesSegments (u : Url) : Prop :=
  u.cannotBeBase = false ∧ ∃ names, u.path = .segments names

/-- A locale has a catalog URL under exactly the bases that take segments. -/
theorem exists_catalogUrl?_iff (base : Url) (l : Locale) :
    (∃ u, catalogUrl? base l = some u) ↔ base.TakesSegments := by
  unfold catalogUrl? Url.append? Url.TakesSegments
  cases hpath : base.path with
  | segments names => cases base.cannotBeBase <;> simp
  | opaqueText text => simp

namespace Course

/-- A load began under a ticket in the course of some steps, and meant a locale. -/
def Began (w : Course) (steps : List Step) (ticket : Nat) (l : Locale) : Prop :=
  ∃ front requested back, steps = front ++ .start ticket requested :: back ∧
    (w.run front).session.loader.resolve requested = l

/-- A load that begins first began, and means what it is resolved to at that point. -/
theorem began_cons_self (w : Course) (ticket : Nat) (requested : Option String)
    (rest : List Step) :
    w.Began (.start ticket requested :: rest) ticket (w.session.loader.resolve requested) :=
  ⟨[], requested, rest, rfl, rfl⟩

/-- A load that began behind the first step began. -/
theorem Began.cons {w : Course} {st : Step} {steps : List Step} {ticket : Nat} {l : Locale}
    (h : (w.next st).Began steps ticket l) : w.Began (st :: steps) ticket l := by
  obtain ⟨front, requested, back, rfl, hl⟩ := h
  exact ⟨st :: front, requested, back, rfl, hl⟩

/-- A load that waits behind a step waited before it or began with it. -/
theorem mem_waiting_next {w : Course} {st : Step} {ticket : Nat} {p : PendingLoad}
    (h : (ticket, p) ∈ (w.next st).waiting) :
    (ticket, p) ∈ w.waiting ∨
      ∃ requested, st = .start ticket requested ∧
        p.locale = w.session.loader.resolve requested := by
  cases st with
  | start t requested =>
    obtain ⟨-, ⟨-, -, hw, -⟩ | ⟨u, -, -, -, hw, -⟩ | ⟨-, -, -, hw, -⟩⟩ :=
      w.start_cases t requested
    · exact .inl (hw ▸ h)
    · rw [hw, List.mem_append, List.mem_singleton] at h
      rcases h with h | h
      · exact .inl h
      · cases h
        exact .inr ⟨requested, rfl, rfl⟩
    · exact .inl (hw ▸ h)
  | finish t reply =>
    rcases w.finish_cases t reply with ⟨-, -, hn⟩ | ⟨_, -, hw, -⟩
    · exact .inl (hn ▸ h)
    · rw [hw] at h
      exact .inl (List.mem_of_mem_eraseP h)
  | _ => exact .inl h

/-- A load that returns at a step has its ticket, and waited before it or began with it. -/
theorem locale_of_returned {w : Course} {st : Step} {ticket : Nat} {l : Locale}
    (h : w.seen st = .returned ticket (.ok l)) :
    st.ticket? = some ticket ∧
      ((∃ p, (ticket, p) ∈ w.waiting ∧ p.locale = l) ∨
        ∃ requested, st = .start ticket requested ∧
          w.session.loader.resolve requested = l) := by
  cases st with
  | start t requested =>
    obtain ⟨-, ⟨-, he, -⟩ | ⟨u, -, -, he, -⟩ | ⟨-, -, he, -⟩⟩ := w.start_cases t requested
    · rw [he] at h
      cases h
      exact ⟨rfl, .inr ⟨requested, rfl, rfl⟩⟩
    · rw [he] at h
      cases h
    · rw [he] at h
      cases h
  | finish t reply =>
    rcases w.finish_cases t reply with
      ⟨-, he, -⟩ | ⟨p, hp, -, -, ⟨e, -, he, -⟩ | ⟨c, -, he, -⟩⟩
    · rw [he] at h
      cases h
    · rw [he] at h
      cases h
    · rw [he] at h
      cases h
      exact ⟨rfl, .inl ⟨p, mem_of_lookup hp, rfl⟩⟩
  | _ => cases h

/-- A load that returns well with a locale meant that locale when it began. -/
theorem began_of_mem_returns {w : Course} {steps : List Step} {ticket : Nat} {l : Locale}
    (h : (ticket, .ok l) ∈ returns (w.trace steps)) :
    (∃ p, (ticket, p) ∈ w.waiting ∧ p.locale = l) ∨ w.Began steps ticket l := by
  obtain ⟨st, h⟩ := mem_returns.mp h
  induction steps generalizing w with
  | nil => cases h
  | cons first rest ih =>
    rw [trace_cons, List.mem_cons, Prod.mk.injEq] at h
    rcases h with ⟨-, h⟩ | h
    · rcases (locale_of_returned h.symm).2 with hp | ⟨requested, rfl, rfl⟩
      · exact .inl hp
      · exact .inr (w.began_cons_self ticket requested rest)
    · rcases ih (mem_returns.mpr ⟨st, h⟩) h with ⟨p, hp, rfl⟩ | hbegan
      · rcases mem_waiting_next hp with hp | ⟨requested, rfl, hl⟩
        · exact .inl ⟨p, hp, rfl⟩
        · exact .inr (hl ▸ w.began_cons_self ticket requested rest)
      · exact .inr hbegan.cons

/-- One step adds the locale that it makes active, and nothing else. -/
theorem mem_loaded_next (w : Course) (st : Step) (code : String) :
    code ∈ (w.next st).session.loader.loaded ↔
      code ∈ w.session.loader.loaded ∨ ∃ c, activation? (st, w.seen st) = some (⟨code⟩, c) := by
  rw [loaded_next, standingAfter]
  cases activation? (st, w.seen st) with
  | some a =>
    obtain ⟨⟨m⟩, c⟩ := a
    simp [Standing.activate, Session.standing, or_comm, eq_comm]
  | none => cases st <;> simp [Session.standing]

/-- The codes that are loaded behind some steps are those loaded before and those of the locales
made active on the way. -/
theorem mem_loaded_run (w : Course) (steps : List Step) (code : String) :
    code ∈ (w.run steps).session.loader.loaded ↔
      code ∈ w.session.loader.loaded ∨ ∃ c, (⟨code⟩, c) ∈ activations (w.trace steps) := by
  induction steps generalizing w with
  | nil => simp [activations]
  | cons st rest ih =>
    rw [run_cons, ih, mem_loaded_next, trace_cons]
    simp only [activations_cons, List.mem_append, Option.mem_toList, exists_or, or_assoc]

/-- One step keeps the codes in order. -/
theorem ordered_loaded_next {w : Course} (st : Step)
    (h : KeySet.Ordered w.session.loader.loaded) :
    KeySet.Ordered (w.next st).session.loader.loaded := by
  rw [loaded_next, standingAfter]
  split
  · exact h.insert _
  · split <;> exact h

/-- The loaded codes stay in order, whatever steps are taken. -/
theorem ordered_loaded_run {w : Course} (steps : List Step)
    (h : KeySet.Ordered w.session.loader.loaded) :
    KeySet.Ordered (w.run steps).session.loader.loaded := by
  induction steps generalizing w with
  | nil => exact h
  | cons st rest ih => exact ih (ordered_loaded_next st h)

/-- A load of a code in the set is over when it begins: nothing is asked for, and nothing waits. -/
theorem start_of_mem_loaded {w : Course} {requested : Option String} (ticket : Nat)
    (h : (w.session.loader.resolve requested).code ∈ w.session.loader.loaded) :
    let st := Step.start ticket requested
    w.seen st = .returned ticket (.ok (w.session.loader.resolve requested)) ∧
      (w.next st).session.history = w.session.history ∧ (w.next st).waiting = w.waiting := by
  have hl := Loader.isLoaded_iff.mpr h
  intro st
  obtain ⟨hh, ⟨-, he, hw, -⟩ | ⟨_, hn, -⟩ | ⟨hn, -⟩⟩ := w.start_cases ticket requested
  · exact ⟨he, hh, hw⟩
  · simp [hl] at hn
  · simp [hl] at hn

/-- A load of any other code asks for its catalog when it begins, and waits. -/
theorem start_of_not_mem_loaded {w : Course} {requested : Option String} (ticket : Nat)
    (h : (w.session.loader.resolve requested).code ∉ w.session.loader.loaded)
    (hbase : w.session.loader.base.TakesSegments) :
    let st := Step.start ticket requested
    ∃ u, catalogUrl? w.session.loader.base (w.session.loader.resolve requested) = some u ∧
      w.seen st = .asked ticket ⟨w.session.loader.resolve requested, u⟩ ∧
      (w.next st).waiting =
        w.waiting ++ [(ticket, ⟨w.session.loader.resolve requested, u⟩)] := by
  intro st
  obtain ⟨u, hu⟩ := (exists_catalogUrl?_iff _ _).mpr hbase
  obtain ⟨-, ⟨hl, -⟩ | ⟨v, -, hv, he, hw, -⟩ | ⟨-, hn, -⟩⟩ := w.start_cases ticket requested
  · exact absurd (Loader.isLoaded_iff.mp hl) h
  · exact ⟨v, hv, he, hw⟩
  · rw [hu] at hn
    cases hn

/-- Only the beginning of a load of a code outside the set asks for a catalog. -/
theorem start_of_asked {w : Course} {st : Step} {ticket : Nat} {p : PendingLoad}
    (h : w.seen st = .asked ticket p) :
    ∃ requested, st = .start ticket requested ∧
      (w.session.loader.resolve requested).code ∉ w.session.loader.loaded := by
  cases st with
  | start t requested =>
    obtain ⟨-, ⟨-, he, -⟩ | ⟨u, hl, -, he, -⟩ | ⟨-, -, he, -⟩⟩ := w.start_cases t requested
    · rw [he] at h
      cases h
    · rw [he] at h
      cases h
      exact ⟨requested, rfl, fun hmem => by simp [Loader.isLoaded_iff.mpr hmem] at hl⟩
    · rw [he] at h
      cases h
  | finish t reply =>
    rcases w.finish_cases t reply with
      ⟨-, he, -⟩ | ⟨p, hp, -, -, ⟨e, -, he, -⟩ | ⟨c, -, he, -⟩⟩ <;> rw [he] at h <;> cases h
  | _ => cases h

/-- The law of the loaded set, at every point of every session. A code is in the set exactly if a
load that meant it has returned well, or its locale was made active through the loader; the set
never loses a code; it is in strict order; a load of a code in it returns well without asking for
anything; and a load of any other code asks for its catalog once, when it begins, unless the base
URL takes no segments. -/
theorem loaded_set_law (base : Url) (preferences : Preferences) (fallback : Locale)
    (steps : List Step) :
    let w := begin base preferences fallback
    let after := w.run steps
    let loader := after.session.loader
    (∀ code, code ∈ loader.loaded ↔
      (∃ ticket, w.Began steps ticket ⟨code⟩ ∧
        (ticket, .ok ⟨code⟩) ∈ returns (w.trace steps)) ∨
      ∃ c, Step.activate ⟨code⟩ c ∈ steps) ∧
    (∀ more, loader.loaded ⊆ (after.run more).session.loader.loaded) ∧
    loader.loaded.Pairwise (· < ·) ∧
    (∀ ticket requested, (loader.resolve requested).code ∈ loader.loaded →
      let st := Step.start ticket requested
      after.seen st = .returned ticket (.ok (loader.resolve requested)) ∧
        (after.next st).session.history = after.session.history ∧
        (after.next st).waiting = after.waiting) ∧
    (∀ ticket requested, (loader.resolve requested).code ∉ loader.loaded →
      base.TakesSegments →
      let st := Step.start ticket requested
      ∃ u, catalogUrl? base (loader.resolve requested) = some u ∧
        after.seen st = .asked ticket ⟨loader.resolve requested, u⟩ ∧
        (after.next st).waiting =
          after.waiting ++ [(ticket, ⟨loader.resolve requested, u⟩)]) ∧
    (∀ st ticket p, after.seen st = .asked ticket p →
      ∃ requested, st = .start ticket requested ∧
        (loader.resolve requested).code ∉ loader.loaded) := by
  intro w after loader
  have hbase : loader.base = base := w.base_run steps
  refine ⟨fun code => ?_, fun more code hmem => ?_, ?_, fun ticket requested h => ?_,
    fun ticket requested h hsegments => ?_, fun st ticket p h => start_of_asked h⟩
  · rw [mem_loaded_run, exists_mem_activations_iff]
    constructor
    -- At the beginning nothing is loaded and nothing waits, so what returns began on the way.
    · rintro (h | ⟨ticket, h⟩ | h)
      · cases h
      · rcases began_of_mem_returns h with ⟨p, hp, -⟩ | hbegan
        · cases hp
        · exact .inl ⟨ticket, hbegan, h⟩
      · exact .inr h
    · rintro (⟨ticket, -, h⟩ | h)
      · exact .inr (.inl ⟨ticket, h⟩)
      · exact .inr (.inr h)
  · exact (mem_loaded_run after more code).mpr (.inl hmem)
  · exact ordered_loaded_run steps .nil
  · exact start_of_mem_loaded ticket h
  · have hstart := start_of_not_mem_loaded ticket h (hbase.symm ▸ hsegments)
    rwa [hbase] at hstart

end Course

end Phrasebook
