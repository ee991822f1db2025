import Phrasebook.Proofs.Session.Overlap

/-!
# What the loader registers

As long as only the loader drives the translator, the translator's state can be read off what the
loader made active: each locale has the last catalog that came along with it and was not empty, and
the locale that was made active last is active. Of the calls that the loader makes, each
registration is directly followed by the activation of its locale.
-/

namespace Phrasebook

namespace Course

/-- The catalog that an activation registers for a locale: one that is not empty, if the locale is
the one that is made active. -/
def registers? (l : Locale) (a : Locale × Option Catalog) : Option Catalog :=
  if a.1 = l then a.2.filter fun c => !c.isEmpty else none

/-- A catalog is registered for a locale exactly if it comes along when this locale is made active
and is not empty. -/
theorem registers?_eq_some_iff {l : Locale} {a : Locale × Option Catalog} {c : Catalog} :
    registers? l a = some c ↔ a = (l, some c) ∧ c.isEmpty = false := by
  obtain ⟨m, d⟩ := a
  simp only [registers?, Option.ite_none_right_eq_some, Option.filter_eq_some_iff,
    Bool.not_eq_true', Prod.mk.injEq, and_assoc]

/-- The calls of an activation. -/
def callsOf (a : Locale × Option Catalog) : List EngineCall := Loader.activationCalls a.1 a.2

end Course

/-- A locale has the catalog that an activation registers for it, or else the former one. -/
theorem Standing.catalog?_activate (σ : Standing) (l m : Locale) (c : Option Catalog) :
    (σ.activate l c).translator.catalog? m =
      (Course.registers? m (l, c)).or (σ.translator.catalog? m) := by
  by_cases hm : m = l
  · subst hm
    cases c with
    | none => simp [Course.registers?, activate, Loader.activationCalls, Translator.apply,
        Translator.setActive, Translator.catalog?]
    | some c =>
      rw [catalog?_activate_self, Course.registers?, if_pos rfl]
      cases hc : c.isEmpty <;> simp [Option.filter, hc]
  · rw [σ.catalog?_activate_of_ne c hm, Course.registers?, if_neg (Ne.symm hm), Option.none_or]

namespace Course

/-- A step that is no call of the translator registers what its activation registers. -/
theorem catalog?_next (w : Course) {st : Step} (h : ∀ call, st ≠ .engine call) (l : Locale) :
    (w.next st).session.translator.catalog? l =
      ((activation? (st, w.seen st)).bind (registers? l)).or
        (w.session.translator.catalog? l) := by
  rw [translator_next, standingAfter]
  cases activation? (st, w.seen st) with
  | some a => exact Standing.catalog?_activate _ _ _ _
  | none =>
    cases st with
    | engine call => exact absurd rfl (h call)
    | _ => rfl

/-- Behind some steps without calls of the translator, a locale has the last catalog that was
registered for it on the way, or else the former one. -/
theorem catalog?_run (w : Course) {steps : List Step}
    (h : ∀ st ∈ steps, ∀ call, st ≠ .engine call) (l : Locale) :
    (w.run steps).session.translator.catalog? l =
      (((activations (w.trace steps)).filterMap (registers? l)).getLast?).or
        (w.session.translator.catalog? l) := by
  induction steps generalizing w with
  | nil => rfl
  | cons st rest ih =>
    rw [List.forall_mem_cons] at h
    have hfirst := w.catalog?_next h.1 l
    have hrest := ih (w.next st) h.2
    rw [run_cons, hrest, hfirst, trace_cons, activations_cons, List.filterMap_append,
      List.getLast?_append, ← Option.or_assoc]
    congr 1
    cases activation? (st, w.seen st) with
    | none => simp
    | some a => cases registers? l a <;> simp

/-- A step makes the calls of its activation, and no others. -/
theorem calls_next (w : Course) (st : Step) :
    (w.next st).session.calls =
      w.session.calls ++ (activation? (st, w.seen st)).toList.flatMap callsOf := by
  have hcalls := congrArg Standing.calls (w.standing_next st)
  change (w.next st).session.calls = _ at hcalls
  rw [hcalls, standingAfter]
  cases activation? (st, w.seen st) with
  | some a => simp [Standing.activate, Session.standing, callsOf]
  | none => cases st <;> simp [Session.standing]

/-- The loader's calls are those of its activations, in order. -/
theorem calls_run (w : Course) (steps : List Step) :
    (w.run steps).session.calls =
      w.session.calls ++ (activations (w.trace steps)).flatMap callsOf := by
  induction steps generalizing w with
  | nil => simp [activations]
  | cons st rest ih =>
    rw [run_cons, ih, calls_next, trace_cons, activations_cons, List.flatMap_append,
      List.append_assoc]

end Course

/-- Each registration is directly followed by the activation of its locale. -/
def EngineCall.Paired (calls : List EngineCall) : Prop :=
  ∀ i l c, calls[i]? = some (.register l c) → calls[i + 1]? = some (.setActive l)

namespace EngineCall

/-- Calls that are paired stay so when more calls of this kind come behind them. -/
theorem Paired.append {front back : List EngineCall} (hfront : Paired front)
    (hback : Paired back) : Paired (front ++ back) := by
  intro i l c h
  by_cases hi : i < front.length
  · rw [List.getElem?_append_left hi] at h
    have hnext := hfront i l c h
    obtain ⟨hlt, -⟩ := List.getElem?_eq_some_iff.mp hnext
    rwa [List.getElem?_append_left hlt]
  · rw [List.getElem?_append_right (by omega)] at h
    have hnext := hback _ l c h
    rw [List.getElem?_append_right (by omega)]
    have hshift : i + 1 - front.length = i - front.length + 1 := by omega
    rwa [hshift]

/-- The calls of one activation are paired. -/
theorem paired_activationCalls (l : Locale) (c : Option Catalog) :
    Paired (Loader.activationCalls l c) := by
  intro i m d h
  unfold Loader.activationCalls at h ⊢
  split at h
  · split at h
    · cases i <;> simp at h
    · rename_i hc
      -- Of the two calls only the first one registers, and the second one is its pair.
      match i with
      | 0 =>
        simp only [List.getElem?_cons_zero, Option.some.injEq, register.injEq] at h
        simp [hc, h.1]
      | 1 => simp at h
      | i + 2 => simp at h
  · cases i <;> simp at h

/-- Calls of activations stay paired when they follow one another. -/
theorem paired_flatMap_callsOf (activations : List (Locale × Option Catalog)) :
    Paired (activations.flatMap Course.callsOf) := by
  induction activations with
  | nil =>
    intro i l c h
    simp at h
  | cons a rest ih =>
    rw [List.flatMap_cons]
    exact (paired_activationCalls a.1 a.2).append ih

end EngineCall

namespace Course

/-- Where only the loader drives the translator, its state follows what the loader made active, at
every point of every session. A locale with a catalog is loaded; its catalog is the last one that
came with a load or activation of the locale and was not empty. The locale of the last load or
activation that went well is active and loaded, and before the first one the fallback is active. In
the calls to the translator, each registration is directly followed by the activation of its
locale, and a load that has fetched a catalog makes these two calls, or only the second one for an
empty catalog. -/
theorem registrations_follow_activations (base : Url) (preferences : Preferences)
    (fallback : Locale) (steps : List Step) (h : ∀ st ∈ steps, ∀ call, st ≠ .engine call) :
    let w := begin base preferences fallback
    let after := w.run steps
    let made := activations (w.trace steps)
    let translator := after.session.translator
    let loaded := after.session.loader.loaded
    (∀ l c, translator.catalog? l = some c → l.code ∈ loaded ∧ c.isEmpty = false) ∧
    (∀ l, translator.catalog? l = (made.filterMap (registers? l)).getLast?) ∧
    (made = [] → translator.active = fallback) ∧
    (∀ l c, made.getLast? = some (l, c) → translator.active = l ∧ l.code ∈ loaded) ∧
    (∀ i l c, after.session.calls[i]? = some (.register l c) →
      after.session.calls[i + 1]? = some (.setActive l)) ∧
    (∀ ticket reply l c, after.seen (.finish ticket reply) = .returned ticket (.ok l) →
      reply.answer = .ok c →
        (after.next (.finish ticket reply)).session.calls = after.session.calls ++
          if c.isEmpty then [.setActive l] else [.register l c, .setActive l]) := by
  intro w after made translator loaded
  have hcatalog (l : Locale) :
      translator.catalog? l = (made.filterMap (registers? l)).getLast? := by
    have hrun := w.catalog?_run h l
    have hnone : w.session.translator.catalog? l = none := rfl
    rwa [hnone, Option.or_none] at hrun
  have hactive : translator.active = ((made.getLast?).map Prod.fst).getD fallback :=
    w.active_run h
  have hloaded {l : Locale} {c : Option Catalog} (hmem : (l, c) ∈ made) : l.code ∈ loaded :=
    (w.mem_loaded_run steps l.code).mpr (.inr ⟨c, hmem⟩)
  have hcalls : after.session.calls = made.flatMap callsOf := w.calls_run steps
  -- Every part is read off the activations `made`, of which the calls are made up, too.
  refine ⟨fun l c hc => ?_, hcatalog, fun hmade => ?_, fun l c hlast => ?_, ?_, ?_⟩
  · rw [hcatalog] at hc
    obtain ⟨a, ha, hregisters⟩ := List.mem_filterMap.mp (List.mem_of_getLast? hc)
    obtain ⟨rfl, hempty⟩ := registers?_eq_some_iff.mp hregisters
    exact ⟨hloaded ha, hempty⟩
  · rw [hactive, hmade]
    rfl
  · refine ⟨?_, hloaded (List.mem_of_getLast? hlast)⟩
    rw [hactive, hlast]
    rfl
  · rw [hcalls]
    exact EngineCall.paired_flatMap_callsOf made
  · intro ticket reply l c hseen hanswer
    rw [calls_next, hseen, activation?, hanswer]
    simp [callsOf, Loader.activationCalls, Except.toOption]

/-- Two loads of French overlap, of which the first one gets a catalog and the second one an empty
one; then German is made active without a catalog. French keeps its catalog, and both are loaded. -/
theorem registrations_follow_activations_french :
    let steps : List Step := [.start 0 (some "fr"), .start 1 (some "fr"),
      .finish 1 ⟨.ok greeting, []⟩, .finish 0 ⟨.ok Catalog.empty, []⟩, .activate ⟨"de"⟩ none]
    let after := (begin englishSession.loader.base {} Locale.fallback).run steps
    after.session.translator.catalog? ⟨"fr"⟩ = some greeting ∧
      "fr" ∈ after.session.loader.loaded ∧ after.session.translator.active = ⟨"de"⟩ ∧
      after.session.calls[1]? = some (.setActive ⟨"fr"⟩) := by
  intro steps after
  have hsteps : ∀ st ∈ steps, ∀ call, st ≠ .engine call := by simp [steps]
  obtain ⟨hregistered, hcatalog, -, hactive, hpaired, -⟩ :=
    registrations_follow_activations englishSession.loader.base {} Locale.fallback steps hsteps
  have hgreeting : after.session.translator.catalog? ⟨"fr"⟩ = some greeting := hcatalog ⟨"fr"⟩
  refine ⟨hgreeting, (hregistered _ _ hgreeting).1, (hactive ⟨"de"⟩ none rfl).1, ?_⟩
  exact hpaired 0 ⟨"fr"⟩ greeting rfl

end Course

end Phrasebook
