import Phrasebook.Proofs.Session.Joined
import Phrasebook.Proofs.Session.LoadedSet
import Phrasebook.Proofs.Updates

/-!
# The active locale

What the loader made active last is active, as long as nobody else drives the translator. Among
joined loads, those of loaded locales make them active at once and in order, and the others when
their answers come. So an answer has the last word over every load that needed none, wherever the
two stand in the list.
-/

namespace Phrasebook

/-- The locale that is made active is active then. -/
theorem Standing.active_activate (σ : Standing) (l : Locale) (c : Option Catalog) :
    (σ.activate l c).translator.active = l := by
  unfold activate Loader.activationCalls
  cases c with
  | none => rfl
  | some c => cases hc : c.isEmpty <;> simp [hc, Translator.apply, Translator.setActive]

namespace Course

/-- A step that is no call of the translator leaves the locale active that it makes active, or
else the one that was. -/
theorem active_next (w : Course) {st : Step} (h : ∀ call, st ≠ .engine call) :
    (w.next st).session.translator.active =
      ((activation? (st, w.seen st)).map Prod.fst).getD w.session.translator.active := by
  rw [translator_next, standingAfter]
  cases activation? (st, w.seen st) with
  | some a => exact Standing.active_activate _ _ _
  | none =>
    cases st with
    | engine call => exact absurd rfl (h call)
    | _ => rfl

/-- Behind some steps without calls of the translator, the locale is active that was made so
last. -/
theorem active_run (w : Course) {steps : List Step}
    (h : ∀ st ∈ steps, ∀ call, st ≠ .engine call) :
    (w.run steps).session.translator.active =
      (((activations (w.trace steps)).getLast?).map Prod.fst).getD
        w.session.translator.active := by
  induction steps generalizing w with
  | nil => rfl
  | cons st rest ih =>
    rw [List.forall_mem_cons] at h
    rw [run_cons, ih _ h.2, w.active_next h.1, trace_cons, activations_cons, List.getLast?_append]
    cases (activations ((w.next st).trace rest)).getLast? <;>
      cases activation? (st, w.seen st) <;> rfl

/-- The steps that bring some answers, each to the load under its ticket. -/
def arrivals (replies : List (Nat × Reply)) : List Step :=
  replies.map fun q => .finish q.1 q.2

/-- What a load makes active at once: its locale, if that is loaded. -/
def hit? (w : Course) (requested : Option String) : Option (Locale × Option Catalog) :=
  if w.session.loader.isLoaded (w.session.loader.resolve requested) then
    some (w.session.loader.resolve requested, none)
  else none

/-- Two courses prefer the same and have the same codes loaded, so loads begin alike in them. -/
structure Alike (w v : Course) : Prop where
  preferences : v.session.loader.preferences = w.session.loader.preferences
  loaded : ∀ code, code ∈ v.session.loader.loaded ↔ code ∈ w.session.loader.loaded

/-- A load makes the same active at once in courses that are alike. -/
theorem Alike.hit? {w v : Course} (h : Alike w v) (requested : Option String) :
    v.hit? requested = w.hit? requested := by
  have hloaded (l : Locale) : v.session.loader.isLoaded l = w.session.loader.isLoaded l := by
    rw [Bool.eq_iff_iff, Loader.isLoaded_iff, Loader.isLoaded_iff, h.loaded]
  simp only [Course.hit?, Loader.resolve_congr h.preferences, hloaded]

/-- Courses stay alike if one of them comes to stand at the same. -/
theorem Alike.of_standing {w v v' : Course} (h : Alike w v)
    (hs : v'.session.standing = v.session.standing) : Alike w v' where
  preferences := (congrArg Standing.preferences hs).trans h.preferences
  loaded code := by
    rw [← h.loaded]
    exact iff_of_eq (congrArg (code ∈ ·.loaded) hs)

/-- The beginning of a load adds no code to the loaded ones: it makes only loaded locales
active. -/
theorem Alike.start {w v : Course} (h : Alike w v) (ticket : Nat) (requested : Option String) :
    Alike w (v.next (.start ticket requested)) := by
  obtain ⟨-, ⟨hl, -, -, hs, -⟩ | ⟨u, -, -, -, -, hs, -⟩ | ⟨-, -, -, -, hs, -⟩⟩ :=
    v.start_cases ticket requested
  · refine ⟨(congrArg Standing.preferences hs).trans h.preferences, fun code => ?_⟩
    have hloaded := congrArg Standing.loaded hs
    change (v.next (.start ticket requested)).session.loader.loaded =
      KeySet.insert _ v.session.loader.loaded at hloaded
    have hmem := Loader.isLoaded_iff.mp hl
    rw [hloaded, KeySet.mem_insert, ← h.loaded]
    exact or_iff_right_of_imp fun hcode => hcode ▸ hmem
  · exact h.of_standing hs
  · exact h.of_standing hs

/-- What the beginning of a load makes active is what it hits. -/
theorem activation?_start (w : Course) (ticket : Nat) (requested : Option String) :
    activation? (.start ticket requested, w.seen (.start ticket requested)) =
      w.hit? requested := by
  rw [seen_start, Course.hit?]
  split
  · rfl
  · split <;> rfl

/-- A load has returned well when it begins exactly if its locale is loaded. -/
theorem seen_start_eq_ok_iff (w : Course) (ticket : Nat) (requested : Option String)
    (t : Nat) (l : Locale) :
    w.seen (.start ticket requested) = .returned t (.ok l) ↔
      t = ticket ∧ w.hit? requested = some (l, none) := by
  rw [seen_start, Course.hit?]
  split
  · simp [eq_comm]
  · split <;> simp

/-- Joined loads make the loaded ones among their locales active when they begin, in order. -/
theorem activations_starts {w v : Course} (h : Alike w v) (n : Nat)
    (requests : List (Option String)) :
    activations (v.trace (starts n requests)) = requests.filterMap w.hit? := by
  induction requests generalizing v n with
  | nil => rfl
  | cons requested rest ih =>
    rw [starts, trace_cons, activations_cons, activation?_start, h.hit?, ih (h.start n requested),
      List.filterMap_cons]
    cases w.hit? requested <;> rfl

/-- The results that joined loads show when they begin. -/
theorem mem_returns_starts {w v : Course} (h : Alike w v) (n : Nat)
    (requests : List (Option String)) (t : Nat) (l : Locale) :
    (t, .ok l) ∈ returns (v.trace (starts n requests)) ↔
      ∃ i requested, t = n + i ∧ requests[i]? = some requested ∧
        w.hit? requested = some (l, none) := by
  induction requests generalizing v n with
  | nil => simp [starts]
  | cons requested rest ih =>
    have hfirst := v.seen_start_eq_ok_iff n requested t l
    have hrest := ih (h.start n requested) (n + 1)
    rw [mem_returns] at hrest ⊢
    simp only [starts, trace_cons, List.mem_cons, Prod.mk.injEq, exists_or, hrest]
    rw [h.hit?] at hfirst
    constructor
    · rintro (⟨st, rfl, he⟩ | ⟨i, r, rfl, hi, hr⟩)
      · obtain ⟨rfl, hhit⟩ := hfirst.mp he.symm
        exact ⟨0, requested, rfl, rfl, hhit⟩
      · exact ⟨i + 1, r, by omega, by simpa using hi, hr⟩
    · rintro ⟨i, r, rfl, hi, hr⟩
      cases i with
      | zero =>
        simp only [List.getElem?_cons_zero, Option.some.injEq] at hi
        subst hi
        exact .inl ⟨_, rfl, (hfirst.mpr ⟨rfl, hr⟩).symm⟩
      | succ i => exact .inr ⟨i, r, by omega, by simpa using hi, hr⟩

/-- A load that waits after joined loads have begun waited before, or means a locale that is not
loaded. -/
theorem mem_waiting_starts {w v : Course} (h : Alike w v) (n : Nat)
    (requests : List (Option String)) {q : Nat × PendingLoad}
    (hq : q ∈ (v.run (starts n requests)).waiting) :
    q ∈ v.waiting ∨ q.2.locale.code ∉ w.session.loader.loaded := by
  induction requests generalizing v n with
  | nil => exact .inl hq
  | cons requested rest ih =>
    rcases ih (h.start n requested) (n + 1) hq with hq | hq
    · obtain ⟨-, ⟨-, -, hw, -⟩ | ⟨u, hl, -, -, hw, -⟩ | ⟨-, -, -, hw, -⟩⟩ :=
        v.start_cases n requested
      · exact .inl (hw ▸ hq)
      · rw [hw, List.mem_append, List.mem_singleton] at hq
        rcases hq with hq | rfl
        · exact .inl hq
        · refine .inr fun hmem => ?_
          rw [← h.loaded, ← Loader.isLoaded_iff, hl] at hmem
          cases hmem
      · exact .inl (hw ▸ hq)
    · exact .inr hq

/-- Where all loads that wait under some tickets mean locales that are not loaded, so do the loads
that answers under such tickets end well. -/
theorem not_mem_of_returns_arrivals {w : Course} {codes : List String} {n : Nat}
    {replies : List (Nat × Reply)}
    (hwaiting : ∀ q ∈ w.waiting, n ≤ q.1 → q.2.locale.code ∉ codes)
    (hreplies : ∀ a ∈ replies, n ≤ a.1) {t : Nat} {l : Locale}
    (h : (t, .ok l) ∈ returns (w.trace (arrivals replies))) : l.code ∉ codes := by
  induction replies generalizing w with
  | nil => cases h
  | cons a rest ih =>
    rw [List.forall_mem_cons] at hreplies
    have hsteps : arrivals (a :: rest) = .finish a.1 a.2 :: arrivals rest := rfl
    rw [hsteps, trace_cons, mem_returns] at h
    obtain ⟨st, h⟩ := h
    rw [List.mem_cons, Prod.mk.injEq] at h
    rcases h with ⟨-, he⟩ | h
    · obtain ⟨hticket, ⟨p, hp, rfl⟩ | ⟨_, hst, -⟩⟩ := locale_of_returned he.symm
      · cases hticket
        exact hwaiting _ hp hreplies.1
      · cases hst
    · refine ih (fun q hq hn => ?_) hreplies.2 (mem_returns.mpr ⟨st, h⟩)
      rcases mem_waiting_next hq with hq | ⟨_, hst, -⟩
      · exact hwaiting q hq hn
      · cases hst

/-- The steps of joined loads, and the answers that come behind them in some order. -/
def joined (n : Nat) (requests : List (Option String)) (replies : List (Nat × Reply)) :
    List Step :=
  starts n requests ++ arrivals replies

/-- Only loads take part in joined loads. -/
theorem ticket?_of_mem_joined {n : Nat} {requests : List (Option String)}
    {replies : List (Nat × Reply)} {st : Step} (h : st ∈ joined n requests replies) :
    st.ticket? ≠ none := by
  rw [joined, List.mem_append, arrivals, List.mem_map] at h
  rcases h with h | ⟨a, -, rfl⟩
  · induction requests generalizing n with
    | nil => cases h
    | cons requested rest ih =>
      rcases List.mem_cons.mp h with rfl | h
      · simp [Step.ticket?]
      · exact ih h
  · simp [Step.ticket?]

/-- A load hits its locale exactly if that is loaded. -/
theorem hit?_eq_some_iff {w : Course} {requested : Option String} {l : Locale} :
    w.hit? requested = some (l, none) ↔
      w.session.loader.resolve requested = l ∧ l.code ∈ w.session.loader.loaded := by
  simp only [hit?, Loader.isLoaded_iff]
  constructor
  · intro h
    split at h
    · cases h
      exact ⟨rfl, ‹_›⟩
    · cases h
  · rintro ⟨rfl, hmem⟩
    rw [if_pos hmem]

/-- A hit brings no catalog along. -/
theorem exists_hit?_of_ne_none {w : Course} {requested : Option String}
    (h : w.hit? requested ≠ none) : ∃ l, w.hit? requested = some (l, none) := by
  unfold hit? at h ⊢
  split
  · exact ⟨_, rfl⟩
  · simp_all

/-- What the last element of a list with a value has is the last of the values. -/
theorem getLast?_filterMap {α β : Type} {f : α → Option β} {xs : List α} {i : Nat} {x : α}
    {y : β} (hx : xs[i]? = some x) (hy : f x = some y)
    (hlast : ∀ j z, i < j → xs[j]? = some z → f z = none) :
    (xs.filterMap f).getLast? = some y := by
  obtain ⟨hi, rfl⟩ := List.getElem?_eq_some_iff.mp hx
  have hsplit : xs = xs.take i ++ xs[i] :: xs.drop (i + 1) := by
    rw [← List.drop_eq_getElem_cons hi, List.take_append_drop]
  refine List.getLast?_filterMap_eq_some_iff.mpr ⟨_, _, _, hsplit, hy, fun z hz => ?_⟩
  obtain ⟨j, hj⟩ := List.getElem?_of_mem hz
  rw [List.getElem?_drop] at hj
  exact hlast (i + 1 + j) z (by omega) hj

/-- What the answers to joined loads show. -/
def late (w : Course) (n : Nat) (requests : List (Option String))
    (replies : List (Nat × Reply)) : List (Step × Event) :=
  (w.run (starts n requests)).trace (arrivals replies)

section Joined

variable {w : Course} {n : Nat} {requests : List (Option String)} {replies : List (Nat × Reply)}

/-- A load returns well with a locale when the answers come exactly if that becomes active then. -/
theorem exists_mem_activations_late_iff {l : Locale} :
    (∃ c, (l, c) ∈ activations (w.late n requests replies)) ↔
      ∃ t, (t, .ok l) ∈ returns (w.late n requests replies) := by
  rw [late, exists_mem_activations_iff, or_iff_left]
  rintro ⟨c, hc⟩
  exact ticket?_of_mem_joined (List.mem_append_right (starts n requests) hc) rfl

/-- Joined loads return well at once, with locales that are loaded, or else when their answers
come. -/
theorem mem_returns_joined_iff {t : Nat} {l : Locale} :
    (t, .ok l) ∈ returns (w.trace (joined n requests replies)) ↔
      (∃ i requested, t = n + i ∧ requests[i]? = some requested ∧
        w.hit? requested = some (l, none)) ∨
      (t, .ok l) ∈ returns (w.late n requests replies) := by
  rw [joined, trace_append, returns_append, List.mem_append,
    mem_returns_starts ⟨rfl, fun _ => Iff.rfl⟩, late]

/-- A load that returns well when the answers come had found its locale not loaded. -/
theorem not_mem_of_returns_late (hfresh : ∀ q ∈ w.waiting, q.1 < n)
    (hreplies : ∀ a ∈ replies, n ≤ a.1) {t : Nat} {l : Locale}
    (h : (t, .ok l) ∈ returns (w.late n requests replies)) :
    l.code ∉ w.session.loader.loaded := by
  refine not_mem_of_returns_arrivals (fun q hq hn => ?_) hreplies h
  rcases mem_waiting_starts ⟨rfl, fun _ => Iff.rfl⟩ n requests hq with hq | hq
  · have hlt := hfresh q hq
    omega
  · exact hq

/-- Joined loads leave active what the last answer made so, or else the last load of a loaded
locale. -/
theorem active_joined :
    (w.run (joined n requests replies)).session.translator.active =
      ((requests.filterMap w.hit? ++ activations (w.late n requests replies)).getLast?.map
        Prod.fst).getD w.session.translator.active := by
  rw [late, ← activations_starts ⟨rfl, fun _ => Iff.rfl⟩ n requests, ← activations_append,
    ← trace_append]
  refine w.active_run fun st hst call heq => ?_
  exact ticket?_of_mem_joined hst (by rw [heq]; rfl)

/-- What joined loads leave active. If a load that needs its catalog returns well, its locale is
active at the end, whichever loads of loaded locales stand behind it in the list; if none does, it
is the locale of the last load in the list that returns well. The loads are under fresh tickets,
their answers come in any order, and at most one locale is loaded anew. -/
theorem active_of_joined (hfresh : ∀ q ∈ w.waiting, q.1 < n)
    (hreplies : ∀ a ∈ replies, n ≤ a.1)
    (hone : ∀ s t l m, (s, .ok l) ∈ returns (w.trace (joined n requests replies)) →
      (t, .ok m) ∈ returns (w.trace (joined n requests replies)) →
      l.code ∉ w.session.loader.loaded → m.code ∉ w.session.loader.loaded → l = m) :
    let results := returns (w.trace (joined n requests replies))
    let after := (w.run (joined n requests replies)).session
    (∀ t l, (t, .ok l) ∈ results → l.code ∉ w.session.loader.loaded →
      after.translator.active = l) ∧
    ((∀ t l, (t, .ok l) ∈ results → l.code ∈ w.session.loader.loaded) →
      ∀ i l, (n + i, .ok l) ∈ results → (∀ j m, i < j → (n + j, .ok m) ∉ results) →
        after.translator.active = l) := by
  intro results after
  constructor
  · intro t l h hl
    rcases mem_returns_joined_iff.mp h with ⟨i, requested, -, -, hhit⟩ | hlate
    · exact absurd (hit?_eq_some_iff.mp hhit).2 hl
    · obtain ⟨c, hc⟩ := exists_mem_activations_late_iff.mpr ⟨t, hlate⟩
      -- Whichever answer came last with a catalog, its locale is the one that is loaded anew.
      cases hlast : (activations (w.late n requests replies)).getLast? with
      | none => exact absurd (List.getLast?_eq_none_iff.mp hlast) (List.ne_nil_of_mem hc)
      | some a =>
        obtain ⟨u, hu⟩ := exists_mem_activations_late_iff.mp ⟨a.2, List.mem_of_getLast? hlast⟩
        have hnew := not_mem_of_returns_late hfresh hreplies hu
        have heq : l = a.1 := hone t u l a.1 h (mem_returns_joined_iff.mpr (.inr hu)) hl hnew
        have hactive : after.translator.active = _ := active_joined
        rw [hactive, List.getLast?_append, hlast]
        exact heq.symm
  · intro hold i l h hlast
    have hnone {t : Nat} {m : Locale} : (t, .ok m) ∉ returns (w.late n requests replies) := by
      intro hlate
      exact not_mem_of_returns_late hfresh hreplies hlate
        (hold t m (mem_returns_joined_iff.mpr (.inr hlate)))
    have hempty : activations (w.late n requests replies) = [] := by
      refine List.eq_nil_iff_forall_not_mem.mpr fun ⟨m, d⟩ hm => ?_
      obtain ⟨t, ht⟩ := exists_mem_activations_late_iff.mp ⟨d, hm⟩
      exact hnone ht
    obtain ⟨i', requested, hi, hrequested, hhit⟩ :=
      (mem_returns_joined_iff.mp h).resolve_right hnone
    obtain rfl : i = i' := by omega
    have hhits : (requests.filterMap w.hit?).getLast? = some (l, none) := by
      refine getLast?_filterMap hrequested hhit fun j r hij hr => ?_
      refine Classical.byContradiction fun hne => ?_
      obtain ⟨m, hm⟩ := exists_hit?_of_ne_none hne
      exact hlast j m hij (mem_returns_joined_iff.mpr (.inl ⟨j, r, rfl, hr, hm⟩))
    have hactive : after.translator.active = _ := active_joined
    rw [hactive, hempty, List.append_nil, hhits]
    rfl

end Joined

/-- A session over a plain base URL in which English is active and loaded. -/
def englishSession : Session :=
  let base : Url := {
    scheme := "http", authority := some { host := some (.domain "cdn.test") }
    path := .segments [""], query := none, fragment := none }
  (Session.begin base {} Locale.fallback).activate ⟨"en"⟩ none

/-- French is asked for first and English behind it, and French is active when its answer has
come. -/
theorem active_of_joined_french :
    let w : Course := ⟨englishSession, []⟩
    let steps := joined 0 [some "fr", some "en"] [(0, ⟨.ok Catalog.empty, []⟩)]
    returns (w.trace steps) = [(1, .ok ⟨"en"⟩), (0, .ok ⟨"fr"⟩)] ∧
      (w.run steps).session.translator.active = ⟨"fr"⟩ := by
  intro w steps
  have hreturns : returns (w.trace steps) = [(1, .ok ⟨"en"⟩), (0, .ok ⟨"fr"⟩)] := rfl
  have hloaded : w.session.loader.loaded = ["en"] := rfl
  have hfrench {t : Nat} {l : Locale} (h : (t, .ok l) ∈ returns (w.trace steps))
      (hl : l.code ∉ w.session.loader.loaded) : l = ⟨"fr"⟩ := by
    rw [hreturns] at h
    rw [hloaded] at hl
    simp only [List.mem_cons, Prod.mk.injEq, Except.ok.injEq, List.not_mem_nil, or_false] at h
    rcases h with ⟨-, rfl⟩ | ⟨-, rfl⟩
    · exact absurd (List.mem_singleton_self _) hl
    · rfl
  refine ⟨hreturns, (active_of_joined (n := 0) ?_ ?_ ?_).1 0 ⟨"fr"⟩ ?_ ?_⟩
  · exact List.forall_mem_nil _
  · exact fun a _ => Nat.zero_le a.1
  · exact fun s t l m hl hm hnewl hnewm => (hfrench hl hnewl).trans (hfrench hm hnewm).symm
  · rw [hreturns]
    simp
  · simp [hloaded]

set_option maxRecDepth 10000 in
/-- English returns well and stands last in the list, yet French is active. -/
theorem late_answer_overrides :
    let net : Network := fun _ _ => .ok { body := Utf8.ofString "\x7b\"a\":\"b\"\x7d" }
    let loads := englishSession.loadAll net [some "fr", some "en"]
    loads.1.map Except.toOption = [some ⟨"fr"⟩, some ⟨"en"⟩] ∧
      loads.2.translator.active = ⟨"fr"⟩ := by
  decide +kernel

end Course

end Phrasebook
