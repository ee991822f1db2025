import Phrasebook.Proofs.Session.ActiveLocale
import Phrasebook.Proofs.Session.Counting

/-!
# Loads of one locale that overlap

Loads of a locale that is not loaded do not wait for one another: each asks for the catalog by
itself, and what it returns is decided by its own answer. The answers settle the locale in the
order in which they come, so the last catalog that is not empty stays registered, and one success
is enough for the locale to be loaded and active, also if failures come behind it.
-/

namespace Phrasebook

namespace Reply

/-- What a reply makes of the load that waits for it. -/
def result (r : Reply) (p : PendingLoad) : LoadResult :=
  match r.answer with
  | .error e => .error ⟨p.locale, p.url, e⟩
  | .ok _ => .ok p.locale

/-- Whether a reply brings no catalog. -/
def isError (r : Reply) : Bool :=
  match r.answer with
  | .error _ => true
  | .ok _ => false

/-- The catalog that a reply brings to be registered: one that is not empty. -/
def catalog? (r : Reply) : Option Catalog := r.answer.toOption.filter fun c => !c.isEmpty

end Reply

namespace Standing

/-- A standing after the reply to a load of a locale. -/
def receive (l : Locale) (σ : Standing) (r : Reply) : Standing :=
  match r.answer with
  | .error _ => σ
  | .ok c => σ.activate l (some c)

/-- A standing after the replies to some loads of a locale, in the order of their arrival. -/
def settle (l : Locale) (σ : Standing) (replies : List Reply) : Standing :=
  replies.foldl (receive l) σ

/-- A reply does one of two things: it is an error and settles nothing, or it brings a catalog and
makes the locale active. -/
theorem receive_cases (l : Locale) (σ : Standing) (r : Reply) :
    (r.isError = true ∧ r.catalog? = none ∧ σ.receive l r = σ) ∨
    (∃ c, r.isError = false ∧ r.catalog? = (if c.isEmpty then none else some c) ∧
      σ.receive l r = σ.activate l (some c)) := by
  unfold receive Reply.isError Reply.catalog?
  cases r.answer with
  | error e => exact .inl ⟨rfl, rfl, rfl⟩
  | ok c =>
    refine .inr ⟨c, rfl, ?_, rfl⟩
    cases hc : c.isEmpty <;> simp [Except.toOption, Option.filter, hc]

/-- Where no reply comes nothing is settled. -/
@[simp] theorem settle_nil (l : Locale) (σ : Standing) : σ.settle l [] = σ := rfl

/-- The reply that comes first is received first. -/
@[simp] theorem settle_cons (l : Locale) (σ : Standing) (r : Reply) (rest : List Reply) :
    σ.settle l (r :: rest) = (σ.receive l r).settle l rest := rfl

/-- Replies without a catalog settle nothing. -/
theorem settle_of_errors {l : Locale} {σ : Standing} {replies : List Reply}
    (h : ∀ r ∈ replies, r.isError = true) : σ.settle l replies = σ := by
  induction replies generalizing σ with
  | nil => rfl
  | cons r rest ih =>
    rw [List.forall_mem_cons] at h
    obtain ⟨-, -, hr⟩ | ⟨c, he, -⟩ := σ.receive_cases l r
    · rw [settle_cons, hr, ih h.2]
    · simp [he] at h

/-- Replies make no code loaded but that of their locale, and this one if there is a catalog among
them. -/
theorem mem_loaded_settle {l : Locale} {σ : Standing} {replies : List Reply} {code : String} :
    code ∈ (σ.settle l replies).loaded ↔
      code ∈ σ.loaded ∨ code = l.code ∧ ∃ r ∈ replies, r.isError = false := by
  induction replies generalizing σ with
  | nil => simp
  | cons r rest ih =>
    rw [settle_cons, ih]
    obtain ⟨he, -, hr⟩ | ⟨c, he, -, hr⟩ := σ.receive_cases l r
    · simp [hr, he]
    · simp only [hr, activate, KeySet.mem_insert, List.mem_cons]
      grind

/-- One reply with a catalog makes the locale active, whatever comes behind it. -/
theorem active_settle {l : Locale} {σ : Standing} {replies : List Reply}
    (h : ∃ r ∈ replies, r.isError = false) : (σ.settle l replies).translator.active = l := by
  induction replies generalizing σ with
  | nil => simp at h
  | cons r rest ih =>
    rw [settle_cons]
    by_cases hrest : ∃ r ∈ rest, r.isError = false
    · exact ih hrest
    · have herrors : ∀ r ∈ rest, r.isError = true := by simpa using hrest
      rw [settle_of_errors herrors]
      obtain ⟨he, -, -⟩ | ⟨c, -, -, hr⟩ := σ.receive_cases l r
      · simp [he, hrest] at h
      · rw [hr]
        exact active_activate _ _ _

/-- A catalog that comes along with an activation is registered unless it is empty. -/
theorem catalog?_activate_self (σ : Standing) (l : Locale) (c : Catalog) :
    (σ.activate l (some c)).translator.catalog? l =
      if c.isEmpty then σ.translator.catalog? l else some c := by
  cases hc : c.isEmpty with
  | true => simp [activate, Loader.activationCalls, hc, Translator.apply, Translator.setActive,
      Translator.catalog?]
  | false =>
    simp only [activate, Loader.activationCalls, hc]
    exact KeyMap.find?_insert_self _ _ _

/-- The activation of one locale leaves the catalogs of the others. -/
theorem catalog?_activate_of_ne {l m : Locale} (σ : Standing) (c : Option Catalog)
    (h : m ≠ l) : (σ.activate l c).translator.catalog? m = σ.translator.catalog? m := by
  have hcode : m.code ≠ l.code := fun heq => h (by cases m; cases l; simp_all)
  unfold activate Loader.activationCalls
  split
  · split
    · rfl
    · exact KeyMap.find?_insert_of_ne _ _ hcode
  · rfl

/-- The last catalog that is not empty stays registered, or the former one if there is none. -/
theorem catalog?_settle (l : Locale) (σ : Standing) (replies : List Reply) :
    (σ.settle l replies).translator.catalog? l =
      ((replies.filterMap Reply.catalog?).getLast?).or (σ.translator.catalog? l) := by
  refine List.foldl_view?_eq_last (fun σ : Standing => σ.translator.catalog? l) ?_ σ replies
  intro σ r
  obtain ⟨-, hc, hr⟩ | ⟨c, -, hc, hr⟩ := σ.receive_cases l r
  · rw [hr, hc, Option.none_or]
  · rw [hr, hc, catalog?_activate_self]
    split <;> rfl

/-- Replies to loads of one locale leave the catalogs of the others. -/
theorem catalog?_settle_of_ne {l m : Locale} (σ : Standing) (replies : List Reply) (h : m ≠ l) :
    (σ.settle l replies).translator.catalog? m = σ.translator.catalog? m := by
  induction replies generalizing σ with
  | nil => rfl
  | cons r rest ih =>
    rw [settle_cons, ih]
    obtain ⟨-, -, hr⟩ | ⟨c, -, -, hr⟩ := σ.receive_cases l r
    · rw [hr]
    · rw [hr, σ.catalog?_activate_of_ne _ h]

/-- Two standings with the same translator and the same loaded locales. -/
def Same (σ τ : Standing) : Prop := σ.translator = τ.translator ∧ σ.loaded = τ.loaded

/-- Standings that look the same still do when the same is made active in both. -/
theorem Same.activate {σ τ : Standing} (h : Same σ τ) (l : Locale) (c : Option Catalog) :
    Same (σ.activate l c) (τ.activate l c) := by
  obtain ⟨ht, hl⟩ := h
  simp only [Same, Standing.activate, ht, hl, and_self]

/-- Making a locale active again with the same catalog changes nothing. -/
theorem same_activate_activate (σ : Standing) (l : Locale) (c : Option Catalog) :
    Same ((σ.activate l c).activate l c) (σ.activate l c) := by
  refine ⟨?_, KeySet.insert_insert _ _⟩
  unfold activate Loader.activationCalls
  split
  · split
    · rfl
    · simp only [List.foldl_cons, List.foldl_nil, Translator.apply, Translator.setActive,
        Translator.register, KeyMap.insert_insert]
  · rfl

/-- What a reply settles hangs on its answer, not on its requests. -/
theorem receive_congr {r r' : Reply} (h : r.answer = r'.answer) (l : Locale) (σ : Standing) :
    σ.receive l r = σ.receive l r' := by
  simp only [receive, h]

/-- Standings that look the same still do when both receive the same reply. -/
theorem Same.receive {σ τ : Standing} (h : Same σ τ) (l : Locale) (r : Reply) :
    Same (σ.receive l r) (τ.receive l r) := by
  unfold Standing.receive
  cases r.answer with
  | error e => exact h
  | ok c => exact h.activate l (some c)

/-- Receiving the same reply again changes nothing. -/
theorem same_receive_receive (σ : Standing) (l : Locale) (r : Reply) :
    Same ((σ.receive l r).receive l r) (σ.receive l r) := by
  unfold receive
  cases r.answer with
  | error e => exact ⟨rfl, rfl⟩
  | ok c => exact σ.same_activate_activate l (some c)

/-- The same answer several times settles what it settles once. -/
theorem same_settle_of_forall_eq {l : Locale} {σ : Standing} {first : Reply} {replies : List Reply}
    (hne : replies ≠ []) (h : ∀ r ∈ replies, r.answer = first.answer) :
    Same (σ.settle l replies) (σ.settle l [first]) := by
  -- Once the first reply is in, the standing no longer changes but for the calls it records.
  have hstays (rest : List Reply) (hrest : ∀ r ∈ rest, r.answer = first.answer) (τ : Standing)
      (hτ : Same τ (σ.receive l first)) : Same (τ.settle l rest) (σ.receive l first) := by
    induction rest generalizing τ with
    | nil => exact hτ
    | cons r rest ih =>
      rw [List.forall_mem_cons] at hrest
      have hagain := hτ.receive l first
      have hsame := σ.same_receive_receive l first
      rw [settle_cons, receive_congr hrest.1]
      exact ih hrest.2 _ ⟨hagain.1.trans hsame.1, hagain.2.trans hsame.2⟩
  cases replies with
  | nil => exact absurd rfl hne
  | cons r rest =>
    rw [List.forall_mem_cons] at h
    rw [settle_cons, receive_congr h.1]
    exact hstays rest h.2 _ ⟨rfl, rfl⟩

end Standing

namespace Course

/-- What the beginning of a load shows whose locale is not loaded. -/
def opening (base : Url) (l : Locale) (ticket : Nat) : Event :=
  match catalogUrl? base l with
  | some u => .asked ticket ⟨l, u⟩
  | none => .returned ticket (.error ⟨l, base, .unusableBase base⟩)

/-- The loads that wait for an answer after a load has begun whose locale is not loaded. -/
def asking (base : Url) (l : Locale) (ticket : Nat) : List (Nat × PendingLoad) :=
  match catalogUrl? base l with
  | some u => [(ticket, ⟨l, u⟩)]
  | none => []

/-- The counters after some loads have begun whose locale is not loaded. -/
def openedCounters (base : Url) (l : Locale) (c : Counters) (loads : Nat) : Counters :=
  { c with
    misses := c.misses + loads
    fetches := c.fetches + loads
    failures := c.failures + if (catalogUrl? base l).isNone then loads else 0 }

section Opening

variable {w : Course} {l : Locale}

/-- A load whose locale is not loaded asks for the catalog, or fails for want of a URL. -/
theorem start_of_not_loaded {requested : Option String}
    (hl : l.code ∉ w.session.loader.loaded) (hr : w.session.loader.resolve requested = l)
    (ticket : Nat) :
    let st := Step.start ticket requested
    let base := w.session.loader.base
    w.seen st = opening base l ticket ∧ (w.next st).session.standing = w.session.standing ∧
      (w.next st).waiting = w.waiting ++ asking base l ticket ∧
      (w.next st).session.loader.counters =
        openedCounters base l w.session.loader.counters 1 := by
  intro st base
  obtain ⟨-, ⟨hload, -⟩ | ⟨u, -, hu, he, hw, hs, hc⟩ | ⟨-, hu, he, hw, hs, hc⟩⟩ :=
    w.start_cases ticket requested
  · exact absurd (Loader.isLoaded_iff.mp hload) (hr ▸ hl)
  · rw [hr] at hu he hw
    refine ⟨by rw [he, opening, hu], hs, by rw [hw, asking, hu], ?_⟩
    rw [hc, openedCounters, hu]
    rfl
  · rw [hr] at hu he
    refine ⟨by rw [he, opening, hu], hs, by rw [hw, asking, hu, List.append_nil], ?_⟩
    rw [hc, openedCounters, hu]
    rfl

/-- Loads of one locale that is not loaded begin all alike, and none sees another. -/
theorem run_starts_of_not_loaded {requests : List (Option String)}
    (hl : l.code ∉ w.session.loader.loaded)
    (hr : ∀ r ∈ requests, w.session.loader.resolve r = l) (n : Nat) :
    let base := w.session.loader.base
    let after := w.run (starts n requests)
    w.trace (starts n requests) =
        (requests.zipIdx n).map (fun q => (.start q.2 q.1, opening base l q.2)) ∧
      after.session.standing = w.session.standing ∧
      after.waiting = w.waiting ++ (List.range' n requests.length).flatMap (asking base l) ∧
      after.session.loader.counters =
        openedCounters base l w.session.loader.counters requests.length := by
  induction requests generalizing w n with
  | nil =>
    refine ⟨rfl, rfl, by simp [starts], ?_⟩
    simp [starts, openedCounters]
  | cons requested rest ih =>
    intro base after
    rw [List.forall_mem_cons] at hr
    obtain ⟨he, hs, hw, hc⟩ := start_of_not_loaded hl hr.1 n
    have hloaded : (w.next (.start n requested)).session.loader.loaded =
        w.session.loader.loaded := congrArg Standing.loaded hs
    have hbase : (w.next (.start n requested)).session.loader.base = base :=
      congrArg Standing.base hs
    -- The first load leaves the standing as it is, so the others mean the same locale and find it
    -- as little loaded.
    obtain ⟨htrace, hs', hw', hc'⟩ := ih (w := w.next (.start n requested)) (hloaded ▸ hl)
      (fun r hmem => (Loader.resolve_congr (congrArg Standing.preferences hs) r).trans
        (hr.2 r hmem)) (n + 1)
    rw [hbase] at htrace hw' hc'
    refine ⟨?_, hs'.trans hs, ?_, ?_⟩
    · rw [starts, trace_cons, he, htrace, List.zipIdx_cons, List.map_cons]
    · have hrange : List.range' n (requested :: rest).length =
          n :: List.range' (n + 1) rest.length := rfl
      rw [hrange, List.flatMap_cons, ← List.append_assoc, ← hw]
      exact hw'
    · refine hc'.trans ?_
      rw [hc]
      simp only [openedCounters, List.length_cons, Counters.mk.injEq, true_and]
      refine ⟨by omega, by omega, ?_⟩
      split <;> omega

end Opening

/-- Behind loads with other tickets the ticket of one of some equal loads finds this load. -/
theorem lookup_append_of_forall {old waits : List (Nat × PendingLoad)} {p : PendingLoad}
    {ticket : Nat} (hold : ∀ q ∈ old, q.1 ≠ ticket) (hwaits : ∀ q ∈ waits, q.2 = p)
    (hmem : ticket ∈ waits.map Prod.fst) : (old ++ waits).lookup ticket = some p := by
  have hnone : old.lookup ticket = none := by
    rw [List.lookup_eq_none_iff]
    intro q hq
    simpa using (hold q hq).symm
  rw [List.lookup_append, hnone, Option.none_or]
  cases hfind : waits.lookup ticket with
  | none =>
    obtain ⟨q, hq, rfl⟩ := List.mem_map.mp hmem
    simpa using List.lookup_eq_none_iff.mp hfind q hq
  | some p' => exact congrArg some (hwaits _ (mem_of_lookup hfind))

/-- When the load under a ticket is taken off, the ticket goes with it. -/
theorem map_fst_eraseP (waits : List (Nat × PendingLoad)) (ticket : Nat) :
    (waits.eraseP (·.1 == ticket)).map Prod.fst = (waits.map Prod.fst).erase ticket := by
  rw [List.erase_eq_eraseP', List.eraseP_map]
  rfl

/-- The counters after some replies of which some are errors. -/
def answeredCounters (c : Counters) (errors : Nat) : Counters :=
  { c with failures := c.failures + errors }

/-- The answer to a load that waits: what the load returns and what the session then stands at
follow from the reply, the load and the standing before. -/
theorem finish_of_lookup {w : Course} {ticket : Nat} {p : PendingLoad}
    (hp : w.waiting.lookup ticket = some p) (reply : Reply) :
    let st := Step.finish ticket reply
    w.seen st = .returned ticket (reply.result p) ∧
      (w.next st).session.standing = w.session.standing.receive p.locale reply ∧
      (w.next st).waiting = w.waiting.eraseP (·.1 == ticket) ∧
      (w.next st).session.loader.counters =
        answeredCounters w.session.loader.counters (if reply.isError then 1 else 0) := by
  intro st
  rcases w.finish_cases ticket reply with ⟨hnone, -⟩ | ⟨p', hp', hw, -, hcases⟩
  · rw [hp] at hnone
    cases hnone
  obtain rfl : p = p' := Option.some.inj (hp.symm.trans hp')
  rcases hcases with ⟨e, ha, he, hs, hc⟩ | ⟨c, ha, he, hs, hc⟩
  · refine ⟨by rw [he, Reply.result, ha], by rw [hs, Standing.receive, ha], hw, ?_⟩
    rw [hc, Reply.isError, ha]
    rfl
  · refine ⟨by rw [he, Reply.result, ha], by rw [hs, Standing.receive, ha], hw, ?_⟩
    rw [hc, Reply.isError, ha]
    rfl

/-- The answers to some loads that wait for the same catalog: each load returns what its own answer
says, and the answers settle its locale in the order of their arrival. -/
theorem run_arrivals {w : Course} {p : PendingLoad} {old waits : List (Nat × PendingLoad)}
    {replies : List (Nat × Reply)} (hw : w.waiting = old ++ waits)
    (hold : ∀ q ∈ old, ∀ a ∈ replies, q.1 ≠ a.1) (hwaits : ∀ q ∈ waits, q.2 = p)
    (hperm : (waits.map Prod.fst).Perm (replies.map Prod.fst)) :
    let after := w.run (arrivals replies)
    w.trace (arrivals replies) =
        replies.map (fun a => (.finish a.1 a.2, .returned a.1 (a.2.result p))) ∧
      after.session.standing = w.session.standing.settle p.locale (replies.map Prod.snd) ∧
      after.waiting = old ∧
      after.session.loader.counters = answeredCounters w.session.loader.counters
        (replies.countP fun a => a.2.isError) := by
  induction replies generalizing w waits with
  | nil =>
    obtain rfl : waits = [] := by simpa using hperm
    exact ⟨rfl, rfl, by rw [← old.append_nil, ← hw]; rfl, rfl⟩
  | cons a rest ih =>
    intro after
    have hmem : a.1 ∈ waits.map Prod.fst := hperm.mem_iff.mpr List.mem_cons_self
    have hlookup : w.waiting.lookup a.1 = some p :=
      hw ▸ lookup_append_of_forall (fun q hq => hold q hq a List.mem_cons_self) hwaits hmem
    have herase : w.waiting.eraseP (·.1 == a.1) = old ++ waits.eraseP (·.1 == a.1) := by
      rw [hw, List.eraseP_append_right]
      simpa using fun t q hq => hold (t, q) hq a List.mem_cons_self
    -- The load that is answered goes, and the others still have their answers in `rest`.
    have hrest : ((waits.eraseP (·.1 == a.1)).map Prod.fst).Perm (rest.map Prod.fst) := by
      rw [map_fst_eraseP]
      simpa using hperm.erase a.1
    obtain ⟨he, hs, hw', hc⟩ := finish_of_lookup hlookup a.2
    obtain ⟨htrace, hs', hold', hc'⟩ := ih (w := w.next (.finish a.1 a.2)) (hw'.trans herase)
      (fun q hq b hb => hold q hq b (List.mem_cons_of_mem _ hb))
      (fun q hq => hwaits q (List.mem_of_mem_eraseP hq)) hrest
    have hsteps : arrivals (a :: rest) = .finish a.1 a.2 :: arrivals rest := rfl
    refine ⟨by rw [hsteps, trace_cons, he, htrace, List.map_cons], ?_, hold', ?_⟩
    · rw [List.map_cons, Standing.settle_cons, ← hs]
      exact hs'
    · refine hc'.trans ?_
      rw [hc, List.countP_cons]
      simp only [answeredCounters, Counters.mk.injEq, true_and]
      omega

/-- Answers for which no load waits are lost. -/
theorem run_arrivals_of_none {w : Course} {replies : List (Nat × Reply)}
    (h : ∀ a ∈ replies, w.waiting.lookup a.1 = none) :
    w.run (arrivals replies) = w ∧ returns (w.trace (arrivals replies)) = [] := by
  induction replies with
  | nil => exact ⟨rfl, rfl⟩
  | cons a rest ih =>
    rw [List.forall_mem_cons] at h
    rcases w.finish_cases a.1 a.2 with ⟨-, he, hn⟩ | ⟨p, hp, -⟩
    · have hsteps : arrivals (a :: rest) = .finish a.1 a.2 :: arrivals rest := rfl
      rw [hsteps, run_cons, trace_cons, returns_cons, he, hn]
      exact ih h.2
    · rw [h.1] at hp
      cases hp

section Overlap

variable {w : Course} {l : Locale} {n : Nat} {requests : List (Option String)}
  {replies : List (Nat × Reply)}

/-- Loads of one locale that is not loaded, each with an answer: all ask and return by themselves,
and the answers settle the locale. -/
theorem run_overlapping {u : Url} (hl : l.code ∉ w.session.loader.loaded)
    (hrequests : ∀ r ∈ requests, w.session.loader.resolve r = l)
    (hfresh : ∀ q ∈ w.waiting, q.1 < n)
    (hreplies : (replies.map Prod.fst).Perm (List.range' n requests.length))
    (hu : catalogUrl? w.session.loader.base l = some u) :
    let after := w.run (joined n requests replies)
    let c := w.session.loader.counters
    w.trace (joined n requests replies) =
        (requests.zipIdx n).map (fun q => (.start q.2 q.1, .asked q.2 ⟨l, u⟩)) ++
          replies.map (fun a => (.finish a.1 a.2, .returned a.1 (a.2.result ⟨l, u⟩))) ∧
      after.session.standing = w.session.standing.settle l (replies.map Prod.snd) ∧
      after.waiting = w.waiting ∧
      after.session.loader.counters = { c with
        misses := c.misses + requests.length
        fetches := c.fetches + requests.length
        failures := c.failures + replies.countP fun a => a.2.isError } := by
  obtain ⟨htrace, hs, hw, hc⟩ := run_starts_of_not_loaded hl hrequests n
  have hasking : (List.range' n requests.length).flatMap (asking w.session.loader.base l) =
      (List.range' n requests.length).map (·, ⟨l, u⟩) := by
    have hone : asking w.session.loader.base l = fun t => [(t, ⟨l, u⟩)] := by
      funext t
      rw [asking, hu]
    rw [hone, List.map_eq_flatMap]
  rw [hasking] at hw
  -- The tickets are fresh, so no answer can be taken for one to an older load.
  obtain ⟨htrace', hs', hw', hc'⟩ := @run_arrivals _ ⟨l, u⟩ _ _ replies hw
    (fun q hq a ha => by
      have hmem := hreplies.mem_iff.mp (List.mem_map_of_mem ha)
      have hlow := hfresh q hq
      rw [List.mem_range'_1] at hmem
      omega)
    (fun q hq => by
      obtain ⟨t, -, rfl⟩ := List.mem_map.mp hq
      rfl)
    (by simpa [Function.comp_def] using hreplies.symm)
  rw [joined, trace_append, htrace, htrace', run_append]
  refine ⟨?_, by rw [hs', hs], hw', ?_⟩
  · simp only [opening, hu]
  · rw [hc', hc]
    simp [openedCounters, answeredCounters, hu]

/-- Where the catalog has no URL, the loads all fail when they begin and leave everything but the
counters. -/
theorem run_overlapping_of_none (hl : l.code ∉ w.session.loader.loaded)
    (hrequests : ∀ r ∈ requests, w.session.loader.resolve r = l)
    (hfresh : ∀ q ∈ w.waiting, q.1 < n)
    (hreplies : (replies.map Prod.fst).Perm (List.range' n requests.length))
    (hu : catalogUrl? w.session.loader.base l = none) :
    let base := w.session.loader.base
    let after := w.run (joined n requests replies)
    let c := w.session.loader.counters
    returns (w.trace (joined n requests replies)) =
        (List.range' n requests.length).map (·, .error ⟨l, base, .unusableBase base⟩) ∧
      after.session.standing = w.session.standing ∧
      after.session.loader.counters = { c with
        misses := c.misses + requests.length
        fetches := c.fetches + requests.length
        failures := c.failures + requests.length } := by
  intro base after c
  obtain ⟨htrace, hs, hw, hc⟩ := run_starts_of_not_loaded hl hrequests n
  have hasking : asking base l = fun _ => [] := by
    funext t
    rw [asking, hu]
  have hwaiting : (w.run (starts n requests)).waiting = w.waiting := by
    rw [hw, hasking]
    simp
  -- All loads are over when the answers come, and older ones have other tickets.
  have hlost : ∀ a ∈ replies, (w.run (starts n requests)).waiting.lookup a.1 = none := by
    intro a ha
    have hmem := hreplies.mem_iff.mp (List.mem_map_of_mem ha)
    rw [List.mem_range'_1] at hmem
    rw [hwaiting, List.lookup_eq_none_iff]
    intro q hq
    have hlow := hfresh q hq
    have hne : a.1 ≠ q.1 := by omega
    simpa using hne
  obtain ⟨hrun, hreturns⟩ := run_arrivals_of_none hlost
  have hafter : after = w.run (starts n requests) := by
    rw [← hrun, ← run_append]
    rfl
  refine ⟨?_, by rw [hafter, hs], ?_⟩
  · rw [joined, trace_append, returns_append, hreturns, List.append_nil, htrace, returns,
      List.filterMap_map, ← List.zipIdx_map_snd]
    simp only [opening, hu]
    rw [List.map_map, ← List.filterMap_eq_map]
    rfl
  · rw [hafter, hc, openedCounters, hu]
    rfl

/-- Loads of one locale that is not loaded, begun together under fresh tickets, and their answers in
any order. Each load asks for the catalog by itself, counts a miss and a fetch, and returns what
its own answer says. The locale is loaded and active afterwards exactly if some answer brought a
catalog, and without one nothing but the counters is changed; the last catalog that is not empty
stays registered, or else the former one; other locales keep their catalogs and whether they are
loaded; and equal answers leave the translator and the loaded set as a single load would. Where the
base URL takes no segments there is nothing to ask: all loads fail alike and change only the
counters. -/
theorem overlapping_loads (hl : l.code ∉ w.session.loader.loaded)
    (hrequests : ∀ r ∈ requests, w.session.loader.resolve r = l)
    (hfresh : ∀ q ∈ w.waiting, q.1 < n)
    (hreplies : (replies.map Prod.fst).Perm (List.range' n requests.length)) :
    let base := w.session.loader.base
    let before := w.session
    let after := (w.run (joined n requests replies)).session
    let c := before.loader.counters
    (∀ u, catalogUrl? base l = some u →
      w.trace (joined n requests replies) =
        (requests.zipIdx n).map (fun q => (.start q.2 q.1, .asked q.2 ⟨l, u⟩)) ++
          replies.map (fun a => (.finish a.1 a.2, .returned a.1 (a.2.result ⟨l, u⟩))) ∧
      after.loader.counters = { c with
        misses := c.misses + requests.length
        fetches := c.fetches + requests.length
        failures := c.failures + replies.countP fun a => a.2.isError } ∧
      (l.code ∈ after.loader.loaded ∧ after.translator.active = l ↔
        ∃ a ∈ replies, a.2.isError = false) ∧
      ((∀ a ∈ replies, a.2.isError = true) → after.standing = before.standing) ∧
      after.translator.catalog? l =
        ((replies.filterMap fun a => a.2.catalog?).getLast?).or (before.translator.catalog? l) ∧
      (∀ m, m ≠ l → after.translator.catalog? m = before.translator.catalog? m ∧
        (m.code ∈ after.loader.loaded ↔ m.code ∈ before.loader.loaded)) ∧
      (∀ first ∈ replies, (∀ a ∈ replies, a.2.answer = first.2.answer) → ∀ r ∈ requests,
        let single := (w.run (joined n [r] [(n, first.2)])).session
        after.translator = single.translator ∧
          after.loader.loaded = single.loader.loaded)) ∧
    (catalogUrl? base l = none →
      returns (w.trace (joined n requests replies)) =
        (List.range' n requests.length).map (·, .error ⟨l, base, .unusableBase base⟩) ∧
      after.standing = before.standing ∧
      after.loader.counters = { c with
        misses := c.misses + requests.length
        fetches := c.fetches + requests.length
        failures := c.failures + requests.length }) := by
  intro base before after c
  refine ⟨fun u hu => ?_, fun hu => run_overlapping_of_none hl hrequests hfresh hreplies hu⟩
  obtain ⟨htrace, hs, -, hc⟩ := run_overlapping hl hrequests hfresh hreplies hu
  have hloaded : after.loader.loaded =
      (before.standing.settle l (replies.map Prod.snd)).loaded := congrArg Standing.loaded hs
  have htranslator : after.translator =
      (before.standing.settle l (replies.map Prod.snd)).translator :=
    congrArg Standing.translator hs
  have hsome : (∃ r ∈ replies.map Prod.snd, r.isError = false) ↔
      ∃ a ∈ replies, a.2.isError = false := by
    constructor
    · rintro ⟨r, hr, he⟩
      obtain ⟨a, ha, rfl⟩ := List.mem_map.mp hr
      exact ⟨a, ha, he⟩
    · rintro ⟨a, ha, he⟩
      exact ⟨a.2, List.mem_map_of_mem ha, he⟩
  have hmem (code : String) : code ∈ after.loader.loaded ↔
      code ∈ before.loader.loaded ∨ code = l.code ∧ ∃ a ∈ replies, a.2.isError = false := by
    rw [hloaded, Standing.mem_loaded_settle, hsome]
    rfl
  refine ⟨htrace, hc, ⟨fun h => ?_, fun h => ⟨?_, ?_⟩⟩, fun h => ?_, ?_, fun m hm => ⟨?_, ?_⟩, ?_⟩
  · exact (((hmem l.code).mp h.1).resolve_left hl).2
  · exact (hmem l.code).mpr (.inr ⟨rfl, h⟩)
  · rw [htranslator]
    exact Standing.active_settle (hsome.mpr h)
  · exact hs.trans (Standing.settle_of_errors (List.forall_mem_map.mpr h))
  · rw [htranslator, Standing.catalog?_settle, List.filterMap_map]
    rfl
  · rw [htranslator, Standing.catalog?_settle_of_ne _ _ hm]
    rfl
  · have hcode : m.code ≠ l.code := fun h => hm (by cases m; cases l; simp_all)
    rw [hmem]
    exact or_iff_left fun h => hcode h.1
  -- A single load is a run of the same kind, with one request and one answer.
  · intro first hfirst hequal r hr single
    obtain ⟨-, hsingle, -⟩ := @run_overlapping w l n [r] [(n, first.2)] u hl
      (by simpa using hrequests r hr) hfresh (List.Perm.refl _) hu
    have hne : replies.map Prod.snd ≠ [] :=
      List.ne_nil_of_mem (List.mem_map_of_mem hfirst)
    have hsame : Standing.Same after.standing single.standing := by
      rw [hs, hsingle]
      exact Standing.same_settle_of_forall_eq hne (List.forall_mem_map.mpr hequal)
    exact hsame

end Overlap

/-- A catalog of one message. -/
def greeting : Catalog := Catalog.empty.insert "hello" ⟨.message "bonjour", trivial⟩

/-- Two loads of French begin together in a session that knows only English. The second one gets a
catalog, then the first one an error, and French is loaded and active with that catalog. -/
theorem overlapping_loads_french :
    let w : Course := ⟨englishSession, []⟩
    let broken : Reply := ⟨.error (.status 503), []⟩
    let replies : List (Nat × Reply) := [(1, ⟨.ok greeting, []⟩), (0, broken)]
    let after := (w.run (joined 0 [some "fr", some "fr"] replies)).session
    "fr" ∈ after.loader.loaded ∧ after.translator.active = ⟨"fr"⟩ ∧
      after.translator.catalog? ⟨"fr"⟩ = some greeting := by
  intro w broken replies after
  have h := @overlapping_loads w ⟨"fr"⟩ 0 [some "fr", some "fr"] replies (by decide)
    (by simp [w, englishSession, Loader.resolve, Locale.ofString?]) (by simp [w])
    (List.Perm.swap ..)
  obtain ⟨u, hu⟩ : ∃ u, catalogUrl? w.session.loader.base ⟨"fr"⟩ = some u := ⟨_, rfl⟩
  obtain ⟨-, -, hok, -, hcatalog, -⟩ := h.1 u hu
  obtain ⟨hloaded, hactive⟩ := hok.mpr ⟨_, List.mem_cons_self, rfl⟩
  exact ⟨hloaded, hactive, hcatalog⟩

end Course

end Phrasebook
