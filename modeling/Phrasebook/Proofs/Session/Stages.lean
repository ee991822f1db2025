import Phrasebook.Proofs.Results
import Phrasebook.Proofs.Session.Joined
import Phrasebook.Proofs.Session.LoadedSet
import Phrasebook.Proofs.Session.ActiveLocale

/-!
# The stages of a load

A load of a locale that is not loaded needs a URL for the catalog and a fetch that brings it. It
ends well exactly if the base URL takes segments and all stages of the fetch succeed; otherwise its
error is that of the first stage that failed. Whatever else went on in the session while the load
was waiting makes no difference to this.
-/

namespace Phrasebook

namespace Network

/-- The catalog of a locale has a URL under the base, and the fetch of it succeeds in all stages. -/
def DeliversUnder (net : Network) (h : History) (base : Url) (l : Locale) (c : Catalog) : Prop :=
  base.TakesSegments ∧ ∃ u, catalogUrl? base l = some u ∧ net.Delivers h u.render c

/-- The first stage of a load that fails, with the URL that its error tells: there is no URL under
the base, or a stage of the fetch fails. -/
inductive FirstFailureUnder (net : Network) (h : History) (base : Url) (l : Locale) :
    Url → FetchError → Prop
  | unusableBase (hbase : ¬base.TakesSegments) :
      FirstFailureUnder net h base l base (.unusableBase base)
  | fetch {u : Url} {e : FetchError} (hu : catalogUrl? base l = some u)
      (he : net.FirstFailure h u.render e) : FirstFailureUnder net h base l u e

variable {net : Network} {h : History} {base u : Url} {l : Locale}

/-- Where the catalog has a URL, all stages succeed exactly if the reply to a fetch of it brings the
catalog. -/
theorem deliversUnder_iff_of_some (hu : catalogUrl? base l = some u) {c : Catalog} :
    net.DeliversUnder h base l c ↔ (net.reply h u.render).answer = .ok c := by
  have hbase : base.TakesSegments := (exists_catalogUrl?_iff base l).mp ⟨u, hu⟩
  rw [reply, fetchText_eq_ok_iff]
  constructor
  · rintro ⟨-, v, hv, hc⟩
    obtain rfl := Option.some.inj (hu.symm.trans hv)
    exact hc
  · exact fun hc => ⟨hbase, u, hu, hc⟩

/-- Where the catalog has a URL, the error of the first failure is the one in the reply. -/
theorem firstFailureUnder_iff_of_some (hu : catalogUrl? base l = some u) {v : Url}
    {e : FetchError} :
    net.FirstFailureUnder h base l v e ↔ v = u ∧ (net.reply h u.render).answer = .error e := by
  have hbase : base.TakesSegments := (exists_catalogUrl?_iff base l).mp ⟨u, hu⟩
  rw [reply, fetchText_eq_error_iff]
  constructor
  · intro he
    cases he with
    | unusableBase hnone => exact absurd hbase hnone
    | fetch hv he =>
      obtain rfl := Option.some.inj (hu.symm.trans hv)
      exact ⟨rfl, he⟩
  · rintro ⟨rfl, he⟩
    exact .fetch hu he

/-- Where the catalog has no URL, no catalog is delivered. -/
theorem not_deliversUnder_of_none (hu : catalogUrl? base l = none) {c : Catalog} :
    ¬net.DeliversUnder h base l c := by
  rintro ⟨-, v, hv, -⟩
  cases hu.symm.trans hv

/-- Where the catalog has no URL, the base is the first failure. -/
theorem firstFailureUnder_iff_of_none (hu : catalogUrl? base l = none) {v : Url}
    {e : FetchError} :
    net.FirstFailureUnder h base l v e ↔ v = base ∧ e = .unusableBase base := by
  constructor
  · intro he
    cases he with
    | unusableBase => exact ⟨rfl, rfl⟩
    | fetch hv => cases hu.symm.trans hv
  · rintro ⟨rfl, rfl⟩
    refine .unusableBase fun hbase => ?_
    obtain ⟨u, hv⟩ := (exists_catalogUrl?_iff v l).mpr hbase
    cases hu.symm.trans hv

end Network

namespace Session

/-! ### The end of a load that waits -/

section Receive

variable {t : Session} {p : PendingLoad} {r : Reply}

/-- A load returns its locale exactly if the reply brings a catalog. -/
theorem receive_eq_ok_iff {m : Locale} :
    (t.receive p r).1 = .ok m ↔ m = p.locale ∧ ∃ c, r.answer = .ok c := by
  cases hanswer : r.answer with
  | error e =>
    rw [(receive_of_error hanswer).1]
    simp
  | ok c =>
    rw [(receive_of_ok hanswer).1]
    simp [eq_comm]

/-- A load fails exactly if the reply is an error, and it tells of its locale and its URL then. -/
theorem receive_eq_error_iff {e : LoadError} :
    (t.receive p r).1 = .error e ↔
      e.locale = p.locale ∧ e.url = p.url ∧ r.answer = .error e.source := by
  cases hanswer : r.answer with
  | error cause =>
    rw [(receive_of_error hanswer).1, Except.error.injEq, Except.error.injEq]
    constructor
    · rintro rfl
      exact ⟨rfl, rfl, rfl⟩
    · rintro ⟨hlocale, hurl, hsource⟩
      rw [← hlocale, ← hurl, hsource]
  | ok c =>
    rw [(receive_of_ok hanswer).1]
    simp

/-- The requests of a reply come behind those that were sent before. -/
theorem history_receive (t : Session) (p : PendingLoad) (r : Reply) :
    (t.receive p r).2.history = t.history ++ r.requests := by
  cases hanswer : r.answer with
  | error e => exact (receive_of_error hanswer).2.2.2
  | ok c => exact (receive_of_ok hanswer).2.2.2

/-- Making a locale active with a catalog registers no other catalog, and none for another
locale. -/
theorem eq_of_register_mem_activationCalls {l m : Locale} {c d : Catalog}
    (h : .register m c ∈ Loader.activationCalls l (some d)) : m = l ∧ c = d := by
  unfold Loader.activationCalls at h
  cases hempty : d.isEmpty with
  | true => simp [hempty] at h
  | false => simpa [hempty] using h

/-- The calls that end a load register at most the catalog of the answer. -/
theorem exists_calls_receive (t : Session) (p : PendingLoad) (r : Reply) :
    ∃ calls, (t.receive p r).2.calls = t.calls ++ calls ∧
      (t.receive p r).2.translator = calls.foldl Translator.apply t.translator ∧
      ∀ m c, .register m c ∈ calls → m = p.locale ∧ r.answer = .ok c := by
  refine ⟨((t.take r.requests).loader.finish p r.answer).calls, rfl, rfl, fun m c hcall => ?_⟩
  cases hanswer : r.answer with
  | error e =>
    rw [hanswer] at hcall
    cases hcall
  | ok d =>
    rw [hanswer] at hcall
    obtain ⟨hm, hc⟩ := eq_of_register_mem_activationCalls hcall
    exact ⟨hm, by rw [hc]⟩

end Receive

/-- A load of a locale that is not loaded, alone or with others that overlap it. Here `t` is what
the session has come to when the load goes on to fetch; a load alone goes on at once. The load
returns well exactly if the base URL takes segments and the fetch brings a catalog, and only then is
one registered, namely that one. Otherwise its error has the locale, and the URL and the cause of
the first stage that failed. No more than eleven requests are sent: the history grows by those of
them that are answered, and no other answers of the network matter. -/
theorem load_ends_at_first_failure (net : Network) (s : Session) (requested : Option String)
    (hl : s.loader.isLoaded (s.loader.resolve requested) = false) :
    let l := s.loader.resolve requested
    let base := s.loader.base
    let progress := (s.start requested).1
    s.load net requested = (s.start requested).2.complete net progress ∧
    ∀ t : Session,
      let result := (t.complete net progress).1
      let after := (t.complete net progress).2
      (∀ m, result = .ok m ↔ m = l ∧ ∃ c, net.DeliversUnder t.history base l c) ∧
      (∀ e, result = .error e ↔
        e.locale = l ∧ net.FirstFailureUnder t.history base l e.url e.source) ∧
      (∃ calls, after.calls = t.calls ++ calls ∧
        after.translator = calls.foldl Translator.apply t.translator ∧
        ∀ m c, .register m c ∈ calls → m = l ∧ net.DeliversUnder t.history base l c) ∧
      (∃ sent : List (History × Url), sent.length ≤ 11 ∧
        (∃ answered, after.history = t.history ++ answered ∧ answered <+: sent.map Prod.snd) ∧
        ∀ other : Network, (∀ q ∈ sent, other q.1 q.2 = net q.1 q.2) →
          t.complete other progress = t.complete net progress) := by
  intro l base progress
  refine ⟨rfl, fun t => ?_⟩
  cases hu : catalogUrl? base l with
  | none =>
    -- Without a URL the load is over before anything is sent.
    have hprogress : progress = .done (.error ⟨l, base, .unusableBase base⟩) :=
      (start_of_none hl hu).1
    have hcomplete (other : Network) :
        t.complete other progress = (.error ⟨l, base, .unusableBase base⟩, t) := by
      rw [hprogress, complete]
    simp only [hcomplete]
    refine ⟨fun m => ?_, fun e => ?_, ⟨[], by simp, rfl, by simp⟩,
      ⟨[], Nat.zero_le _, ⟨[], by simp⟩, fun _ _ => trivial⟩⟩
    · simp [Network.not_deliversUnder_of_none hu]
    · rw [Network.firstFailureUnder_iff_of_none hu, Except.error.injEq]
      constructor
      · rintro rfl
        exact ⟨rfl, rfl, rfl⟩
      · rintro ⟨hlocale, hurl, hsource⟩
        rw [← hlocale, ← hsource, ← hurl]
  | some u =>
    -- The load waits for the reply to one fetch, whose stages decide on its end.
    have hprogress : progress = .pending ⟨l, u⟩ := (start_of_some hl hu).1
    have hcomplete (other : Network) :
        t.complete other progress = t.receive ⟨l, u⟩ (other.reply t.history u.render) := by
      rw [hprogress, complete_pending]
    simp only [hcomplete]
    refine ⟨fun m => ?_, fun e => ?_, ?_, ?_⟩
    · rw [receive_eq_ok_iff]
      simp only [Network.deliversUnder_iff_of_some hu]
    · rw [receive_eq_error_iff, Network.firstFailureUnder_iff_of_some hu]
    · obtain ⟨calls, hcalls, htranslator, hregisters⟩ :=
        t.exists_calls_receive ⟨l, u⟩ (net.reply t.history u.render)
      refine ⟨calls, hcalls, htranslator, fun m c hcall => ?_⟩
      rw [Network.deliversUnder_iff_of_some hu]
      exact hregisters m c hcall
    · obtain ⟨sent, hlength, ⟨answered, hhistory, hprefix⟩, hagree⟩ :=
        net.exists_requests t.history u.render
      refine ⟨sent, hlength, ⟨answered, ?_, hprefix⟩, fun other h => ?_⟩
      · rw [history_receive, Network.reply, hhistory, List.drop_left]
      · rw [Network.reply, Network.reply, hagree other h]

/-- The server sends every client back to where the client already is: French is not loaded, and the
client gives up after eleven requests at most. -/
theorem load_ends_at_first_failure_cycle :
    let moved : Response := { status := 302, location := some (Utf8.ofString "/locales/fr.json") }
    let base : Url := Course.englishSession.loader.base
    let u : Url := { base with path := .segments ["locales", "fr.json"] }
    let loaded := Course.englishSession.load (fun _ _ => .ok moved) (some "fr")
    loaded.1 = .error ⟨⟨"fr"⟩, u, .request (.redirectLimit u)⟩ ∧ loaded.2.history.length ≤ 11 := by
  intro moved base u loaded
  let net : Network := fun _ _ => .ok moved
  have hparse : Url.parse u.render = .ok u := Except.toOption_eq_some_iff.mp (by decide +kernel)
  have hasked : u.CanBeAsked := ⟨by decide +kernel, by decide +kernel, by decide +kernel⟩
  have hrequest : u.forRequest = u := by decide +kernel
  have hanswer (h : History) : net h u = .ok moved := rfl
  have hcycle : net.FailsWithin maxRedirects [] u.forRequest (.redirectLimit u) := by
    rw [hrequest]
    exact Network.failsWithin_of_cycle hanswer (by decide +kernel) hasked.2.1 maxRedirects []
  have hfails : net.FirstFailureUnder [] base ⟨"fr"⟩ u (.request (.redirectLimit u)) :=
    .fetch (by decide +kernel) (.request (.following hparse hasked hcycle))
  obtain ⟨hload, hstages⟩ :=
    load_ends_at_first_failure net Course.englishSession (some "fr") (by decide +kernel)
  obtain ⟨-, herror, -, sent, hsent, ⟨answered, hhistory, hprefix⟩, -⟩ :=
    hstages (Course.englishSession.start (some "fr")).2
  have hanswered : answered.length ≤ 11 := by
    have hle := hprefix.length_le
    rw [List.length_map] at hle
    exact Nat.le_trans hle hsent
  have hloaded : loaded = _ := hload
  rw [hloaded]
  constructor
  · exact (herror ⟨⟨"fr"⟩, u, .request (.redirectLimit u)⟩).mpr ⟨rfl, hfails⟩
  · rw [hhistory]
    exact hanswered

end Session

end Phrasebook
