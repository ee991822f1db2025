import Phrasebook.Fetch.Catalog

/-!
# How a fetch ends

Redirects lead a client from URL to URL. After ten of them at most it has a response that sends it
no further, or it has failed: there is an outage, the eleventh answer is one more redirect, or a
redirect leaves the web. A fetch goes through stages in order (the URL can be asked for, a response
comes in the end, its status is a success, its body is complete, the body is a catalog), and its
error is that of the first stage that fails. However the servers answer, no more than eleven
requests are sent.
-/

namespace Phrasebook

/-- A URL can be asked for: it has a host, it is of the web, and a request can hold it. -/
def Url.CanBeAsked (u : Url) : Prop :=
  u.host? ≠ none ∧ u.isWeb = true ∧ u.forRequest.isSendable = true

namespace Network

variable {net : Network} {left : Nat} {h : History} {u : Url}

/-- Redirects lead from a URL to another one, each of them to a URL of the web. The requests on the
way are put behind the history. -/
inductive Leads (net : Network) : Nat → History → Url → History → Url → Prop
  | here (h : History) (u : Url) : Leads net 0 h u h u
  | hop {n : Nat} {h h' : History} {u v target : Url} {r : Response} (hanswer : net h u = .ok r)
      (htarget : r.target? u = some target) (hweb : target.isWeb = true)
      (hrest : Leads net n (h ++ [u]) target h' v) : Leads net (n + 1) h u h' v

/-- A client that follows some redirects at most gets a response that sends it no further. -/
def RespondsWithin (net : Network) (left : Nat) (h : History) (u : Url) (r : Response) : Prop :=
  ∃ n ≤ left, ∃ h' v, net.Leads n h u h' v ∧ net h' v = .ok r ∧ r.target? v = none

/-- Why a client that follows some redirects at most gets no such response. -/
inductive FailsWithin (net : Network) (left : Nat) (h : History) (u : Url) : RequestError → Prop
  | outage {n : Nat} {h' : History} {v : Url} {cause : Outage} (hn : n ≤ left)
      (hleads : net.Leads n h u h' v) (hcause : net h' v = .error cause) :
      FailsWithin net left h u (.outage v cause)
  | limit {h' : History} {v target : Url} {r : Response} (hleads : net.Leads left h u h' v)
      (hanswer : net h' v = .ok r) (htarget : r.target? v = some target) :
      FailsWithin net left h u (.redirectLimit v)
  | foreign {n : Nat} {h' : History} {v target : Url} {r : Response} (hn : n < left)
      (hleads : net.Leads n h u h' v) (hanswer : net h' v = .ok r)
      (htarget : r.target? v = some target) (hweb : target.isWeb = false) :
      FailsWithin net left h u (.unsupported target)

/-! ### One answer -/

/-- An outage ends the way. The request counts among those that were sent unless no server was
reached. -/
theorem follow_of_outage {cause : Outage} (hcause : net h u = .error cause) :
    net.follow left h u =
      (.error (.outage u cause), if cause = .unreachable then h else h ++ [u]) := by
  rw [follow, hcause]
  cases cause <;> rfl

/-- A response that sends the client no further ends the way. -/
theorem follow_of_response {r : Response} (hanswer : net h u = .ok r)
    (htarget : r.target? u = none) : net.follow left h u = (.ok r, h ++ [u]) := by
  rw [follow, hanswer]
  simp only [htarget]

/-- If no redirect is left, one more is over the limit. -/
theorem follow_zero_of_redirect {r : Response} {target : Url} (hanswer : net h u = .ok r)
    (htarget : r.target? u = some target) :
    net.follow 0 h u = (.error (.redirectLimit u), h ++ [u]) := by
  rw [follow, hanswer]
  simp only [htarget]

/-- If a redirect is left, the client follows it to a URL of the web, and to no other one. -/
theorem follow_succ_of_redirect {r : Response} {target : Url} (hanswer : net h u = .ok r)
    (htarget : r.target? u = some target) :
    net.follow (left + 1) h u =
      if target.isWeb then net.follow left (h ++ [u]) target
      else (.error (.unsupported target), h ++ [u]) := by
  rw [follow, hanswer]
  simp only [htarget]
  cases target.isWeb <;> rfl

/-! ### All answers -/

/-- Where redirects lead, following goes on with as many redirects less. -/
theorem follow_of_leads {n : Nat} {h' : History} {v : Url} (hleads : net.Leads n h u h' v)
    (left : Nat) : net.follow (n + left) h u = net.follow left h' v := by
  induction hleads with
  | here => rw [Nat.zero_add]
  | @hop n _ _ _ _ _ _ hanswer htarget hweb _ ih =>
    rw [Nat.add_right_comm, follow_succ_of_redirect hanswer htarget, if_pos hweb, ih]

/-- Where redirects lead, following goes on with those that are left over. -/
theorem follow_of_leads_le {n : Nat} {h' : History} {v : Url} (hleads : net.Leads n h u h' v)
    (hn : n ≤ left) : net.follow left h u = net.follow (left - n) h' v := by
  rw [← follow_of_leads hleads, Nat.add_sub_cancel' hn]

/-- A client whom redirects lead to a response gets this response. -/
theorem follow_of_respondsWithin {r : Response} (hr : net.RespondsWithin left h u r) :
    (net.follow left h u).1 = .ok r := by
  obtain ⟨n, hn, h', v, hleads, hanswer, htarget⟩ := hr
  rw [follow_of_leads_le hleads hn, follow_of_response hanswer htarget]

/-- A client who fails gets the error that says why. -/
theorem follow_of_failsWithin {e : RequestError} (he : net.FailsWithin left h u e) :
    (net.follow left h u).1 = .error e := by
  cases he with
  | outage hn hleads hcause => rw [follow_of_leads_le hleads hn, follow_of_outage hcause]
  | limit hleads hanswer htarget =>
    rw [follow_of_leads_le hleads (Nat.le_refl left), Nat.sub_self,
      follow_zero_of_redirect hanswer htarget]
  | @foreign n _ _ _ _ hn hleads hanswer htarget hweb =>
    obtain ⟨more, rfl⟩ := Nat.exists_eq_add_of_lt hn
    rw [Nat.add_assoc, follow_of_leads hleads, follow_succ_of_redirect hanswer htarget,
      if_neg (by simp [hweb])]

section Hop

variable {target : Url} {r : Response} (hanswer : net h u = .ok r)
  (htarget : r.target? u = some target) (hweb : target.isWeb = true)

include hanswer htarget hweb

/-- One more redirect in front leads to the same response, if one more may be followed. -/
theorem RespondsWithin.hop {r' : Response}
    (hr : net.RespondsWithin left (h ++ [u]) target r') : net.RespondsWithin (left + 1) h u r' := by
  obtain ⟨n, hn, h', v, hleads, hend⟩ := hr
  exact ⟨n + 1, Nat.succ_le_succ hn, h', v, .hop hanswer htarget hweb hleads, hend⟩

/-- One more redirect in front leads to the same failure, if one more may be followed. -/
theorem FailsWithin.hop {e : RequestError} (he : net.FailsWithin left (h ++ [u]) target e) :
    net.FailsWithin (left + 1) h u e := by
  cases he with
  | outage hn hleads hcause =>
    exact .outage (Nat.succ_le_succ hn) (.hop hanswer htarget hweb hleads) hcause
  | limit hleads hend hnext => exact .limit (.hop hanswer htarget hweb hleads) hend hnext
  | foreign hn hleads hend hnext hforeign =>
    exact .foreign (Nat.succ_lt_succ hn) (.hop hanswer htarget hweb hleads) hend hnext hforeign

end Hop

/-- A URL that always sends its client back to itself is asked for until no redirect is left. -/
theorem failsWithin_of_cycle {r : Response} (hanswer : ∀ h, net h u = .ok r)
    (htarget : r.target? u = some u) (hweb : u.isWeb = true) (left : Nat) (h : History) :
    net.FailsWithin left h u (.redirectLimit u) := by
  induction left generalizing h with
  | zero => exact .limit (.here h u) (hanswer h) htarget
  | succ left ih => exact (ih (h ++ [u])).hop (hanswer h) htarget hweb

/-- A client gets a response or fails. -/
theorem respondsWithin_or_failsWithin (net : Network) (left : Nat) (h : History) (u : Url) :
    (∃ r, net.RespondsWithin left h u r) ∨ ∃ e, net.FailsWithin left h u e := by
  cases hanswer : net h u with
  | error cause => exact .inr ⟨_, .outage (Nat.zero_le _) (.here h u) hanswer⟩
  | ok r =>
    cases htarget : r.target? u with
    | none => exact .inl ⟨r, 0, Nat.zero_le _, h, u, .here h u, hanswer, htarget⟩
    | some target =>
      -- The answer is a redirect, which is followed if one is left.
      cases left with
      | zero => exact .inr ⟨_, .limit (.here h u) hanswer htarget⟩
      | succ left =>
        cases hweb : target.isWeb with
        | false => exact .inr ⟨_, .foreign (Nat.succ_pos left) (.here h u) hanswer htarget hweb⟩
        | true =>
          rcases respondsWithin_or_failsWithin net left (h ++ [u]) target with ⟨r', hr'⟩ | ⟨e, he⟩
          · exact .inl ⟨r', hr'.hop hanswer htarget hweb⟩
          · exact .inr ⟨e, he.hop hanswer htarget hweb⟩

/-! ### A URL given as text -/

/-- Asking for the URL that a text gives ends with a response. -/
def Responds (net : Network) (h : History) (text : String) (r : Response) : Prop :=
  ∃ u, Url.parse text = .ok u ∧ u.CanBeAsked ∧ net.RespondsWithin maxRedirects h u.forRequest r

/-- Why asking for the URL that a text gives ends without a response. -/
inductive Fails (net : Network) (h : History) (text : String) : RequestError → Prop
  | malformedUrl {cause : UrlError} (hparse : Url.parse text = .error cause) :
      Fails net h text (.malformedUrl cause)
  | hostless {u : Url} (hparse : Url.parse text = .ok u) (hhost : u.host? = none) :
      Fails net h text (.unsupported u)
  | foreign {u : Url} (hparse : Url.parse text = .ok u) (hhost : u.host? ≠ none)
      (hweb : u.isWeb = false) : Fails net h text (.unsupported u.forRequest)
  | unsendable {u : Url} (hparse : Url.parse text = .ok u) (hhost : u.host? ≠ none)
      (hweb : u.isWeb = true) (hsend : u.forRequest.isSendable = false) :
      Fails net h text (.unsendable u.forRequest)
  | following {u : Url} {e : RequestError} (hparse : Url.parse text = .ok u) (hu : u.CanBeAsked)
      (he : net.FailsWithin maxRedirects h u.forRequest e) : Fails net h text e

variable {text : String}

/-- A URL that can be asked for is asked for in the form that a request has it in. -/
theorem get_of_canBeAsked (net : Network) (h : History) (hu : u.CanBeAsked) :
    net.get h u = net.follow maxRedirects h u.forRequest := by
  obtain ⟨hhost, hweb, hsend⟩ := hu
  rw [get, if_neg hhost, if_neg (by simp [hweb]), if_neg (by simp [hsend])]

/-- What is fetched for a text is fetched for the URL that it gives. -/
theorem fetchText_of_parse (net : Network) (h : History) (hparse : Url.parse text = .ok u) :
    net.fetchText h text = net.fetch h u := by
  rw [fetchText, hparse]

/-- A fetch whose request fails has the error of the request. -/
theorem fetch_of_get_error {e : RequestError} (he : (net.get h u).1 = .error e) :
    (net.fetch h u).1 = .error (.request e) := by
  unfold fetch
  split <;> simp_all

/-- A fetch whose request is answered has what the response gives. -/
theorem fetch_of_get_ok {r : Response} (hr : (net.get h u).1 = .ok r) :
    (net.fetch h u).1 = r.catalog := by
  unfold fetch
  split <;> simp_all

/-- The requests of a fetch are those of its one request for the URL and the redirects behind. -/
theorem history_fetch (net : Network) (h : History) (u : Url) :
    (net.fetch h u).2 = (net.get h u).2 := by
  unfold fetch
  split <;> simp_all

/-- A fetch that gets a response ends with the catalog in it, or with the error of the response. -/
theorem fetchText_of_responds {r : Response} (hr : net.Responds h text r) :
    (net.fetchText h text).1 = r.catalog := by
  obtain ⟨u, hparse, hu, hr⟩ := hr
  rw [fetchText_of_parse net h hparse]
  exact fetch_of_get_ok (by rw [get_of_canBeAsked net h hu, follow_of_respondsWithin hr])

/-- A fetch that gets no response ends with the reason. -/
theorem fetchText_of_fails {e : RequestError} (he : net.Fails h text e) :
    (net.fetchText h text).1 = .error (.request e) := by
  cases he with
  | malformedUrl hparse => rw [fetchText, hparse]
  | hostless hparse hhost =>
    rw [fetchText_of_parse net h hparse]
    exact fetch_of_get_error (by rw [get, if_pos hhost])
  | foreign hparse hhost hweb =>
    rw [fetchText_of_parse net h hparse]
    exact fetch_of_get_error (by rw [get, if_neg hhost, if_pos (by simp [hweb])])
  | unsendable hparse hhost hweb hsend =>
    rw [fetchText_of_parse net h hparse]
    exact fetch_of_get_error
      (by rw [get, if_neg hhost, if_neg (by simp [hweb]), if_pos (by simp [hsend])])
  | following hparse hu he =>
    rw [fetchText_of_parse net h hparse]
    exact fetch_of_get_error (by rw [get_of_canBeAsked net h hu, follow_of_failsWithin he])

/-- Asking for the URL that a text gives ends in one of the two ways. -/
theorem responds_or_fails (net : Network) (h : History) (text : String) :
    (∃ r, net.Responds h text r) ∨ ∃ e, net.Fails h text e := by
  cases hparse : Url.parse text with
  | error cause => exact .inr ⟨_, .malformedUrl hparse⟩
  | ok u =>
    by_cases hhost : u.host? = none
    · exact .inr ⟨_, .hostless hparse hhost⟩
    cases hweb : u.isWeb with
    | false => exact .inr ⟨_, .foreign hparse hhost hweb⟩
    | true =>
      cases hsend : u.forRequest.isSendable with
      | false => exact .inr ⟨_, .unsendable hparse hhost hweb hsend⟩
      | true =>
        have hu : u.CanBeAsked := ⟨hhost, hweb, hsend⟩
        rcases respondsWithin_or_failsWithin net maxRedirects h u.forRequest with
          ⟨r, hr⟩ | ⟨e, he⟩
        · exact .inl ⟨r, u, hparse, hu, hr⟩
        · exact .inr ⟨e, .following hparse hu he⟩

/-! ### The stages of a fetch -/

/-- All stages of a fetch succeed: a response comes in the end, its status is a success (a code from
200 up to 299), its body arrives to the end, and the body is a catalog. -/
def Delivers (net : Network) (h : History) (text : String) (c : Catalog) : Prop :=
  ∃ r, net.Responds h text r ∧ (200 ≤ r.status ∧ r.status < 300) ∧ r.isComplete = true ∧
    Catalog.ofBytes r.body = .ok c

/-- The stages of a fetch before one succeed, and that one fails. -/
inductive FirstFailure (net : Network) (h : History) (text : String) : FetchError → Prop
  | request {e : RequestError} (he : net.Fails h text e) : FirstFailure net h text (.request e)
  | status {r : Response} (hr : net.Responds h text r)
      (hstatus : ¬(200 ≤ r.status ∧ r.status < 300)) : FirstFailure net h text (.status r.status)
  | body {r : Response} (hr : net.Responds h text r) (hstatus : 200 ≤ r.status ∧ r.status < 300)
      (hcomplete : r.isComplete = false) : FirstFailure net h text (.request .brokenBody)
  | parse {r : Response} {e : Json.Error} (hr : net.Responds h text r)
      (hstatus : 200 ≤ r.status ∧ r.status < 300) (hcomplete : r.isComplete = true)
      (hparse : Catalog.ofBytes r.body = .error e) : FirstFailure net h text (.malformed e)

/-- If all stages succeed, the fetch brings the catalog. -/
theorem fetchText_of_delivers {c : Catalog} (hc : net.Delivers h text c) :
    (net.fetchText h text).1 = .ok c := by
  obtain ⟨r, hr, hstatus, hcomplete, hparse⟩ := hc
  have hsuccess := Status.isSuccess_iff.mpr hstatus
  rw [fetchText_of_responds hr, Response.catalog, if_neg (by simp [hsuccess]),
    if_neg (by simp [hcomplete]), hparse]
  rfl

/-- If a stage is the first to fail, the fetch ends with its error. -/
theorem fetchText_of_firstFailure {e : FetchError} (he : net.FirstFailure h text e) :
    (net.fetchText h text).1 = .error e := by
  cases he with
  | request he => exact fetchText_of_fails he
  | status hr hstatus =>
    rw [fetchText_of_responds hr, Response.catalog, if_pos (mt Status.isSuccess_iff.mp hstatus)]
  | body hr hstatus hcomplete =>
    have hsuccess := Status.isSuccess_iff.mpr hstatus
    rw [fetchText_of_responds hr, Response.catalog, if_neg (by simp [hsuccess]),
      if_pos (by simp [hcomplete])]
  | parse hr hstatus hcomplete hparse =>
    have hsuccess := Status.isSuccess_iff.mpr hstatus
    rw [fetchText_of_responds hr, Response.catalog, if_neg (by simp [hsuccess]),
      if_neg (by simp [hcomplete]), hparse]
    rfl

/-- All stages succeed, or there is one that fails first. -/
theorem delivers_or_firstFailure (net : Network) (h : History) (text : String) :
    (∃ c, net.Delivers h text c) ∨ ∃ e, net.FirstFailure h text e := by
  rcases responds_or_fails net h text with ⟨r, hr⟩ | ⟨e, he⟩
  · by_cases hstatus : 200 ≤ r.status ∧ r.status < 300
    · cases hcomplete : r.isComplete with
      | false => exact .inr ⟨_, .body hr hstatus hcomplete⟩
      | true =>
        cases hparse : Catalog.ofBytes r.body with
        | error e => exact .inr ⟨_, .parse hr hstatus hcomplete hparse⟩
        | ok c => exact .inl ⟨c, r, hr, hstatus, hcomplete, hparse⟩
    · exact .inr ⟨_, .status hr hstatus⟩
  · exact .inr ⟨_, .request he⟩

/-- A fetch brings a catalog exactly if all its stages succeed. -/
theorem fetchText_eq_ok_iff {c : Catalog} :
    (net.fetchText h text).1 = .ok c ↔ net.Delivers h text c := by
  refine ⟨fun hok => ?_, fetchText_of_delivers⟩
  rcases delivers_or_firstFailure net h text with ⟨c', hc⟩ | ⟨e, he⟩
  · rw [fetchText_of_delivers hc, Except.ok.injEq] at hok
    exact hok ▸ hc
  · rw [fetchText_of_firstFailure he] at hok
    cases hok

/-- The error of a fetch is that of the first stage that fails. -/
theorem fetchText_eq_error_iff {e : FetchError} :
    (net.fetchText h text).1 = .error e ↔ net.FirstFailure h text e := by
  refine ⟨fun herror => ?_, fetchText_of_firstFailure⟩
  rcases delivers_or_firstFailure net h text with ⟨c, hc⟩ | ⟨e', he⟩
  · rw [fetchText_of_delivers hc] at herror
    cases herror
  · rw [fetchText_of_firstFailure he, Except.error.injEq] at herror
    exact herror ▸ he

/-! ### How many requests are sent -/

/-- The requests of a client that follows some redirects at most, each with the history before it,
whether or not an answer comes. -/
def requests (net : Network) : Nat → History → Url → List (History × Url)
  | 0, h, u => [(h, u)]
  | left + 1, h, u =>
    (h, u) ::
      match net h u with
      | .error _ => []
      | .ok r =>
        match r.target? u with
        | some target => if target.isWeb then requests net left (h ++ [u]) target else []
        | none => []

/-- The client asks for the URL that it is given, whatever comes of it. -/
theorem first_mem_requests (net : Network) (left : Nat) (h : History) (u : Url) :
    (h, u) ∈ net.requests left h u := by
  cases left <;> exact List.mem_cons_self

/-- Behind a redirect that is followed come the requests from its target on. -/
theorem requests_succ_of_redirect {r : Response} {target : Url} (hanswer : net h u = .ok r)
    (htarget : r.target? u = some target) (hweb : target.isWeb = true) :
    net.requests (left + 1) h u = (h, u) :: net.requests left (h ++ [u]) target := by
  rw [requests, hanswer]
  simp only [htarget, hweb, if_true]

/-- There is one request for each redirect that may be followed, and one more, at most. -/
theorem length_requests_le (net : Network) (left : Nat) (h : History) (u : Url) :
    (net.requests left h u).length ≤ left + 1 := by
  induction left generalizing h u with
  | zero => exact Nat.le_refl 1
  | succ left ih =>
    rw [requests, List.length_cons]
    refine Nat.succ_le_succ ?_
    split
    · exact Nat.zero_le _
    · split
      · split
        · exact ih _ _
        · exact Nat.zero_le _
      · exact Nat.zero_le _

/-- Following looks at no other answers than those to its requests. -/
theorem follow_congr {net other : Network} {left : Nat} {h : History} {u : Url}
    (hagree : ∀ q ∈ net.requests left h u, other q.1 q.2 = net q.1 q.2) :
    other.follow left h u = net.follow left h u := by
  have hfirst : other h u = net h u := hagree (h, u) (net.first_mem_requests left h u)
  cases hanswer : net h u with
  | error cause =>
    rw [hanswer] at hfirst
    rw [follow_of_outage hfirst, follow_of_outage hanswer]
  | ok r =>
    rw [hanswer] at hfirst
    cases htarget : r.target? u with
    | none => rw [follow_of_response hfirst htarget, follow_of_response hanswer htarget]
    | some target =>
      cases left with
      | zero => rw [follow_zero_of_redirect hfirst htarget, follow_zero_of_redirect hanswer htarget]
      | succ left =>
        rw [follow_succ_of_redirect hfirst htarget, follow_succ_of_redirect hanswer htarget]
        cases hweb : target.isWeb with
        | false => rfl
        | true =>
          rw [if_pos rfl, if_pos rfl]
          refine follow_congr fun q hq => hagree q ?_
          rw [requests_succ_of_redirect hanswer htarget hweb]
          exact List.mem_cons_of_mem _ hq

/-- The requests of a client that were answered are put behind the history: all of them, or all but
the last one. -/
theorem exists_answered (net : Network) (left : Nat) (h : History) (u : Url) :
    ∃ answered, (net.follow left h u).2 = h ++ answered ∧
      answered <+: (net.requests left h u).map Prod.snd := by
  have hone : [u] <+: (net.requests left h u).map Prod.snd := by
    cases left <;> exact List.prefix_append [u] _
  cases hanswer : net h u with
  | error cause =>
    rw [follow_of_outage hanswer]
    cases cause with
    | unreachable => exact ⟨[], (List.append_nil h).symm, List.nil_prefix⟩
    | dropped => exact ⟨[u], rfl, hone⟩
  | ok r =>
    cases htarget : r.target? u with
    | none =>
      rw [follow_of_response hanswer htarget]
      exact ⟨[u], rfl, hone⟩
    | some target =>
      cases left with
      | zero =>
        rw [follow_zero_of_redirect hanswer htarget]
        exact ⟨[u], rfl, hone⟩
      | succ left =>
        rw [follow_succ_of_redirect hanswer htarget]
        cases hweb : target.isWeb with
        | false => exact ⟨[u], rfl, hone⟩
        | true =>
          obtain ⟨answered, hhistory, hprefix⟩ := exists_answered net left (h ++ [u]) target
          rw [requests_succ_of_redirect hanswer htarget hweb, if_pos rfl, hhistory]
          exact ⟨u :: answered, by simp, by simpa using hprefix⟩

/-- Where there is nothing to ask for, a fetch fails alike over every network and leaves the history
as it is. -/
theorem exists_fetchText_eq_error (hasked : ¬∃ u, Url.parse text = .ok u ∧ u.CanBeAsked) :
    ∃ e, ∀ (net : Network) (h : History), net.fetchText h text = (.error e, h) := by
  cases hparse : Url.parse text with
  | error cause => exact ⟨_, fun net h => by rw [fetchText, hparse]⟩
  | ok u =>
    have hget : ∃ e, ∀ (net : Network) (h : History), net.get h u = (.error e, h) := by
      by_cases hhost : u.host? = none
      · exact ⟨_, fun net h => if_pos hhost⟩
      by_cases hweb : u.isWeb = true
      · have hsend : u.forRequest.isSendable ≠ true :=
          fun hsend => hasked ⟨u, hparse, hhost, hweb, hsend⟩
        exact ⟨_, fun net h => by
          rw [get, if_neg hhost, if_neg (Classical.not_not.mpr hweb), if_pos hsend]⟩
      · exact ⟨_, fun net h => by rw [get, if_neg hhost, if_pos hweb]⟩
    obtain ⟨e, he⟩ := hget
    exact ⟨.request e, fun net h => by rw [fetchText_of_parse net h hparse, fetch, he net h]⟩

/-- The requests of a fetch are eleven at most. The history grows by those that are answered, and
nothing hangs on other answers than those to the requests. -/
theorem exists_requests (net : Network) (h : History) (text : String) :
    ∃ sent : List (History × Url), sent.length ≤ maxRedirects + 1 ∧
      (∃ answered, (net.fetchText h text).2 = h ++ answered ∧ answered <+: sent.map Prod.snd) ∧
      ∀ other : Network, (∀ q ∈ sent, other q.1 q.2 = net q.1 q.2) →
        other.fetchText h text = net.fetchText h text := by
  by_cases hasked : ∃ u, Url.parse text = .ok u ∧ u.CanBeAsked
  · obtain ⟨u, hparse, hu⟩ := hasked
    refine ⟨net.requests maxRedirects h u.forRequest, net.length_requests_le _ _ _, ?_, ?_⟩
    · obtain ⟨answered, hhistory, hprefix⟩ :=
        net.exists_answered maxRedirects h u.forRequest
      refine ⟨answered, ?_, hprefix⟩
      rw [fetchText_of_parse net h hparse, history_fetch, get_of_canBeAsked net h hu, hhistory]
    · intro other hagree
      rw [fetchText_of_parse other h hparse, fetchText_of_parse net h hparse, fetch, fetch,
        get_of_canBeAsked other h hu, get_of_canBeAsked net h hu, follow_congr hagree]
  · obtain ⟨e, he⟩ := exists_fetchText_eq_error hasked
    refine ⟨[], Nat.zero_le _, ⟨[], ?_, List.nil_prefix⟩, fun other _ => ?_⟩
    · rw [he net h, List.append_nil]
    · rw [he other h, he net h]

end Network

end Phrasebook
