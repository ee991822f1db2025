import Phrasebook.Proofs.Fetch.Redirects
import Phrasebook.Proofs.Session.Course

/-!
# Loads over a network

A network replies to each fetch, and with its replies the loads of a session are a course: the
joined loads begin one after the other, under their places in the list as tickets, and the answers
come in the same order. So what is proved about courses holds of `Session.load` and
`Session.loadAll`, where the order of the answers is only one of many.
-/

namespace Phrasebook

namespace Network

/-- What a network replies to a fetch, after the requests of a history. -/
def reply (net : Network) (h : History) (url : String) : Reply where
  answer := (net.fetchText h url).1
  requests := (net.fetchText h url).2.drop h.length

/-- A fetch is its reply: the answer, and the requests behind those of the history. -/
theorem fetchText_eq_reply (net : Network) (h : History) (url : String) :
    net.fetchText h url = ((net.reply h url).answer, h ++ (net.reply h url).requests) := by
  obtain ⟨-, -, ⟨answered, hhistory, -⟩, -⟩ := net.exists_requests h url
  rw [reply, hhistory, List.drop_left, ← hhistory]

end Network

namespace Session

/-- A load that waits takes the reply to one fetch of its URL. -/
theorem complete_pending (net : Network) (s : Session) (p : PendingLoad) :
    s.complete net (.pending p) = s.receive p (net.reply s.history p.url.render) := by
  rw [complete, net.fetchText_eq_reply]
  rfl

/-- The first load is completed where the session is, and the others from there on. -/
theorem completeAll_cons (net : Network) (s : Session) (p : Progress) (rest : List Progress) :
    s.completeAll net (p :: rest) =
      ((s.complete net p).1 :: ((s.complete net p).2.completeAll net rest).1,
        ((s.complete net p).2.completeAll net rest).2) := by
  rw [completeAll]

end Session

namespace Course

/-- The steps that begin some loads, under their places as tickets, the first of which is `n`. -/
def starts : Nat → List (Option String) → List Step
  | _, [] => []
  | n, requested :: rest => .start n requested :: starts (n + 1) rest

/-- The loads that wait after some have begun. -/
def pendings : Nat → List Progress → List (Nat × PendingLoad)
  | _, [] => []
  | n, .done _ :: rest => pendings (n + 1) rest
  | n, .pending p :: rest => (n, p) :: pendings (n + 1) rest

/-- The answers of a network to the loads that wait, in order. -/
def finishes (net : Network) : Nat → Session → List Progress → List Step
  | _, _, [] => []
  | n, s, .done _ :: rest => finishes net (n + 1) s rest
  | n, s, .pending p :: rest =>
    .finish n (net.reply s.history p.url.render) ::
      finishes net (n + 1) (s.complete net (.pending p)).2 rest

/-- The results of the loads that are over at once, by ticket. -/
def dones : Nat → List Progress → List (Nat × LoadResult)
  | _, [] => []
  | n, .done result :: rest => (n, result) :: dones (n + 1) rest
  | n, .pending _ :: rest => dones (n + 1) rest

/-- Some results under their places, the first of which is `n`. -/
def numbered : Nat → List LoadResult → List (Nat × LoadResult)
  | _, [] => []
  | n, result :: rest => (n, result) :: numbered (n + 1) rest

/-- The steps that begin loads do what `Session.startAll` does. -/
theorem run_starts (s : Session) (waiting : List (Nat × PendingLoad)) (n : Nat)
    (requests : List (Option String)) :
    (⟨s, waiting⟩ : Course).run (starts n requests) =
        ⟨(s.startAll requests).2, waiting ++ pendings n (s.startAll requests).1⟩ ∧
      returns ((⟨s, waiting⟩ : Course).trace (starts n requests)) =
        dones n (s.startAll requests).1 := by
  induction requests generalizing s waiting n with
  | nil => simp [starts, pendings, dones, Session.startAll]
  | cons requested rest ih =>
    cases hs : s.start requested with
    | mk progress s' =>
      cases progress with
      | done result =>
        have hstep : (⟨s, waiting⟩ : Course).step (.start n requested) =
            (.returned n result, ⟨s', waiting⟩) := by rw [step, hs]
        simp [starts, next, seen, hstep, ih, Session.startAll, hs, pendings, dones, returns_cons,
          result?]
      | pending p =>
        have hstep : (⟨s, waiting⟩ : Course).step (.start n requested) =
            (.asked n p, ⟨s', waiting ++ [(n, p)]⟩) := by rw [step, hs]
        simp [starts, next, seen, hstep, ih, Session.startAll, hs, pendings, dones, returns_cons,
          result?]

/-- The replies of a network do what `Session.completeAll` does, and every load shows its result
under its ticket, when it begins or when its answer comes. -/
theorem run_finishes (net : Network) (s : Session) (n : Nat) (progress : List Progress) :
    (⟨s, pendings n progress⟩ : Course).run (finishes net n s progress) =
        ⟨(s.completeAll net progress).2, []⟩ ∧
      (dones n progress ++
          returns ((⟨s, pendings n progress⟩ : Course).trace (finishes net n s progress))).Perm
        (numbered n (s.completeAll net progress).1) := by
  induction progress generalizing s n with
  | nil => simp [finishes, pendings, dones, numbered, Session.completeAll]
  | cons first rest ih =>
    cases first with
    | done result =>
      obtain ⟨hrun, hreturns⟩ := ih s (n + 1)
      exact ⟨hrun, hreturns.cons (n, result)⟩
    | pending p =>
      obtain ⟨hrun, hreturns⟩ := ih (s.complete net (.pending p)).2 (n + 1)
      have hstep : (⟨s, pendings n (.pending p :: rest)⟩ : Course).step
          (.finish n (net.reply s.history p.url.render)) =
            (.returned n (s.complete net (.pending p)).1,
              ⟨(s.complete net (.pending p)).2, pendings (n + 1) rest⟩) := by
        simp [step, pendings, s.complete_pending net p]
      rw [finishes, run_cons, trace_cons, next, seen, hstep, s.completeAll_cons]
      exact ⟨hrun, List.perm_middle.trans (hreturns.cons _)⟩

/-- Joined loads over a network are a course, at whose end no load waits, and each load shows its
result once, under its place in the list. -/
theorem run_joined (net : Network) (s : Session) (requests : List (Option String)) :
    let steps := starts 0 requests ++
      finishes net 0 (s.startAll requests).2 (s.startAll requests).1
    (⟨s, []⟩ : Course).run steps = ⟨(s.loadAll net requests).2, []⟩ ∧
      (returns ((⟨s, []⟩ : Course).trace steps)).Perm
        (numbered 0 (s.loadAll net requests).1) := by
  intro steps
  obtain ⟨hstarts, hdones⟩ := run_starts s [] 0 requests
  obtain ⟨hfinishes, hperm⟩ := run_finishes net (s.startAll requests).2 0 (s.startAll requests).1
  rw [List.nil_append] at hstarts
  constructor
  · rw [run_append, hstarts, hfinishes]
    rfl
  · have hsplit : returns ((⟨s, []⟩ : Course).trace steps) =
        dones 0 (s.startAll requests).1 ++ returns (Course.trace
          ⟨(s.startAll requests).2, pendings 0 (s.startAll requests).1⟩
          (finishes net 0 (s.startAll requests).2 (s.startAll requests).1)) := by
      rw [← hdones, ← hstarts, trace_append]
      exact returns_append _ _
    rw [hsplit]
    exact hperm

end Course

end Phrasebook
