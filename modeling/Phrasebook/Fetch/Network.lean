import Phrasebook.Fetch.Error
import Phrasebook.Url.Resolve

/-!
# Requests

A network answers a request for a URL, and its answer may depend on the requests that it has
answered before. A client follows redirects, ten at most.
-/

namespace Phrasebook

/-- What a server answers. -/
structure Response where
  status : Nat := 200
  /-- Where the client is sent on to, as the server wrote it. -/
  location : Option (List UInt8) := none
  body : List UInt8 := []
  /-- Whether the body arrives to its end. -/
  isComplete : Bool := true
  deriving DecidableEq, Repr

/-- The URLs that were asked for, the first one first. -/
abbrev History := List Url

/-- What comes back for a URL, after the requests of a history. -/
abbrev Network := History → Url → Except Outage Response

namespace Network

/-- No server can be reached. -/
def offline : Network := fun _ _ => .error .unreachable

end Network

namespace Url

/-- Whether a URL belongs to the web. -/
def isWeb (u : Url) : Bool := u.scheme = "http" || u.scheme = "https"

/-- The longest URL that can be sent, in bytes. -/
def maxSendable : Nat := 65534

/-- Whether a URL can be sent in a request: it is short enough, and its host has none of the
characters that a request line does not take. -/
def isSendable (u : Url) : Bool :=
  u.render.utf8ByteSize ≤ maxSendable &&
    ((u.host?.map Host.render).getD "").toList.all
      (fun c => c ∉ ['"', '\x60', '\x7b', '\x7d'])

/-- Whether user name and password go into a header of the request. They do if they are text and
there is something in them; otherwise they stay in the URL. -/
def hasUser (a : Authority) : Bool :=
  let text (s : String) : Option String := Utf8.toString? (Percent.decode s.toList)
  match text a.userName with
  | none => false
  | some name => name ≠ "" || (a.password.bind text).isSome

/-- The URL of a request: user name and password do not stand in it. -/
def forRequest (u : Url) : Url :=
  match u.authority with
  | some a => if hasUser a then u.withoutUser else u
  | none => u

/-- The URL as a server sees it. -/
def atServer (u : Url) : Url := { u.withoutUser with fragment := none }

end Url

/-- The most redirects that are followed. -/
def maxRedirects : Nat := 10

/-- Where a response sends the client on to. A reference that gives no URL, or none that can be
sent, is not followed. -/
def Response.target? (r : Response) (u : Url) : Option Url :=
  if Status.isRedirect r.status then
    ((r.location.bind Utf8.toString?).bind (fun reference => (u.resolve reference).toOption)).filter
      Url.isSendable
  else none

namespace Network

/-- Asks for a URL and follows up to `left` redirects. -/
def follow (net : Network) (left : Nat) (h : History) (u : Url) :
    Except RequestError Response × History :=
  match net h u with
  | .error .unreachable => (.error (.outage u .unreachable), h)
  | .error .dropped => (.error (.outage u .dropped), h ++ [u])
  | .ok r =>
    match r.target? u, left with
    | none, _ => (.ok r, h ++ [u])
    | some _, 0 => (.error (.redirectLimit u), h ++ [u])
    | some target, left + 1 =>
      if ¬ target.isWeb then (.error (.unsupported target), h ++ [u])
      else follow net left (h ++ [u]) target

/-- Asks for a URL, and for the URLs that it redirects to. -/
def get (net : Network) (h : History) (u : Url) : Except RequestError Response × History :=
  if u.host? = none then (.error (.unsupported u), h)
  else if ¬ u.isWeb then (.error (.unsupported u.forRequest), h)
  else if ¬ u.forRequest.isSendable then (.error (.unsendable u.forRequest), h)
  else net.follow maxRedirects h u.forRequest

end Network

end Phrasebook
