import Phrasebook.Fetch.Status
import Phrasebook.Json.Fault
import Phrasebook.Url.Basic

/-!
# Why a catalog was not fetched

The stages of a fetch fail in this order: there is no URL for the catalog, the request or one of
its redirects fails, the status is no success, the body breaks off, the body is no catalog.
-/

namespace Phrasebook

/-- Why there is no answer from a server. -/
inductive Outage
  | unreachable
  /-- The connection was closed before an answer came. -/
  | dropped
  deriving DecidableEq, Repr

/-- The texts of an outage, from the general to the particular. A secure connection goes through a
tunnel. -/
def Outage.causes (isSecure : Bool) : Outage → List String
  | .unreachable =>
    "client error (Connect)" ::
      ((if isSecure then ["tunnel error: failed to create underlying connection"] else []) ++
        ["tcp connect error", "Network is unreachable (os error 101)"])
  | .dropped => ["client error (SendRequest)", "connection closed before message completed"]

/-- Why a request failed. -/
inductive RequestError
  /-- The text to ask for is no URL. -/
  | malformedUrl (cause : UrlError)
  /-- The URL is none of the web. -/
  | unsupported (url : Url)
  /-- The URL cannot be sent in a request. -/
  | unsendable (url : Url)
  | outage (url : Url) (cause : Outage)
  /-- The server sent the client on once more than is followed. -/
  | redirectLimit (url : Url)
  | brokenBody
  deriving DecidableEq

namespace RequestError

/-- The text of an error. -/
def message : RequestError → String
  | .malformedUrl _ => "builder error"
  | .unsupported u | .unsendable u => "builder error for url (" ++ u.render ++ ")"
  | .outage u _ => "error sending request for url (" ++ u.render ++ ")"
  | .redirectLimit u => "error following redirect for url (" ++ u.render ++ ")"
  | .brokenBody => "error decoding response body"

/-- The texts of what caused an error. -/
def causes : RequestError → List String
  | .malformedUrl e => [e.message]
  | .unsupported _ => ["URL scheme is not allowed"]
  | .unsendable _ => ["Parsed Url is not a valid Uri"]
  | .outage u cause => cause.causes (u.scheme = "https")
  | .redirectLimit _ => ["too many redirects"]
  | .brokenBody =>
    ["request or response body error", "error reading a body from connection",
      "end of file before message length reached"]

end RequestError

/-- Why there is no catalog. -/
inductive FetchError
  /-- No catalog has a URL under this base. -/
  | unusableBase (base : Url)
  | request (cause : RequestError)
  | status (code : Nat)
  | malformed (cause : Json.Error)
  deriving DecidableEq

namespace FetchError

/-- The text of an error, which ends with that of its cause. -/
def message : FetchError → String
  | .unusableBase u => "base URL " ++ u.render ++ " cannot hold catalog paths"
  | .request e => "request failed: " ++ e.message
  | .status code => "server returned " ++ Status.render code
  | .malformed e => "malformed catalog: " ++ e.message

/-- The texts of what caused an error. -/
def causes : FetchError → List String
  | .unusableBase _ => []
  | .request e => e.message :: e.causes
  | .status _ => []
  | .malformed e => [e.message]

end FetchError

end Phrasebook
