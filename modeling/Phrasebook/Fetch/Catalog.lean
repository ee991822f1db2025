import Phrasebook.Catalog.Text
import Phrasebook.Fetch.Network
import Phrasebook.Locale
import Phrasebook.Url.Append

/-!
# Fetching catalogs

The catalog of a locale is the file named after its code in the directory `locales` under a base
URL. A response gives a catalog if it is a success, its body arrives to the end and the body is the
JSON text of a catalog; the first of these that fails is the error.
-/

namespace Phrasebook

/-- The URL of a locale's catalog, unless nothing can be appended to the base. -/
def catalogUrl? (base : Url) (l : Locale) : Option Url :=
  base.append? ["locales", l.code ++ ".json"]

/-- The catalog in a response. -/
def Response.catalog (r : Response) : Except FetchError Catalog :=
  if ¬ Status.isSuccess r.status then .error (.status r.status)
  else if ¬ r.isComplete then .error (.request .brokenBody)
  else (Catalog.ofBytes r.body).mapError .malformed

namespace Network

/-- Fetches the catalog at a URL. -/
def fetch (net : Network) (h : History) (u : Url) : Except FetchError Catalog × History :=
  match net.get h u with
  | (.error e, h) => (.error (.request e), h)
  | (.ok r, h) => (r.catalog, h)

/-- Fetches the catalog at the URL that a text gives. -/
def fetchText (net : Network) (h : History) (text : String) :
    Except FetchError Catalog × History :=
  match Url.parse text with
  | .error e => (.error (.request (.malformedUrl e)), h)
  | .ok u => net.fetch h u

end Network

end Phrasebook
