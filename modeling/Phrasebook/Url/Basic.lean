import Phrasebook.Url.Host

/-!
# URLs

A URL has its parts in their written form, percent-encoded where they need it. The path is a list
of segments, each behind a slash, or one opaque text, behind which nothing can be appended.
-/

namespace Phrasebook

/-- Who is asked: a host, at a number of its own if one is given, by a user. -/
structure Authority where
  userName : String := ""
  password : Option String := none
  host : Option Host := none
  portNumber : Option Nat := none
  deriving DecidableEq

/-- The path of a URL. -/
inductive UrlPath
  /-- Segments, each with a slash in front. -/
  | segments (names : List String)
  | opaqueText (text : String)
  deriving DecidableEq, Repr

/-- A URL. -/
structure Url where
  scheme : String
  authority : Option Authority
  path : UrlPath
  query : Option String
  fragment : Option String
  /-- Whether a dot stands before the path, so that two slashes at its front do not read as the
  start of an authority. -/
  isGuarded : Bool := false
  deriving DecidableEq

/-- How a URL is read depends on its scheme. -/
inductive SchemeKind
  | file
  /-- The schemes of the web, whose URLs have a host and take a backslash for a slash. -/
  | special
  | plain
  deriving DecidableEq, Repr

namespace SchemeKind

/-- The kind of a scheme. -/
def ofScheme (scheme : String) : SchemeKind :=
  if scheme = "file" then .file
  else if scheme ∈ ["http", "https", "ws", "wss", "ftp"] then .special
  else .plain

/-- Whether a backslash counts as a slash. -/
def isSpecial (k : SchemeKind) : Bool := k ≠ .plain

end SchemeKind

/-- The number that a scheme implies. -/
def impliedPortNumber? (scheme : String) : Option Nat :=
  if scheme = "http" ∨ scheme = "ws" then some 80
  else if scheme = "https" ∨ scheme = "wss" then some 443
  else if scheme = "ftp" then some 21
  else none

/-- User name and password with the sign behind them. -/
def Authority.renderUser (a : Authority) : String :=
  match a.password with
  | some p => a.userName ++ ":" ++ p ++ "@"
  | none => if a.userName = "" then "" else a.userName ++ "@"

/-- An authority as it stands in a URL. -/
def Authority.render (a : Authority) : String :=
  a.renderUser ++ (a.host.map Host.render).getD "" ++
    (match a.portNumber with
    | some p => ":" ++ toString p
    | none => "")

/-- A path as it stands in a URL. -/
def UrlPath.render : UrlPath → String
  | .segments names => String.join (names.map ("/" ++ ·))
  | .opaqueText text => text

namespace Url

/-- The part between scheme and path. -/
def renderAuthority (u : Url) : String :=
  match u.authority with
  | some a => "//" ++ a.render
  | none => if u.isGuarded then "/." else ""

/-- A URL as text. -/
def render (u : Url) : String :=
  u.scheme ++ ":" ++ u.renderAuthority ++ u.path.render ++
    (match u.query with
    | some q => "?" ++ q
    | none => "") ++
    (match u.fragment with
    | some f => "#" ++ f
    | none => "")

/-- The host of a URL. -/
def host? (u : Url) : Option Host := u.authority.bind (·.host)

/-- The kind of the scheme of a URL. -/
def kind (u : Url) : SchemeKind := .ofScheme u.scheme

/-- Whether nothing can be appended to the path: it is opaque, or there is nothing behind the
scheme. -/
def cannotBeBase (u : Url) : Bool :=
  match u.authority, u.path with
  | some _, _ => false
  | none, .segments names => names.isEmpty
  | none, .opaqueText _ => true

/-- The URL without user name and password. -/
def withoutUser (u : Url) : Url :=
  { u with authority := u.authority.map fun a => { a with userName := "", password := none } }

end Url

end Phrasebook
