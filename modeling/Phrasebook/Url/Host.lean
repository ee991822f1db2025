import Phrasebook.Url.Domain
import Phrasebook.Url.Ipv4
import Phrasebook.Url.Ipv6
import Phrasebook.Url.Percent

/-!
# Hosts

The host of a special URL is a domain name or an address, and one that ends in a number has to be
an IPv4 address. Other URLs take any host without delimiters. Brackets hold an IPv6 address in
both.
-/

namespace Phrasebook

/-- Why a text is no URL. -/
inductive UrlError
  | emptyHost
  | malformedDomain
  | malformedPortNumber
  | malformedIpv4
  | malformedIpv6
  | forbiddenHostCharacter
  /-- The text has no scheme. -/
  | relative
  deriving DecidableEq, Repr

/-- The text of an error. -/
def UrlError.message : UrlError → String
  | .emptyHost => "empty host"
  | .malformedDomain => "invalid international domain name"
  | .malformedPortNumber => "invalid port number"
  | .malformedIpv4 => "invalid IPv4 address"
  | .malformedIpv6 => "invalid IPv6 address"
  | .forbiddenHostCharacter => "invalid domain character"
  | .relative => "relative URL without a base"

/-- Where a URL points to. -/
inductive Host
  | domain (name : String)
  | ipv4 (address : Ipv4)
  | ipv6 (address : Ipv6)
  deriving DecidableEq

namespace Host

/-- A host as it stands in a URL. -/
def render : Host → String
  | .domain name => name
  | .ipv4 a => a.render
  | .ipv6 a => "[" ++ a.render ++ "]"

/-- An address in brackets, of which the opening one is read already. -/
def bracketed (rest : List Char) : Except UrlError Host :=
  if rest.getLast? ≠ some ']' then .error .malformedIpv6
  else
    match Ipv6.ofText? rest.dropLast with
    | some a => .ok (.ipv6 a)
    | none => .error .malformedIpv6

/-- A domain name, or the address that a name ending in a number has to be. -/
def named (name : List Char) : Except UrlError Host :=
  if name = [] then .error .emptyHost
  else if Ipv4.endsInNumber name then
    match Ipv4.ofHost? name with
    | some a => .ok (.ipv4 a)
    | none => .error .malformedIpv4
  else .ok (.domain (String.ofList name))

/-- The host of a special URL. -/
def ofSpecial (s : List Char) : Except UrlError Host :=
  match s with
  | '[' :: rest => bracketed rest
  | s =>
    match Domain.toAscii? (Percent.decode s) with
    | some name => named name
    | none => .error .malformedDomain

/-- The characters that end a part of a URL or separate parts of it. -/
def isDelimiter (c : Char) : Bool :=
  c ∈ ['\x00', '\t', '\n', '\r', ' ', '#', '/', ':', '<', '>', '?', '@', '[', '\\', ']', '^', '|']

/-- The host of any other URL, of which an empty one counts as none. -/
def ofPlain (s : List Char) : Except UrlError (Option Host) :=
  match s with
  | [] => .ok none
  | '[' :: rest => (bracketed rest).map some
  | s =>
    if s.any isDelimiter then .error .forbiddenHostCharacter
    else .ok (some (.domain (String.ofList (Percent.encode Percent.controls s))))

end Host

end Phrasebook
