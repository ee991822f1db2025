import Phrasebook.Url.Parser

/-!
# References between URLs

A reference may leave out what it shares with the URL it stands in. Only URLs of the web are
followed, so the base has a host and a path of segments.
-/

namespace Phrasebook.Url

/-- A reference without scheme, in the place of some path of a special base. -/
def resolveRelative (base : Url) (text : List Char) : Except UrlError Url := do
  let (body, query, fragment) := splitEnds base.kind text
  let names :=
    match base.path with
    | .segments names => names
    | .opaqueText _ => []
  let slash := isSlash base.kind
  match body with
  | [] => return { base with query := query <|> base.query, fragment }
  | a :: b :: rest =>
    if slash a ∧ slash b then
      let rest := if a = '/' ∧ b = '/' then rest else rest.dropWhile slash
      let (authority, path) ←
        readHierarchy base.scheme base.kind (query.isNone ∧ fragment.isNone) rest
      return { base with authority, path, query, fragment }
    else if slash a then
      return { base with path := .segments (UrlPath.read base.kind (b :: rest)), query, fragment }
    else
      let path := .segments (UrlPath.readFrom base.kind names.dropLast (a :: b :: rest)).names
      return { base with path, query, fragment }
  | [a] =>
    let names := if slash a then [""] else (UrlPath.readFrom base.kind names.dropLast [a]).names
    return { base with path := .segments names, query, fragment }

/-- The URL that a reference in a special URL stands for. A reference with the scheme of the base
and fewer than two slashes behind it is relative too. -/
def resolve (base : Url) (reference : String) : Except UrlError Url :=
  let text := trimEnds reference.toList
  match scheme? text with
  | none => base.resolveRelative (visible text)
  | some (scheme, rest) =>
    if scheme = base.scheme ∧ ((visible rest).takeWhile (isSlash .special)).length < 2 then
      base.resolveRelative (visible rest)
    else ofScheme scheme rest

end Phrasebook.Url
