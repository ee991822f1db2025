import Phrasebook.Url.Segments

/-!
# Appending to a path

A name is appended as one segment: whatever would end a segment or the path is escaped. Tabs and
line ends are left out, as everywhere in URLs.
-/

namespace Phrasebook

namespace UrlPath

/-- The segments without an empty one at the end. A path that is only a slash keeps it. -/
def trimEnd (names : List String) : List String :=
  if names.getLast? = some "" ∧ 1 < names.length then names.dropLast else names

/-- A name as a piece of a path. -/
def pieceOf (kind : SchemeKind) (name : String) : List Char :=
  let escapes := if kind.isSpecial then Percent.inSpecialSegment else Percent.inSegment
  Percent.encode escapes (Url.visible name.toList)

/-- The segments with a name behind them, which takes the place of a single empty segment. A name
of dots adds nothing. -/
def push (kind : SchemeKind) (names : List String) (name : String) : List String :=
  if name = "." ∨ name = ".." then names
  else
    (Walk.along kind { names := if names = [""] then [] else names }
      [{ text := pieceOf kind name }]).names

end UrlPath

namespace Url

/-- The URL with some names behind its path, for one slash at whose end there is no empty segment.
An opaque path takes none. -/
def append? (u : Url) (names : List String) : Option Url :=
  match u.path with
  | .segments front =>
    if u.cannotBeBase then none
    else some { u with
      path := .segments (names.foldl (UrlPath.push u.kind) (UrlPath.trimEnd front)) }
  | .opaqueText _ => none

end Url

end Phrasebook
