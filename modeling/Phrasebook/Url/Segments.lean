import Phrasebook.Url.Basic

/-!
# The segments of a path

A path is read piece by piece. A piece of one dot names its own directory and a piece of two dots
the one above, also where a dot is written in percent-encoding. A drive letter is never gone above.
-/

namespace Phrasebook

/-- Whether a character is a tab or a line end, which does not count in a URL. -/
def Url.isIgnored (c : Char) : Bool := c = '\t' || c = '\n' || c = '\r'

/-- The characters of a text that count in a URL. -/
def Url.visible (text : List Char) : List Char := text.filter (¬ isIgnored ·)

/-- Whether a character is a slash, for which a backslash counts in special URLs. -/
def Url.isSlash (kind : SchemeKind) (c : Char) : Bool := c = '/' || (kind.isSpecial && c = '\\')

namespace UrlPath

/-- What is left of a text without a dot at its front, which may be percent-encoded. -/
def dropDot? : List Char → Option (List Char)
  | '.' :: rest => some rest
  | '%' :: '2' :: 'e' :: rest => some rest
  | '%' :: '2' :: 'E' :: rest => some rest
  | _ => none

/-- Whether a piece is one dot. -/
def isDot (piece : List Char) : Bool := dropDot? piece = some []

/-- Whether a piece is two dots. -/
def isDoubleDot (piece : List Char) : Bool := (dropDot? piece).bind dropDot? = some []

/-- Whether a piece is a drive letter: a letter and a colon, or a bar in its place. -/
def isDrive : List Char → Bool
  | [letter, mark] => letter.isAlpha && (mark = ':' || mark = '|')
  | _ => false

/-- Whether a segment starts with a drive letter and ends there or goes on with a backslash. -/
def startsWithDrive (segment : List Char) : Bool :=
  isDrive (segment.take 2) && (segment.length = 2 || segment[2]? = some '\\')

/-- The segments without the last one, unless that is a drive letter. -/
def shorten (names : List String) : List String :=
  match names.getLast? with
  | some last => if startsWithDrive last.toList then names else names.dropLast
  | none => []

/-- A piece of a path. -/
structure Piece where
  /-- The piece in its written form. -/
  text : List Char
  /-- A drive letter and the rest of the piece, if a tab or a line end stands between them. -/
  parted? : Option (List Char × List Char) := none

/-- The parts of a text in which a tab or a line end stands behind a drive letter. -/
def partedDrive? (text : List Char) : Option (List Char × List Char) :=
  match text.dropWhile Url.isIgnored with
  | letter :: rest =>
    match rest.dropWhile Url.isIgnored with
    | ':' :: c :: rest =>
      if letter.isAlpha ∧ Url.isIgnored c ∧ Url.visible rest ≠ [] then
        some ([letter, ':'], Url.visible rest)
      else none
    | _ => none
  | [] => none

/-- A text between slashes as a piece of a path. -/
def Piece.ofText (text : List Char) : Piece where
  text := Percent.encode Percent.inPath (Url.visible text)
  parted? := (partedDrive? text).map fun (drive, rest) =>
    (drive, Percent.encode Percent.inPath rest)

/-- The pieces of a text between its slashes. -/
def pieces (kind : SchemeKind) (text : List Char) : List Piece :=
  ((text.map fun c => if Url.isSlash kind c then '/' else c).splitOn '/').map Piece.ofText

/-- How far a path is read. -/
structure Walk where
  names : List String := []
  /-- Whether the path is that of a drive. -/
  hasDrive : Bool := false

namespace Walk

/-- The walk with one more segment. At the top of a file path, a drive letter is written with a
colon, and one that is parted from the rest of its piece is a segment of its own. -/
def add (kind : SchemeKind) (w : Walk) (piece : Piece) : Walk :=
  match kind, w.names, piece.parted? with
  | .file, [], some (drive, rest) =>
    { w with names := [String.ofList drive, String.ofList rest] }
  | .file, [], none =>
    if isDrive piece.text then
      { names := [String.ofList (piece.text.take 1 ++ [':'])], hasDrive := true }
    else { w with names := [String.ofList piece.text] }
  | _, names, _ => { w with names := names ++ [String.ofList piece.text] }

/-- Whether a piece is read as it stands, though it may be made of dots. -/
def isParted (kind : SchemeKind) (w : Walk) (piece : Piece) : Bool :=
  kind = .file && w.names = [] && piece.parted?.isSome

/-- A step of the walk. -/
def step (kind : SchemeKind) (w : Walk) (piece : Piece) : Walk :=
  if w.isParted kind piece then w.add kind piece
  else if isDoubleDot piece.text then { w with names := shorten w.names }
  else if isDot piece.text then w
  else w.add kind piece

/-- The last step of the walk. A piece of dots at the end stands for a directory, whose path ends
in a slash. -/
def lastStep (kind : SchemeKind) (w : Walk) (piece : Piece) : Walk :=
  let w' := w.step kind piece
  if ¬ w.isParted kind piece ∧ (isDoubleDot piece.text ∨ isDot piece.text) then
    { w' with names := w'.names ++ [""] }
  else w'

/-- The walk along some pieces. -/
def along (kind : SchemeKind) (w : Walk) : List Piece → Walk
  | [] => w
  | [piece] => w.lastStep kind piece
  | piece :: rest => (w.step kind piece).along kind rest

end Walk

/-- The walk along a text, behind some segments. -/
def readFrom (kind : SchemeKind) (names : List String) (text : List Char) : Walk :=
  Walk.along kind { names } (pieces kind text)

/-- The segments of a text. -/
def read (kind : SchemeKind) (text : List Char) : List String := (readFrom kind [] text).names

/-- File paths have no empty segments at their front. -/
def trimFront (names : List String) : List String :=
  match names.dropWhile (· = "") with
  | [] => [""]
  | names => names

end UrlPath

end Phrasebook
