import Phrasebook.Catalog.Flatten
import Phrasebook.Text.Quoted
import Phrasebook.Validation.Link
import Phrasebook.Validation.Placeholder

/-!
# Comparing a catalog with a reference

Both catalogs are flattened. A path of the reference that the other catalog lacks is an error,
since its message stays untranslated; different placeholders or links, and paths that the
reference does not know, are warnings. Everything is reported in order of path, the unknown paths
after all else.
-/

namespace Phrasebook.Validation

/-- Why a message of the reference is not translated. -/
inductive Problem
  /-- The path leads to a group, or through a message. -/
  | misplaced (path : String)
  | missing (path : String)
  deriving DecidableEq, Repr

/-- What looks wrong in a catalog. -/
inductive Warning
  | placeholders (path : String) (expected actual : List String)
  | links (path : String) (expected actual : List String)
  /-- The path is not in the reference. -/
  | unknown (path : String)
  deriving DecidableEq, Repr

/-- The text of a problem. -/
def Problem.message : Problem → String
  | .misplaced path => s!"Structure mismatch: '{path}' is nested differently in the catalog"
  | .missing path => s!"Missing key: '{path}'"

/-- The end of a warning about two sets that differ. -/
def differing (expected actual : List String) : String :=
  "reference has " ++ Text.quotedSet expected ++ ", catalog has " ++ Text.quotedSet actual

/-- The text of a warning. -/
def Warning.message : Warning → String
  | .placeholders path expected actual =>
    s!"Placeholder mismatch in '{path}': " ++ differing expected actual
  | .links path expected actual =>
    s!"Linked message mismatch in '{path}': " ++ differing expected actual
  | .unknown path => s!"Unknown key: '{path}' is not in the reference"

/-- What the comparison found. -/
structure Report where
  errors : List Problem := []
  warnings : List Warning := []
  deriving DecidableEq, Repr, Inhabited

/-- A report without errors and warnings. -/
def Report.isClean (r : Report) : Bool := r.errors.isEmpty && r.warnings.isEmpty

/-- Whether the characters of a path are those of a parent, a dot and something more. -/
def goesBelow (path parent : List Char) : Bool :=
  match parent, path with
  | [], dot :: _ :: _ => dot = '.'
  | p :: ps, c :: cs => p = c && goesBelow cs ps
  | _, _ => false

/-- Whether a path is below a parent. -/
def isBelow (path parent : String) : Bool := goesBelow path.toList parent.toList

/-- Whether a path is above or below one of some others. -/
def overlaps (path : String) (others : List String) : Bool :=
  others.any (fun other => isBelow other path || isBelow path other)

/-- The paths of the reference that are missing or misplaced. -/
def problems (expected actual : KeyMap String) : List Problem :=
  expected.filterMap fun (path, _) =>
    if (actual.find? path).isSome then none
    else if overlaps path actual.keys then some (.misplaced path)
    else some (.missing path)

/-- What the two texts of a path disagree on. -/
def disagreements (path expected actual : String) : List Warning :=
  (if Placeholder.names expected = Placeholder.names actual then []
    else [.placeholders path (Placeholder.names expected) (Placeholder.names actual)]) ++
  (if Link.keys expected = Link.keys actual then []
    else [.links path (Link.keys expected) (Link.keys actual)])

/-- The disagreements on paths that both catalogs have. -/
def mismatches (expected actual : KeyMap String) : List Warning :=
  expected.flatMap fun (path, text) =>
    match actual.find? path with
    | some other => disagreements path text other
    | none => []

/-- The paths that the reference does not know and that do not overlap one of its own. -/
def unknowns (expected actual : KeyMap String) : List Warning :=
  actual.filterMap fun (path, _) =>
    if (expected.find? path).isSome || overlaps path expected.keys then none
    else some (.unknown path)

end Validation

/-- The report on a catalog that should have the messages of a reference. -/
def Catalog.compare (reference candidate : Catalog) : Validation.Report :=
  let expected := reference.flatten
  let actual := candidate.flatten
  { errors := Validation.problems expected actual
    warnings := Validation.mismatches expected actual ++ Validation.unknowns expected actual }

end Phrasebook
