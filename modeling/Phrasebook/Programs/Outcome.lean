import Phrasebook.Loader
import Phrasebook.Settings

/-!
# How a program ends

A program shows lines of its log, with the name of the part that tells them, and ends well or with
a failure. The report of a failure lists what caused it, one cause under the other.
-/

namespace Phrasebook

/-- A line that a program shows, and the part of it that tells. -/
structure ShownLine where
  source : String
  line : LogLine
  deriving DecidableEq, Repr

/-- A shown line as text. -/
def ShownLine.render (l : ShownLine) : String :=
  l.line.level.name ++ " " ++ l.source ++ ": " ++ l.line.text

/-- Why a program gave up. -/
structure Failure where
  message : String
  causes : List String := []
  deriving DecidableEq, Repr

namespace Failure

/-- The failure of settings that are of no use. -/
def ofSettings (e : SettingsError) : Failure := ⟨e.message, e.causes⟩

/-- The failure of a fetch. -/
def ofFetch (e : FetchError) : Failure := ⟨e.message, e.causes⟩

/-- A line without a carriage return at its end. -/
def dropReturn (line : String) : String :=
  if line.toList.getLast? = some '\r' then String.ofList line.toList.dropLast else line

/-- The lines of a text. -/
def lines (text : String) : List String := (text.splitOn "\n").map dropReturn

/-- The lines of a text behind a mark, and those after the first one as far to the right. -/
def indent (mark text : String) : List String :=
  match lines text with
  | [] => [mark]
  | first :: rest =>
    (mark ++ first) :: rest.map (String.ofList (List.replicate mark.length ' ') ++ ·)

/-- The mark of a cause: its number where there are several. -/
def mark (isSingle : Bool) (n : Nat) : String :=
  if isSingle then "    "
  else
    let digits := toString n
    String.ofList (List.replicate (5 - digits.length) ' ') ++ digits ++ ": "

/-- The lines that report a failure. -/
def report (f : Failure) : List String :=
  lines ("Error: " ++ f.message) ++
    (if f.causes.isEmpty then []
    else
      "" :: "Caused by:" ::
        (f.causes.zipIdx.flatMap fun (cause, n) => indent (mark (f.causes.length = 1) n) cause))

end Failure

/-- What a program has done when it ends. -/
structure Outcome where
  output : List ShownLine := []
  failure : Option Failure := none
  /-- The requests that servers have answered. -/
  history : History := []

/-- The code that a program exits with. -/
def Outcome.exitCode (o : Outcome) : Nat := if o.failure.isSome then 1 else 0

end Phrasebook
