import Phrasebook.Programs.CheckCatalogs
import Phrasebook.Programs.ShowMessages

/-!
# The command line

The first argument names the program and the others are its own. There is no network.
-/

namespace Phrasebook

/-- A program of the command line. -/
inductive Program
  | showMessages
  | checkCatalogs
  deriving DecidableEq, Repr

namespace Program

/-- The program of a name. -/
def ofName? : String → Option Program
  | "locale-loader" => some .showMessages
  | "check-catalogs" => some .checkCatalogs
  | _ => none

/-- A run of a program. -/
def run (p : Program) : Network → FileTree → Environment → List String → Outcome :=
  match p with
  | .showMessages => ShowMessages.run
  | .checkCatalogs => CheckCatalogs.run

end Program

namespace CommandLine

/-- The variables that the programs look at. -/
def variableNames : List String := ["LOCALES_BASE_URL", "PREFERENCES_FILE", "HTTP_TIMEOUT_SECS"]

/-- The environment of this process. -/
def readEnvironment : IO Environment :=
  variableNames.foldlM (fun e name => do
    match ← IO.getEnv name with
    | some value => return e.set name (Utf8.ofString value)
    | none => return e) {}

/-- A file of the working directory, added to a tree if it can be read. -/
def addFile (files : FileTree) (path : String) : IO FileTree := do
  try
    let content ← IO.FS.readBinFile path
    return files.insert (Utf8.ofString path) (some content.toList)
  catch _ => return files

/-- The files that a program may read. -/
def readFiles (e : Environment) : IO FileTree := do
  let files ← addFile {} Environment.assignmentsFile
  match (e.withAssignments files).text? "PREFERENCES_FILE" with
  | some path => addFile files path
  | none => return files

end CommandLine

end Phrasebook

open Phrasebook in
/-- Runs the program that the first argument names, and exits with 2 if there is none. -/
def main (args : List String) : IO UInt32 := do
  match args with
  | [] => return 2
  | name :: args =>
    match Program.ofName? name with
    | none => return 2
    | some program =>
      let e ← CommandLine.readEnvironment
      let outcome := program.run Network.offline (← CommandLine.readFiles e) e args
      outcome.output.forM fun l => IO.println l.render
      (outcome.failure.map Failure.report).getD [] |>.forM fun l => IO.eprintln l
      return outcome.exitCode.toUInt32
