import Phrasebook.Text.Utf8

/-!
# Reading files by path

A tree of named files under a working directory, and the rules by which a path finds one of them:
its names are followed one by one, each through a directory. Names and paths are bytes. Above the
working directory there are directories too, of which nothing else is known.
-/

namespace Phrasebook

/-- A file, or a directory with what it holds. -/
inductive FileNode
  | file (content : List UInt8)
  | directory (entries : List (List UInt8 × FileNode))
  deriving Inhabited

/-- Why a file cannot be read. -/
inductive ReadError
  | notFound
  | notDirectory
  | isDirectory
  | nameTooLong
  | zeroByte
  | malformedText
  deriving DecidableEq, Repr

/-- The text of an error. -/
def ReadError.message : ReadError → String
  | .notFound => "No such file or directory (os error 2)"
  | .notDirectory => "Not a directory (os error 20)"
  | .isDirectory => "Is a directory (os error 21)"
  | .nameTooLong => "File name too long (os error 36)"
  | .zeroByte => "file name contained an unexpected NUL byte"
  | .malformedText => "stream did not contain valid UTF-8"

/-- The node under a name. -/
def FileNode.find? (name : List UInt8) : List (List UInt8 × FileNode) → Option FileNode
  | [] => none
  | (n, node) :: rest => if n = name then some node else find? name rest

/-- Files and directories under a working directory. -/
structure FileTree where
  entries : List (List UInt8 × FileNode) := []

namespace FileTree

/-- The longest name. -/
def maxName : Nat := 255

/-- A path has fewer bytes. -/
def pathLimit : Nat := 4096

/-- Puts a node at the end of some names and makes the directories on the way. -/
def insertAt (node : FileNode) : List (List UInt8) → List (List UInt8 × FileNode) →
    List (List UInt8 × FileNode)
  | [], entries => entries
  | [name], entries => entries.filter (fun e => e.1 ≠ name) ++ [(name, node)]
  | name :: rest, entries =>
    let inner :=
      match FileNode.find? name entries with
      | some (.directory inner) => inner
      | _ => []
    entries.filter (fun e => e.1 ≠ name) ++ [(name, .directory (insertAt node rest inner))]

/-- The names of a path. -/
def names (path : List UInt8) : List (List UInt8) := path.splitOn 0x2F

/-- Puts a file, or an empty directory if there is no content, at a path. -/
def insert (t : FileTree) (path : List UInt8) (content : Option (List UInt8)) : FileTree :=
  let node :=
    match content with
    | some bytes => .file bytes
    | none => .directory []
  ⟨insertAt node (names path) t.entries⟩

/-- A place in the tree: the node there and those above it, up to the working directory. Nothing
is left of it outside. -/
abbrev Place := List FileNode

/-- Follows one name. An empty name and a dot stay where they are. -/
def step (place : Place) (name : List UInt8) : Except ReadError Place :=
  match place with
  | .file _ :: _ => .error .notDirectory
  | place =>
    if name = [] ∨ name = [0x2E] then .ok place
    else if name = [0x2E, 0x2E] then .ok place.tail
    else if maxName < name.length then .error .nameTooLong
    else
      match place with
      | .directory entries :: _ =>
        match FileNode.find? name entries with
        | some node => .ok (node :: place)
        | none => .error .notFound
      | _ => .error .notFound

/-- The place at the end of a path. A path with a slash in front starts outside. -/
def follow (t : FileTree) (path : List UInt8) : Except ReadError Place :=
  if path.contains 0 then .error .zeroByte
  else if path = [] then .error .notFound
  else if pathLimit ≤ path.length then .error .nameTooLong
  else (names path).foldlM step (if path.head? = some 0x2F then [] else [.directory t.entries])

/-- The content of a file. -/
def read (t : FileTree) (path : List UInt8) : Except ReadError (List UInt8) := do
  match ← t.follow path with
  | .file content :: _ => return content
  | _ => throw .isDirectory

/-- The content of a file that has to be text. -/
def readText (t : FileTree) (path : List UInt8) : Except ReadError (List UInt8) := do
  let content ← t.read path
  if (Utf8.decode? content).isSome then return content else throw .malformedText

end FileTree

end Phrasebook
