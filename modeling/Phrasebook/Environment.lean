import Phrasebook.FileTree
import Phrasebook.KeyMap
import Phrasebook.Text.Alphanumeric
import Phrasebook.Text.Characters
import Phrasebook.Text.Utf8

/-!
# Variables of the environment

Values are bytes. One that is no text counts as not set. A file of lines such as
`NAME=value # remark` gives variables that are not set yet. A value in it may be quoted, run over
several lines inside quotes and refer to other variables as `$NAME` or `$\x7bNAME\x7d`. The file is
read up to its first fault, and what stands before that counts.
-/

namespace Phrasebook

/-- Variables with their values. -/
structure Environment where
  values : KeyMap (List UInt8) := []
  deriving Inhabited

namespace Environment

/-- The text of a variable. -/
def text? (e : Environment) (name : String) : Option String :=
  (e.values.find? name).bind Utf8.toString?

/-- Gives a variable a value. -/
def set (e : Environment) (name : String) (value : List UInt8) : Environment :=
  ⟨e.values.insert name value⟩

/-- Gives a variable a text, unless it has one. -/
def setDefault (e : Environment) (name value : String) : Environment :=
  if (e.text? name).isSome then e else e.set name (Utf8.ofString value)

end Environment

/-! ### Assignments in a file -/

namespace Assignments

/-- Where the end of a piece of a line leaves the reader. -/
inductive LineState
  | plain
  /-- Behind white space, where a remark may start. -/
  | blank
  | escape
  | weak
  | weakEscape
  | strong
  | strongEscape
  deriving DecidableEq, Repr

/-- The state that a character outside quotes leads to. -/
def LineState.ofChar (c : Char) : LineState :=
  if c = '\\' then .escape
  else if c = '\x22' then .weak
  else if c = '\x27' then .strong
  else .plain

/-- The state behind one more character. There is none where a remark starts. -/
def LineState.next? : LineState → Char → Option LineState
  | .plain, c =>
    some (if Text.isBlank c ∧ c ≠ '\n' ∧ c ≠ '\r' then .blank else .ofChar c)
  | .blank, c => if c = '#' then none else some (.ofChar c)
  | .escape, _ => some .plain
  | .weak, c => some (if c = '\\' then .weakEscape else if c = '\x22' then .plain else .weak)
  | .weakEscape, _ => some .weak
  | .strong, c => some (if c = '\\' then .strongEscape else if c = '\x27' then .plain else .strong)
  | .strongEscape, _ => some .strong

/-- The state behind some characters, or what stands before a remark, backwards. `front` is what
is passed, backwards too. -/
def scan (state : LineState) (front : List Char) : List Char → Except (List Char) LineState
  | [] => .ok state
  | c :: rest =>
    match state.next? c with
    | none => .error front
    | some state => scan state (c :: front) rest

/-- The lines of a file, each with its line end. -/
def physicalLines : List UInt8 → List (List UInt8)
  | [] => []
  | b :: rest =>
    if b = 0x0A then [b] :: physicalLines rest
    else
      match physicalLines rest with
      | [] => [[b]]
      | line :: lines => (b :: line) :: lines

/-- A line without its line end. -/
def dropLineEnd (line : List Char) : List Char :=
  match line.reverse with
  | '\n' :: '\r' :: rest => rest.reverse
  | '\n' :: rest => rest.reverse
  | _ => line

/-- The lines of a file, joined where a quote stays open, up to the first fault. `front` is what
the line that is read so far holds. -/
def logicalLines (front : List Char) (state : LineState) : List (List UInt8) → List (List Char)
  | [] => []
  | line :: rest =>
    match Utf8.decode? line with
    | none => []
    | some cs =>
      let joined := front ++ cs
      if (joined.dropWhile Text.isBlank).head? = some '#' then logicalLines [] .plain rest
      else
        match scan state front.reverse cs with
        | .ok .plain => dropLineEnd joined :: logicalLines [] .plain rest
        | .ok state => logicalLines joined state rest
        | .error kept => kept.reverse :: logicalLines [] .plain rest

section Value

-- What a name in a value stands for.
variable (look : List Char → List Char)

mutual

/-- A value, inside double quotes if `isWeak`. -/
def value (isWeak : Bool) : List Char → Option (List Char)
  | [] => if isWeak then none else some []
  | c :: rest =>
    if c = '$' then reference isWeak [] rest
    else if c = '\\' then escaped isWeak rest
    else if isWeak then
      if c = '\x22' then value false rest else (value true rest).map (c :: ·)
    else if c = '\x27' then strong rest
    else if c = '\x22' then value true rest
    else if c = ' ' ∨ c = '\t' then remark rest
    else (value false rest).map (c :: ·)

/-- A value behind a backslash. -/
def escaped (isWeak : Bool) : List Char → Option (List Char)
  | [] => if isWeak then none else some []
  | c :: rest =>
    if c ∈ ['\\', '\x27', '\x22', '$', ' '] then (value isWeak rest).map (c :: ·)
    else if c = 'n' then (value isWeak rest).map ('\n' :: ·)
    else none

/-- A value inside single quotes, in which every character stands for itself. -/
def strong : List Char → Option (List Char)
  | [] => none
  | c :: rest => if c = '\x27' then value false rest else (strong rest).map (c :: ·)

/-- A value behind a dollar sign and a part of a name. The character that ends the name stands for
itself. -/
def reference (isWeak : Bool) (name : List Char) : List Char → Option (List Char)
  | [] => if isWeak then none else some (look name)
  | c :: rest =>
    if Text.isAlphanumeric c then reference isWeak (name ++ [c]) rest
    else if c = '\x7b' ∧ name = [] then braced isWeak [] rest
    else if c = '$' then (reference isWeak [] rest).map (look name ++ ·)
    else (value isWeak rest).map (look name ++ c :: ·)

/-- A value behind a part of a name in braces. -/
def braced (isWeak : Bool) (name : List Char) : List Char → Option (List Char)
  | [] => none
  | c :: rest =>
    if c = '\x7d' then (value isWeak rest).map (look name ++ ·)
    else braced isWeak (name ++ [c]) rest

/-- White space behind a value, and a remark. -/
def remark : List Char → Option (List Char)
  | [] => some []
  | c :: rest =>
    if c = ' ' ∨ c = '\t' then remark rest else if c = '#' then some [] else none

end

end Value

/-- A character of a name. -/
def isNameChar (c : Char) : Bool := c.isAlphanum || c = '_' || c = '.'

/-- A name at the front of a text, and the text behind it and white space. -/
def name? (text : List Char) : Option (List Char × List Char) :=
  match text with
  | c :: _ =>
    if c.isAlpha ∨ c = '_' then
      some (text.takeWhile isNameChar, (text.dropWhile isNameChar).dropWhile Text.isBlank)
    else none
  | [] => none

/-- The text behind an equals sign and white space. -/
def afterEquals? : List Char → Option (List Char)
  | '=' :: rest => some (rest.dropWhile Text.isBlank)
  | _ => none

/-- The name that a line assigns to, and the text of its value. `export` may stand before the name,
and is a name itself. -/
def target? (text : List Char) : Option (List Char × List Char) := do
  let (name, rest) ← name? text
  match afterEquals? rest with
  | some rest => some (name, rest)
  | none =>
    if name = "export".toList then
      let (name, rest) ← name? rest
      let rest ← afterEquals? rest
      some (name, rest)
    else none

/-- Whether a text has nothing to say: it is empty or a remark. -/
def isSilent (text : List Char) : Bool := text.head? = none || text.head? = some '#'

/-- What a name stands for: the text of the variable, else what the file gave it so far. -/
def meaning (e : Environment) (given : KeyMap String) (name : List Char) : List Char :=
  let name := String.ofList name
  ((e.text? name <|> given.find? name).getD "").toList

/-- The environment with what some lines assign, up to the first fault. -/
def assign (e : Environment) (given : KeyMap String) : List (List Char) → Environment
  | [] => e
  | line :: rest =>
    let text := (Text.trimEnd line).dropWhile Text.isBlank
    if isSilent text then assign e given rest
    else
      match target? text with
      | none => e
      | some (name, text) =>
        match if isSilent text then some [] else value (meaning e given) false text with
        | none => e
        | some v =>
          let name := String.ofList name
          let v := String.ofList v
          assign (e.setDefault name v) (given.insert name v) rest

/-- A file without the mark that may stand at its front. -/
def dropMark : List UInt8 → List UInt8
  | 0xEF :: 0xBB :: 0xBF :: rest => rest
  | content => content

end Assignments

/-- The path of the file with assignments. -/
def Environment.assignmentsFile : String := ".env"

/-- The environment with what the file with assignments gives, if there is one. -/
def Environment.withAssignments (e : Environment) (files : FileTree) : Environment :=
  match files.read (Utf8.ofString assignmentsFile) with
  | .ok content =>
    Assignments.assign e []
      (Assignments.logicalLines [] .plain
        (Assignments.physicalLines (Assignments.dropMark content)))
  | .error _ => e

end Phrasebook
