import Phrasebook.Url.Segments

/-!
# Reading URLs

The scheme is cut off at the front of a text and fragment and query at its end; how the part
between is read depends on the kind of the scheme. Tabs and line ends do not count, but in the path
of a file one can part a drive letter from what is behind it.
-/

namespace Phrasebook

namespace Url

/-- A text without the controls and spaces at its ends. -/
def trimEnds (text : List Char) : List Char :=
  let isBlankEnd (c : Char) : Bool := c.toNat ≤ 0x20
  ((text.dropWhile isBlankEnd).reverse.dropWhile isBlankEnd).reverse

/-- The text before the first place of a character, and the text behind it if there is one. -/
def cut (mark : Char) (text : List Char) : List Char × Option (List Char) :=
  match text.dropWhile (· ≠ mark) with
  | [] => (text, none)
  | _ :: rest => (text.takeWhile (· ≠ mark), some rest)

/-- A character of a scheme. -/
def isSchemeChar (c : Char) : Bool := c.isAlphanum || c = '+' || c = '-' || c = '.'

/-- The scheme of a text in small letters, and the text behind its colon. -/
def scheme? (text : List Char) : Option (String × List Char) :=
  let (front, rest) := cut ':' text
  match visible front, rest with
  | first :: name, some rest =>
    if first.isAlpha ∧ name.all isSchemeChar then
      some (String.ofList ((first :: name).map Char.toLower), rest)
    else none
  | _, _ => none

/-- Text in its written form. -/
def written (escapes : Percent.EscapeSet) (text : List Char) : String :=
  String.ofList (Percent.encode escapes (visible text))

/-- A query in its written form. -/
def writtenQuery (kind : SchemeKind) (text : List Char) : String :=
  written (if kind.isSpecial then Percent.inSpecialQuery else Percent.inQuery) text

/-- Fragment and query of a text, in their written form, and the text before them. -/
def splitEnds (kind : SchemeKind) (text : List Char) :
    List Char × Option String × Option String :=
  let (front, fragment) := cut '#' text
  let (body, query) := cut '?' front
  (body, query.map (writtenQuery kind), fragment.map (written Percent.inFragment))

/-- User name and password. An empty password counts as none. -/
def userInfo (text : List Char) : Authority :=
  let (name, password) := cut ':' text
  { userName := written Percent.inUserInfo name
    password :=
      match password with
      | some (c :: rest) => some (written Percent.inUserInfo (c :: rest))
      | _ => none }

/-- The text up to a colon outside brackets, and the text from there on. -/
def splitNumber (inBrackets : Bool) : List Char → List Char × List Char
  | [] => ([], [])
  | c :: rest =>
    if c = ':' ∧ ¬ inBrackets then ([], c :: rest)
    else
      let (host, number) :=
        splitNumber (if c = '[' then true else if c = ']' then false else inBrackets) rest
      (c :: host, number)

/-- The number behind a host and a colon, unless it is the one that the scheme implies, and the text
behind its digits, which can only start with a backslash. -/
def readNumber (scheme : String) (text : List Char) :
    Except UrlError (Option Nat × List Char) :=
  let digits := text.takeWhile Char.isDigit
  let rest := text.dropWhile Char.isDigit
  let number := digits.foldl (fun n c => n * 10 + (c.toNat - '0'.toNat)) 0
  if 65535 < number ∨ (rest ≠ [] ∧ rest.head? ≠ some '\\') then .error .malformedPortNumber
  else
    let isImplied := digits = [] ∨ impliedPortNumber? scheme = some number
    .ok (if isImplied then none else some number, rest)

/-- The host of an authority. One that is empty ends neither a special URL nor one with a number
behind it. -/
def readHost (kind : SchemeKind) (host number : List Char) : Except UrlError (Option Host) :=
  if kind = .plain then
    if host = [] ∧ number ≠ [] then .error .emptyHost else Host.ofPlain host
  else if host = [] then .error .emptyHost
  else (Host.ofSpecial host).map some

/-- An authority, and the text behind its number that goes to the path. `more` says whether anything
follows in the URL. -/
def readAuthority (scheme : String) (kind : SchemeKind) (more : Bool) (text : List Char) :
    Except UrlError (Authority × List Char) := do
  let located := (text.reverse.takeWhile (· ≠ '@')).reverse
  let user := (text.take (text.length - located.length)).dropLast
  if text.head? = some '@' ∧ user = [] ∧ located = [] ∧ more then .error .emptyHost
  else
    let info := userInfo user
    let (hostText, numberText) := splitNumber false located
    let host ← readHost kind hostText numberText
    let (portNumber, rest) ←
      match numberText with
      | [] => pure (none, [])
      | _ :: digits => readNumber scheme digits
    if host = none ∧ info.renderUser ≠ "" then .error .emptyHost
    else pure ({ info with host, portNumber }, rest)

/-- What a part of a URL says about authority and path. -/
abbrev Location := Option Authority × UrlPath

/-- The part behind two slashes: an authority and a path. -/
def readHierarchy (scheme : String) (kind : SchemeKind) (isLast : Bool) (text : List Char) :
    Except UrlError Location := do
  let path := text.dropWhile (fun c => ¬ isSlash kind c)
  let (authority, rest) ← readAuthority scheme kind (path ≠ [] ∨ ¬ isLast)
    (text.takeWhile (fun c => ¬ isSlash kind c))
  let names :=
    match rest ++ path with
    | [] => if kind.isSpecial then [""] else []
    | c :: names => UrlPath.read kind (if isSlash kind c then names else c :: names)
  return (some authority, .segments names)

/-- The path of a file. A drive letter at its top leaves no host. -/
def filePath (host : Option Host) (text : List Char) : Location :=
  let walk := UrlPath.readFrom .file [] text
  (some { host := if walk.hasDrive then none else host },
    .segments (UrlPath.trimFront walk.names))

/-- The host of a file. A file on this machine has none. -/
def fileHost (text : List Char) : Except UrlError (Option Host) :=
  if text = [] then .ok none
  else
    (Host.ofSpecial text).map fun h => if h = .domain "localhost" then none else some h

/-- The text behind a slash at the front of another one. -/
def dropSlash? (text : List Char) : Option (List Char) :=
  match text.dropWhile isIgnored with
  | c :: rest => if isSlash .file c then some rest else none
  | [] => none

/-- The part of a file URL behind two slashes. Without a host, the path keeps its own slash. -/
def readFileAt (text : List Char) : Except UrlError Location := do
  let name := visible (text.takeWhile (fun c => ¬ isSlash .file c))
  let path := text.dropWhile (fun c => ¬ isSlash .file c)
  if UrlPath.isDrive name then return filePath none text
  else
    match ← fileHost name with
    | none => return filePath none path
    | some host => return filePath (some host) (path.drop 1)

/-- The part of a file URL between scheme and query. -/
def readFile (text : List Char) : Except UrlError Location :=
  match dropSlash? text with
  | none => .ok (filePath none text)
  | some rest =>
    match dropSlash? rest with
    | none => .ok (filePath none rest)
    | some rest => readFileAt rest

/-- The part of any other URL between scheme and query. -/
def readPlain (scheme : String) (isLast : Bool) (text : List Char) : Except UrlError Location :=
  match text with
  | '/' :: '/' :: rest => readHierarchy scheme .plain isLast rest
  | '/' :: rest => .ok (none, .segments (UrlPath.read .plain rest))
  | text => .ok (none, .opaqueText (written Percent.controls text))

/-- The part of a URL between scheme and query. -/
def readLocation (scheme : String) (isLast : Bool) (text : List Char) :
    Except UrlError Location :=
  match SchemeKind.ofScheme scheme with
  | .file => readFile text
  | .special => readHierarchy scheme .special isLast ((visible text).dropWhile (isSlash .special))
  | .plain => readPlain scheme isLast (visible text)

/-- Whether a path would read as an authority. -/
def needsGuard : Location → Bool
  | (none, .segments ("" :: _ :: _)) => true
  | _ => false

/-- The URL of a scheme and the text behind it. -/
def ofScheme (scheme : String) (text : List Char) : Except UrlError Url := do
  let (body, query, fragment) := splitEnds (.ofScheme scheme) text
  let (authority, path) ← readLocation scheme (query.isNone ∧ fragment.isNone) body
  return { scheme, authority, path, query, fragment, isGuarded := needsGuard (authority, path) }

/-- The URL that a text gives. -/
def parse (text : String) : Except UrlError Url :=
  match scheme? (trimEnds text.toList) with
  | some (scheme, rest) => ofScheme scheme rest
  | none => .error .relative

end Url

end Phrasebook
