import Phrasebook.Text.Utf8
import Phrasebook.Url.Domain.Composition
import Phrasebook.Url.Domain.Direction
import Phrasebook.Url.Domain.Folding
import Phrasebook.Url.Domain.Joining
import Phrasebook.Url.Domain.Punycode

/-!
# Domain names in URLs

A domain name is folded and composed, and a label that is not ASCII is written behind the mark
`xn--` in its ASCII form. A label with that mark has to be the form of one that is not ASCII.
-/

namespace Phrasebook.Domain

/-- The characters that no domain name of a URL holds. -/
def isForbidden (c : Char) : Bool :=
  c.toNat ≤ 0x20 || c.toNat = 0x7F ||
    c ∈ ['%', '#', '/', ':', '<', '>', '?', '@', '[', '\\', ']', '^', '|']

/-- Whether a character is ASCII. -/
def isAscii (c : Char) : Bool := c.toNat < 0x80

/-- The mark of a label in ASCII form. -/
def mark : List Char := ['x', 'n', '-', '-']

/-- The most characters of a label that is not ASCII. -/
def maxLabel : Nat := 1000

/-- The most characters of an ASCII form, behind its mark. -/
def maxForm : Nat := 2000

/-- Whether a folded text can be a label that is not ASCII. -/
def isLabel (text : List Char) : Bool :=
  !text.all isAscii && !(text.head?.map isMark).getD false && joinersFit [] text &&
    text.length ≤ maxLabel

/-- A label in ASCII and as its text. -/
structure Label where
  ascii : List Char
  text : List Char

/-- A label that is given in ASCII form. -/
def Label.ofForm? (form : List Char) : Option Label := do
  let body := form.drop mark.length
  if form.all isAscii ∧ body.length ≤ maxForm then
    let text ← Punycode.decode? body
    if isLabel text ∧ text.all isFolded ∧ compose text = text then some ⟨form, text⟩ else none
  else none

/-- The label of a text that is folded and composed. -/
def Label.ofText? (text : List Char) : Option Label :=
  if mark.isPrefixOf text then ofForm? text
  else if text.all isAscii then some ⟨text, text⟩
  else if isLabel text then some ⟨mark ++ Punycode.encode text, text⟩
  else none

/-- The ASCII form of a domain name. -/
def toAscii? (bytes : List UInt8) : Option (List Char) := do
  let text ← Utf8.decode? bytes
  let folded ← text.mapM fold?
  let labels ← ((compose folded.flatten).splitOn '.').mapM Label.ofText?
  let name := List.intercalate ['.'] (labels.map Label.ascii)
  if name.any isForbidden ∨ ¬ directionsFit (labels.map Label.text) then none else some name

end Phrasebook.Domain
