import Phrasebook.Catalog.Basic
import Phrasebook.Catalog.Path

/-!
# Looking messages up

A key names the entry that stands under it literally at the top level. Only where there is none is
it read as a path and followed through the groups.
-/

namespace Phrasebook

/-- The node that some keys lead to. -/
def Node.walk : List String → Node → Option Node
  | [], n => some n
  | k :: keys, .group children => (KeyMap.find? k children).bind (walk keys)
  | _ :: _, .message _ => none

/-- The text of a node that is a message. -/
def Node.text? : Node → Option String
  | .message text => some text
  | .group _ => none

namespace Catalog

/-- The node at the end of a path through the groups. -/
def follow? (c : Catalog) (keys : List String) : Option Node := (Node.group c.children).walk keys

/-- What stands under a key. -/
def entry? (c : Catalog) (key : String) : Option Node :=
  match KeyMap.find? key c.children with
  | some n => some n
  | none => c.follow? (Path.split key)

/-- The message under a key. A group is no message. -/
def message? (c : Catalog) (key : String) : Option String := (c.entry? key).bind Node.text?

end Catalog

end Phrasebook
