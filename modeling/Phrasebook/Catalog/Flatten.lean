import Phrasebook.Catalog.Basic
import Phrasebook.Catalog.Path

/-!
# All messages by path

`Catalog.leaves` lists the messages with the keys that lead to them, in key order at every level.
`Catalog.flatten` names each by its dotted path. Where dots in keys make two paths the same, the
message that comes later in the list is kept.
-/

namespace Phrasebook

namespace Node

mutual

/-- The messages of a node, each with the keys that lead to it. -/
def leaves : Node → List (List String × String)
  | .message text => [([], text)]
  | .group children => leavesOf children

/-- The messages of some children, each with the keys that lead to it. -/
def leavesOf : List (String × Node) → List (List String × String)
  | [] => []
  | (k, n) :: rest => n.leaves.map (fun p => (k :: p.1, p.2)) ++ leavesOf rest

end

end Node

namespace Catalog

/-- The messages of a catalog, each with the keys that lead to it. -/
def leaves (c : Catalog) : List (List String × String) := Node.leavesOf c.children

/-- The messages of a catalog by dotted path, in order of path. -/
def flatten (c : Catalog) : KeyMap String :=
  KeyMap.ofList (c.leaves.map (fun p => (Path.join p.1, p.2)))

/-- A flattened catalog is in order of path. -/
theorem ordered_flatten (c : Catalog) : c.flatten.Ordered := KeyMap.ordered_ofList _

end Catalog

end Phrasebook
