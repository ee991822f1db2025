import Phrasebook.KeyMap

/-!
# Message catalogs

A catalog maps keys to messages and to groups of the same shape. At every level the keys increase
strictly, which is part of the type: a catalog is built by inserting entries, and what is read
from a text is built so too.
-/

namespace Phrasebook

/-- What stands under a key: a message, or a group of further keys. -/
inductive Node
  | message (text : String)
  | group (children : List (String × Node))
  deriving Repr, Inhabited

namespace Node

mutual

/-- Keys increase strictly at every level. -/
def Ordered : Node → Prop
  | .message _ => True
  | .group children => KeyMap.Ordered children ∧ AllOrdered children

/-- Every node of some children is in key order. -/
def AllOrdered : List (String × Node) → Prop
  | [] => True
  | (_, n) :: rest => n.Ordered ∧ AllOrdered rest

end

mutual

instance decidableOrdered : (n : Node) → Decidable n.Ordered
  | .message _ => .isTrue trivial
  | .group children =>
    have := decidableAllOrdered children
    inferInstanceAs (Decidable (KeyMap.Ordered children ∧ AllOrdered children))

instance decidableAllOrdered : (children : List (String × Node)) → Decidable (AllOrdered children)
  | [] => .isTrue trivial
  | (_, n) :: rest =>
    have := decidableOrdered n
    have := decidableAllOrdered rest
    inferInstanceAs (Decidable (n.Ordered ∧ AllOrdered rest))

end

mutual

/-- How many messages a node holds, at all levels. -/
def messageCount : Node → Nat
  | .message _ => 1
  | .group children => countAll children

/-- How many messages some children hold, at all levels. -/
def countAll : List (String × Node) → Nat
  | [] => 0
  | (_, n) :: rest => n.messageCount + countAll rest

end

/-- Children are in order all the way down exactly if each of them is, taken by itself. -/
theorem allOrdered_iff {children : List (String × Node)} :
    AllOrdered children ↔ ∀ p ∈ children, p.2.Ordered := by
  induction children with
  | nil => simp [AllOrdered]
  | cons p rest ih => simp [AllOrdered, ih]

/-- Inserting a node keeps a group in key order at every level. -/
theorem Ordered.insert {children : List (String × Node)} {n : Node} (key : String)
    (h : (group children).Ordered) (hn : n.Ordered) :
    (group (KeyMap.insert key n children)).Ordered := by
  simp only [Ordered, allOrdered_iff] at h ⊢
  refine ⟨h.1.insert key n, fun p hp => ?_⟩
  rcases KeyMap.mem_insert hp with rfl | hp
  · exact hn
  · exact h.2 p hp

end Node

/-- A node that is in key order at every level. -/
structure Entry where
  node : Node
  ordered : node.Ordered

/-- A message catalog. -/
structure Catalog where
  /-- What stands at the top level. -/
  children : List (String × Node)
  ordered : (Node.group children).Ordered

namespace Catalog

/-- The catalog without messages. -/
def empty : Catalog where
  children := []
  ordered := ⟨.nil, trivial⟩

instance : Inhabited Catalog := ⟨empty⟩

/-- Puts an entry under a top-level key, in place of the one that was there. -/
def insert (c : Catalog) (key : String) (e : Entry) : Catalog where
  children := KeyMap.insert key e.node c.children
  ordered := c.ordered.insert key e.ordered

/-- The catalog of some entries, in which a later one wins over an earlier one of the same key. -/
def ofEntries (entries : List (String × Entry)) : Catalog :=
  entries.foldl (fun c p => c.insert p.1 p.2) empty

/-- The number of top-level keys. -/
def size (c : Catalog) : Nat := c.children.length

/-- Whether there is no top-level key. -/
def isEmpty (c : Catalog) : Bool := c.children.isEmpty

/-- The number of messages, at all levels. -/
def messageCount (c : Catalog) : Nat := Node.countAll c.children

/-- Catalogs with the same children are the same. -/
@[ext] theorem ext {a b : Catalog} (h : a.children = b.children) : a = b := by
  cases a
  cases b
  simp_all

end Catalog

end Phrasebook
