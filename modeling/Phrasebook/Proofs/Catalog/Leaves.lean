import Phrasebook.Catalog.Flatten
import Phrasebook.Catalog.Lookup

/-!
# Messages and the keys that lead to them

The leaves of a catalog are its messages with the keys that lead to them: following keys ends at a
message exactly where there is such a leaf. So what flattening keeps and what look-ups find can be
stated of the same leaves. They come in lexicographic order of their keys.
-/

namespace Phrasebook

namespace Node

/-- A leaf of some children is a leaf of one of them, behind its key. -/
theorem mem_leavesOf_iff {children : List (String × Node)} {keys : List String} {text : String} :
    (keys, text) ∈ leavesOf children ↔
      ∃ p ∈ children, ∃ rest, keys = p.1 :: rest ∧ (rest, text) ∈ p.2.leaves := by
  induction children with
  | nil => simp [leavesOf]
  | cons p rest ih =>
    rw [leavesOf, List.mem_append, ih, List.mem_map]
    simp only [List.mem_cons, Prod.exists, Prod.mk.injEq, exists_eq_or_imp]
    refine or_congr_left ⟨?_, ?_⟩
    · rintro ⟨keys', text', hleaf, rfl, rfl⟩
      exact ⟨keys', rfl, hleaf⟩
    · rintro ⟨keys', rfl, hleaf⟩
      exact ⟨keys', text, hleaf, rfl, rfl⟩

/-- What stands in a group in order is in order as well. -/
theorem Ordered.of_mem {children : List (String × Node)} (h : (group children).Ordered)
    {p : String × Node} (hp : p ∈ children) : p.2.Ordered :=
  allOrdered_iff.mp h.2 p hp

/-- Keys lead to a message exactly if it is a leaf behind them. -/
theorem mem_leaves_iff {n : Node} (h : n.Ordered) {keys : List String} {text : String} :
    (keys, text) ∈ n.leaves ↔ n.walk keys = some (.message text) := by
  induction keys generalizing n with
  | nil =>
    cases n with
    | message other => simp [leaves, walk, eq_comm]
    | group children => simp [leaves, walk, mem_leavesOf_iff]
  | cons key rest ih =>
    cases n with
    | message other => simp [leaves, walk]
    | group children =>
      rw [leaves, mem_leavesOf_iff, walk, Option.bind_eq_some_iff]
      constructor
      · rintro ⟨p, hp, rest', heq, hleaf⟩
        obtain ⟨rfl, rfl⟩ := List.cons.inj heq
        exact ⟨p.2, h.1.find?_eq_some_iff.mpr hp, (ih (h.of_mem hp)).mp hleaf⟩
      · rintro ⟨n, hn, hwalk⟩
        have hp := KeyMap.mem_of_find? hn
        exact ⟨(key, n), hp, rest, rfl, (ih (h.of_mem hp)).mpr hwalk⟩

/-- Keys lead to nodes in key order. -/
theorem Ordered.of_walk {n m : Node} (h : n.Ordered) {keys : List String}
    (hwalk : n.walk keys = some m) : m.Ordered := by
  induction keys generalizing n with
  | nil =>
    rw [walk, Option.some.injEq] at hwalk
    exact hwalk ▸ h
  | cons key rest ih =>
    cases n with
    | message text => cases hwalk
    | group children =>
      rw [walk, Option.bind_eq_some_iff] at hwalk
      obtain ⟨child, hchild, hrest⟩ := hwalk
      exact ih (h.of_mem (KeyMap.mem_of_find? hchild)) hrest

/-- Further keys lead on from where the first ones lead to. -/
theorem walk_append (n : Node) (keys more : List String) :
    n.walk (keys ++ more) = (n.walk keys).bind (walk more) := by
  induction keys generalizing n with
  | nil => rfl
  | cons key keys ih =>
    cases n with
    | message text => rfl
    | group children =>
      rw [List.cons_append, walk, walk, Option.bind_assoc]
      exact congrArg _ (funext ih)

mutual

/-- The leaves of a node come in lexicographic order of the keys that lead to them. -/
theorem pairwise_leaves {n : Node} (h : n.Ordered) :
    n.leaves.Pairwise (fun a b => a.1 < b.1) := by
  match n with
  | .message text => exact List.pairwise_singleton _ _
  | .group children => exact pairwise_leavesOf h.1 h.2

/-- The leaves below some children in order are in order of the keys that lead to them. -/
theorem pairwise_leavesOf {children : List (String × Node)} (h : KeyMap.Ordered children)
    (hall : AllOrdered children) : (leavesOf children).Pairwise (fun a b => a.1 < b.1) := by
  match children with
  | [] => exact List.Pairwise.nil
  | (key, n) :: rest =>
    obtain ⟨hkey, hrest⟩ := List.pairwise_cons.mp h
    rw [leavesOf, List.pairwise_append, List.pairwise_map]
    refine ⟨?_, pairwise_leavesOf hrest hall.2, ?_⟩
    · exact (pairwise_leaves hall.1).imp fun hlt => List.cons_lt_cons_iff.mpr (.inr ⟨rfl, hlt⟩)
    · intro a ha b hb
      obtain ⟨leaf, -, rfl⟩ := List.mem_map.mp ha
      obtain ⟨p, hp, keys, hkeys, -⟩ := mem_leavesOf_iff.mp hb
      rw [hkeys]
      exact List.cons_lt_cons_iff.mpr (.inl (hkey p hp))

end

mutual

/-- A node has as many leaves as messages. -/
theorem length_leaves (n : Node) : n.leaves.length = n.messageCount := by
  match n with
  | .message text => rfl
  | .group children => exact length_leavesOf children

/-- There are as many leaves below some children as messages are counted there. -/
theorem length_leavesOf (children : List (String × Node)) :
    (leavesOf children).length = countAll children := by
  match children with
  | [] => rfl
  | (key, n) :: rest =>
    rw [leavesOf, List.length_append, List.length_map, length_leaves n, length_leavesOf rest,
      countAll]

end

/-- Only a message has a text, and it is the text of the message. -/
@[simp] theorem text?_eq_some_iff {n : Node} {text : String} :
    n.text? = some text ↔ n = .message text := by
  cases n <;> simp [text?]

end Node

namespace Catalog

/-- Keys lead to a message exactly if it is a leaf behind them. -/
theorem mem_leaves_iff {c : Catalog} {keys : List String} {text : String} :
    (keys, text) ∈ c.leaves ↔ c.follow? keys = some (.message text) :=
  Node.mem_leaves_iff c.ordered

/-- One key at least leads to a leaf, since a catalog itself is no message. -/
theorem ne_nil_of_mem_leaves {c : Catalog} {leaf : List String × String} (h : leaf ∈ c.leaves) :
    leaf.1 ≠ [] := by
  obtain ⟨p, -, rest, hkeys, -⟩ := Node.mem_leavesOf_iff.mp h
  rw [hkeys]
  exact List.cons_ne_nil p.1 rest

/-- The leaves of a catalog come in lexicographic order of the keys that lead to them. -/
theorem pairwise_leaves (c : Catalog) : c.leaves.Pairwise (fun a b => a.1 < b.1) :=
  Node.pairwise_leavesOf c.ordered.1 c.ordered.2

/-- A key leads to a top-level entry. -/
theorem follow?_singleton (c : Catalog) (key : String) :
    c.follow? [key] = KeyMap.find? key c.children := by
  simp [follow?, Node.walk]

/-- Look-ups find the message that stands literally under a key, and where nothing does, the one
that the pieces of the key lead to. -/
theorem message?_eq_some_iff {c : Catalog} {key text : String} :
    c.message? key = some text ↔ ([key], text) ∈ c.leaves ∨
      KeyMap.find? key c.children = none ∧ (Path.split key, text) ∈ c.leaves := by
  rw [mem_leaves_iff, mem_leaves_iff, follow?_singleton, message?, entry?]
  cases hliteral : KeyMap.find? key c.children with
  | none => simp [Option.bind_eq_some_iff]
  | some n => simp

/-- A catalog without top-level keys has no messages. -/
theorem message?_of_isEmpty {c : Catalog} (h : c.isEmpty = true) (key : String) :
    c.message? key = none := by
  have hleaves : c.leaves = [] := by rw [leaves, List.isEmpty_iff.mp h, Node.leavesOf]
  refine Option.eq_none_iff_forall_ne_some.mpr fun text htext => ?_
  simp [message?_eq_some_iff, hleaves] at htext

end Catalog

end Phrasebook
