import Phrasebook.Proofs.Catalog.Leaves
import Phrasebook.Proofs.Catalog.Paths

/-!
# Flattening and look-ups

Of the leaves with one path flattening keeps the one whose keys come last in lexicographic order,
and a look-up takes the one that stands literally under the path or else the one that its pieces
lead to. The two are the same leaf where the catalog places its dots plainly, so there look-ups and
flattening agree on every string. Elsewhere flattening may keep a message that no look-up finds.
-/

namespace Phrasebook

namespace Node

mutual

/-- No key has a dot, at any level. -/
def DotFree : Node → Prop
  | .message _ => True
  | .group children => AllDotFree children

/-- No key of some children has a dot, at any level. -/
def AllDotFree : List (String × Node) → Prop
  | [] => True
  | (key, n) :: rest => Path.DotFree key ∧ n.DotFree ∧ AllDotFree rest

end

mutual

instance decidableDotFree : (n : Node) → Decidable n.DotFree
  | .message _ => .isTrue trivial
  | .group children => decidableAllDotFree children

instance decidableAllDotFree : (children : List (String × Node)) → Decidable (AllDotFree children)
  | [] => .isTrue trivial
  | (key, n) :: rest =>
    have := decidableDotFree n
    have := decidableAllDotFree rest
    inferInstanceAs (Decidable (Path.DotFree key ∧ n.DotFree ∧ AllDotFree rest))

end

instance : (n : Node) → Decidable (∃ text, n = .message text)
  | .message text => .isTrue ⟨text, rfl⟩
  | .group _ => .isFalse nofun

/-- Children are free of dots exactly if the key of each is, and so is what stands under it. -/
theorem allDotFree_iff {children : List (String × Node)} :
    AllDotFree children ↔ ∀ p ∈ children, Path.DotFree p.1 ∧ p.2.DotFree := by
  induction children with
  | nil => simp [AllDotFree]
  | cons p rest ih => simp [AllDotFree, ih, and_assoc]

/-- Keys without dots lead through a node without dots. -/
theorem DotFree.of_walk {n m : Node} (h : n.DotFree) {keys : List String}
    (hwalk : n.walk keys = some m) : ∀ key ∈ keys, Path.DotFree key := by
  induction keys generalizing n with
  | nil => exact List.forall_mem_nil _
  | cons key rest ih =>
    cases n with
    | message text => cases hwalk
    | group children =>
      rw [walk, Option.bind_eq_some_iff] at hwalk
      obtain ⟨child, hchild, hrest⟩ := hwalk
      obtain ⟨hkey, hnode⟩ := allDotFree_iff.mp h _ (KeyMap.mem_of_find? hchild)
      exact List.forall_mem_cons.mpr ⟨hkey, ih hnode hrest⟩

end Node

namespace Catalog

/-- No key has a dot, at any level. -/
def DotFree (c : Catalog) : Prop := Node.AllDotFree c.children

/-- Only keys of messages at the top level have dots. -/
def HasPlainDots (c : Catalog) : Prop :=
  ∀ p ∈ c.children, p.2.DotFree ∧ (Path.DotFree p.1 ∨ ∃ text, p.2 = .message text)

instance (c : Catalog) : Decidable c.DotFree := inferInstanceAs (Decidable (Node.AllDotFree _))

instance (c : Catalog) : Decidable c.HasPlainDots :=
  inferInstanceAs (Decidable (∀ p ∈ c.children, _))

/-- A path is the key of a message at the top level, or nothing stands literally under it and its
pieces are the only keys that lead to a message by this path. -/
def IsPlainAt (c : Catalog) (path : String) : Prop :=
  (∃ text, KeyMap.find? path c.children = some (.message text)) ∨
    ∀ leaf ∈ c.leaves, Path.join leaf.1 = path →
      leaf.1 = Path.split path ∧ KeyMap.find? path c.children = none

/-- The flattened catalog has the paths of the leaves. -/
theorem mem_keys_flatten_iff {c : Catalog} {path : String} :
    path ∈ c.flatten.keys ↔ ∃ leaf ∈ c.leaves, Path.join leaf.1 = path := by
  rw [flatten, KeyMap.mem_keys_ofList, KeyMap.keys, List.map_map, List.mem_map]
  rfl

/-- In a catalog without dots a path is that of a message exactly if its pieces lead to one. -/
theorem DotFree.mem_keys_iff_follow? {c : Catalog} (h : c.DotFree) {path : String} :
    path ∈ c.flatten.keys ↔ ∃ text, c.follow? (Path.split path) = some (.message text) := by
  rw [mem_keys_flatten_iff]
  constructor
  · rintro ⟨leaf, hleaf, rfl⟩
    have hwalk := mem_leaves_iff.mp hleaf
    have hkeys := Node.DotFree.of_walk (n := .group c.children) h hwalk
    rw [Path.split_join (ne_nil_of_mem_leaves hleaf) hkeys]
    exact ⟨leaf.2, hwalk⟩
  · rintro ⟨text, hwalk⟩
    exact ⟨(Path.split path, text), mem_leaves_iff.mpr hwalk, Path.join_split path⟩

/-- In a catalog without dots no path goes on from another one with a dot: following the pieces of
the one ends at a message on the way of the other. -/
theorem DotFree.append_dot_not_mem {c : Catalog} (h : c.DotFree) {parent : String}
    (hparent : parent ∈ c.flatten.keys) (rest : String) :
    parent ++ "." ++ rest ∉ c.flatten.keys := by
  rw [h.mem_keys_iff_follow?] at hparent ⊢
  obtain ⟨text, htext⟩ := hparent
  rintro ⟨other, hother⟩
  rw [follow?, Path.split_append_dot, Node.walk_append, ← follow?, htext] at hother
  obtain ⟨key, keys, hkeys⟩ := List.exists_cons_of_ne_nil (Path.split_ne_nil rest)
  rw [hkeys] at hother
  cases hother

/-- In a catalog without dots no path is below another one. -/
theorem DotFree.not_below {c : Catalog} (h : c.DotFree) {path parent : String}
    (hpath : path ∈ c.flatten.keys) (hparent : parent ∈ c.flatten.keys) :
    ¬ Path.Below path parent := by
  rintro ⟨rest, -, rfl⟩
  exact h.append_dot_not_mem hparent rest hpath

/-- In a catalog without dots no two paths overlap. -/
theorem DotFree.not_overlap {c : Catalog} (h : c.DotFree) {path other : String}
    (hpath : path ∈ c.flatten.keys) (hother : other ∈ c.flatten.keys) :
    ¬ Path.Overlap path other := by
  rintro (hbelow | hbelow)
  · exact h.not_below hpath hother hbelow
  · exact h.not_below hother hpath hbelow

/-- Of the leaves with one path flattening keeps the one whose keys come last. -/
theorem find?_flatten_eq_some_iff {c : Catalog} {path text : String} :
    c.flatten.find? path = some text ↔ ∃ keys, (keys, text) ∈ c.leaves ∧ Path.join keys = path ∧
      ∀ leaf ∈ c.leaves, Path.join leaf.1 = path → leaf.1 = keys ∨ leaf.1 < keys := by
  have horder := c.pairwise_leaves
  rw [flatten, KeyMap.find?_ofList_map_eq_some_iff]
  constructor
  · rintro ⟨before, leaf, after, hleaves, hleaf, hlast⟩
    obtain ⟨rfl, rfl⟩ := Prod.mk.inj hleaf
    rw [hleaves] at horder ⊢
    have hbefore := (List.pairwise_append.mp horder).2.2
    refine ⟨leaf.1, by simp, rfl, fun other hother hjoin => ?_⟩
    rcases List.mem_append.mp hother with hmem | hmem
    · exact .inr (hbefore other hmem leaf List.mem_cons_self)
    · rcases List.mem_cons.mp hmem with rfl | hmem
      · exact .inl rfl
      · exact absurd hjoin (hlast other hmem)
  · rintro ⟨keys, hmem, rfl, hgreatest⟩
    obtain ⟨before, after, hleaves⟩ := List.append_of_mem hmem
    refine ⟨before, (keys, text), after, hleaves, rfl, fun leaf hleaf hjoin => ?_⟩
    rw [hleaves] at horder hgreatest
    have hafter := (List.pairwise_append.mp horder).2.1
    have hlt : keys < leaf.1 := (List.pairwise_cons.mp hafter).1 leaf hleaf
    rcases hgreatest leaf (by simp [hleaf]) hjoin with heq | hgt
    · exact List.lt_irrefl keys (heq ▸ hlt)
    · exact List.lt_asymm hlt hgt

/-- The message that stands literally under a path is the one that flattening keeps. -/
theorem find?_flatten_of_literal {c : Catalog} {path text : String}
    (h : KeyMap.find? path c.children = some (.message text)) :
    c.flatten.find? path = some text := by
  refine find?_flatten_eq_some_iff.mpr ⟨[path], ?_, Path.join_singleton path, ?_⟩
  · rw [mem_leaves_iff, follow?_singleton, h]
  · rintro leaf hleaf rfl
    exact Path.eq_or_lt_singleton (ne_nil_of_mem_leaves hleaf)

/-- A look-up finds what flattening keeps, where dots are placed plainly. -/
theorem message?_eq_find?_flatten {c : Catalog} {path : String} (h : c.IsPlainAt path) :
    c.message? path = c.flatten.find? path := by
  rcases h with ⟨text, hliteral⟩ | hpieces
  · rw [find?_flatten_of_literal hliteral, message?_eq_some_iff, mem_leaves_iff, follow?_singleton]
    exact .inl hliteral
  · refine Option.ext fun text => ?_
    rw [message?_eq_some_iff, find?_flatten_eq_some_iff]
    constructor
    · rintro (hleaf | ⟨-, hleaf⟩)
      · have hnone := (hpieces _ hleaf (Path.join_singleton path)).2
        rw [mem_leaves_iff, follow?_singleton, hnone] at hleaf
        cases hleaf
      · refine ⟨_, hleaf, Path.join_split path, fun leaf hmem hjoin => .inl ?_⟩
        exact (hpieces leaf hmem hjoin).1
    · rintro ⟨keys, hleaf, hjoin, -⟩
      obtain ⟨rfl, hnone⟩ := hpieces _ hleaf hjoin
      exact .inr ⟨hnone, hleaf⟩

/-- Dots that only stand in keys of messages at the top level are placed plainly. -/
theorem HasPlainDots.isPlainAt {c : Catalog} (h : c.HasPlainDots) (path : String) :
    c.IsPlainAt path := by
  by_cases hliteral : ∃ text, KeyMap.find? path c.children = some (.message text)
  · exact .inl hliteral
  · refine .inr fun leaf hleaf hjoin => ?_
    obtain ⟨p, hp, rest, hkeys, hrest⟩ := Node.mem_leavesOf_iff.mp hleaf
    have hwalk := (Node.mem_leaves_iff (c.ordered.of_mem hp)).mp hrest
    -- No message stands literally under the path, so one key more leads on from the first.
    have hne : rest ≠ [] := by
      rintro rfl
      rw [hkeys, Path.join_singleton] at hjoin
      rw [Node.walk, Option.some.injEq] at hwalk
      refine hliteral ⟨leaf.2, c.ordered.1.find?_eq_some_iff.mpr ?_⟩
      rwa [← hjoin, ← hwalk]
    have hkey : Path.DotFree p.1 := by
      rcases (h p hp).2 with hkey | ⟨text, hmessage⟩
      · exact hkey
      · obtain ⟨next, rest, rfl⟩ := List.exists_cons_of_ne_nil hne
        rw [hmessage, Node.walk] at hwalk
        cases hwalk
    have hsplit : leaf.1 = Path.split path := by
      rw [← hjoin, Path.split_join (ne_nil_of_mem_leaves hleaf)]
      rw [hkeys, List.forall_mem_cons]
      exact ⟨hkey, (h p hp).1.of_walk hwalk⟩
    -- Only a group could stand literally under the path, but then the path would be one key.
    refine ⟨hsplit, ?_⟩
    cases hfind : KeyMap.find? path c.children with
    | none => rfl
    | some n =>
      rcases (h _ (KeyMap.mem_of_find? hfind)).2 with hpath | ⟨text, hmessage⟩
      · rw [hkeys, Path.split_of_dotFree hpath] at hsplit
        exact absurd (List.cons.inj hsplit).2 hne
      · exact absurd ⟨text, hfind.trans (congrArg some hmessage)⟩ hliteral

/-- Look-ups and flattening agree on every string, if only keys of messages at the top level have
dots. -/
theorem message?_eq_find?_flatten_of_hasPlainDots {c : Catalog} (h : c.HasPlainDots)
    (key : String) : c.message? key = c.flatten.find? key :=
  message?_eq_find?_flatten (h.isPlainAt key)

/-- A catalog with empty keys, in which one message stands literally under the path of another. -/
def layeredCatalog : Catalog where
  children := [("", .group [("", .message "Blank")]),
    ("menu", .group [("", .message "Menu"), ("help", .message "Help")]),
    ("menu.help", .message "Manual")]
  ordered := by decide

/-- Of the two messages with one path both sides take the one that stands literally under it, a
path of dots alone leads through empty keys, and neither side finds a group. -/
theorem message?_eq_find?_flatten_of_layeredCatalog :
    layeredCatalog.HasPlainDots ∧
      layeredCatalog.flatten = [(".", "Blank"), ("menu.", "Menu"), ("menu.help", "Manual")] ∧
      layeredCatalog.message? "menu.help" = some "Manual" ∧
      layeredCatalog.message? "." = some "Blank" ∧ layeredCatalog.message? "menu" = none := by
  have hdots : layeredCatalog.HasPlainDots := by decide
  have hagree := message?_eq_find?_flatten_of_hasPlainDots hdots
  have hflatten : layeredCatalog.flatten =
      [(".", "Blank"), ("menu.", "Menu"), ("menu.help", "Manual")] := by decide
  refine ⟨hdots, hflatten, ?_, ?_, ?_⟩ <;> rw [hagree, hflatten] <;> decide

end Catalog

end Phrasebook
