import Mathlib.Data.List.Nodup
import Mathlib.Data.List.Perm.Subperm
import Phrasebook.Proofs.Catalog.Clashes

/-!
# How many messages there are

Every message is counted, also one that flattening drops because another one has its path. So a
flattened catalog is never larger than the count says, and it is as large exactly if the keys that
lead to a message can be told from its path.
-/

namespace Phrasebook

namespace KeyMap

variable {α : Type}

/-- A map has as many keys as pairs. -/
@[simp] theorem length_keys (m : KeyMap α) : (keys m).length = m.length := List.length_map ..

/-- In a map in order no key occurs twice. -/
theorem Ordered.nodup_keys {m : KeyMap α} (h : Ordered m) : (keys m).Nodup := by
  rw [keys, List.Nodup, List.pairwise_map]
  exact h.imp String.ne_of_lt

/-- The map of some pairs has their keys, each of them once. -/
theorem subperm_keys_ofList (pairs : List (String × α)) :
    (keys (ofList pairs)).Subperm (keys pairs) :=
  List.subperm_of_subset (ordered_ofList pairs).nodup_keys fun _ hkey => mem_keys_ofList.mp hkey

/-- The map of some pairs has no more pairs than these. -/
theorem length_ofList_le (pairs : List (String × α)) : (ofList pairs).length ≤ pairs.length := by
  simpa using (subperm_keys_ofList pairs).length_le

/-- The map of some pairs is as large as their list exactly if no two of them have one key. -/
theorem length_ofList_eq_iff {pairs : List (String × α)} :
    (ofList pairs).length = pairs.length ↔ (keys pairs).Nodup := by
  have hnodup := (ordered_ofList pairs).nodup_keys
  constructor
  · intro hlength
    have hle : (keys pairs).length ≤ (keys (ofList pairs)).length := by
      simp [hlength]
    have hperm := (subperm_keys_ofList pairs).perm_of_length_le hle
    exact hperm.nodup_iff.mp hnodup
  · intro hpairs
    have hperm := (List.perm_ext_iff_of_nodup hnodup hpairs).mpr fun _ => mem_keys_ofList
    simpa using hperm.length_eq

end KeyMap

namespace Catalog

/-- A catalog has as many leaves as messages. -/
theorem length_leaves (c : Catalog) : c.leaves.length = c.messageCount :=
  Node.length_leavesOf c.children

/-- No leaf of a catalog occurs twice, since the leaves are in order of their keys. -/
theorem nodup_leaves (c : Catalog) : c.leaves.Nodup := by
  refine c.pairwise_leaves.imp fun {a b} hlt heq => ?_
  subst heq
  exact List.lt_irrefl a.1 hlt

/-- No path occurs twice among the leaves exactly if all keys that lead to a message by one path are
the same keys. -/
theorem nodup_paths_iff {c : Catalog} :
    (c.leaves.map fun leaf => Path.join leaf.1).Nodup ↔
      ∀ keys others path text other,
        c.Reaches keys path text → c.Reaches others path other → keys = others := by
  rw [List.nodup_map_iff_inj_on c.nodup_leaves]
  constructor
  · intro hinj keys others path text other hkeys hothers
    obtain ⟨hleaf, hjoin⟩ := reaches_iff.mp hkeys
    obtain ⟨hleaf', hjoin'⟩ := reaches_iff.mp hothers
    have hsame := hinj (keys, text) hleaf (others, other) hleaf' (hjoin.trans hjoin'.symm)
    exact congrArg Prod.fst hsame
  · rintro hpaths ⟨keys, text⟩ hleaf ⟨others, other⟩ hleaf' hjoin
    have hkeys : c.Reaches keys (Path.join keys) text := reaches_iff.mpr ⟨hleaf, rfl⟩
    have hothers : c.Reaches others (Path.join keys) other := reaches_iff.mpr ⟨hleaf', hjoin.symm⟩
    obtain rfl := hpaths keys others _ text other hkeys hothers
    rw [hkeys.text_eq hothers]

/-- In a catalog without dots the keys that lead to a message are the pieces of its path. -/
theorem DotFree.eq_split_of_reaches {c : Catalog} (h : c.DotFree) {keys : List String}
    {path text : String} (hkeys : c.Reaches keys path text) : keys = Path.split path := by
  have hfree := Node.DotFree.of_walk (n := .group c.children) h hkeys.1
  rw [← hkeys.2, Path.split_join hkeys.ne_nil hfree]

/-- A flattened catalog has at most as many texts as the catalog has messages. It has as many
exactly if no two messages, which differ in the keys that lead to them, have one path. So it does if
no key has a dot. -/
theorem messageCount_bounds_flatten (c : Catalog) :
    c.flatten.length ≤ c.messageCount ∧
    (c.flatten.length = c.messageCount ↔
      ∀ keys others path text other,
        c.Reaches keys path text → c.Reaches others path other → keys = others) ∧
    (c.DotFree → c.flatten.length = c.messageCount) := by
  let pairs := c.leaves.map fun leaf => (Path.join leaf.1, leaf.2)
  have hcount : pairs.length = c.messageCount := by
    rw [List.length_map, length_leaves]
  have hpaths : KeyMap.keys pairs = c.leaves.map fun leaf => Path.join leaf.1 := by
    rw [KeyMap.keys, List.map_map]
    rfl
  have hiff : c.flatten.length = c.messageCount ↔
      ∀ keys others path text other,
        c.Reaches keys path text → c.Reaches others path other → keys = others := by
    rw [← nodup_paths_iff, ← hpaths, ← hcount]
    exact KeyMap.length_ofList_eq_iff
  refine ⟨?_, hiff, fun hfree => hiff.mpr ?_⟩
  · rw [← hcount]
    exact KeyMap.length_ofList_le pairs
  · intro keys others path text other hkeys hothers
    rw [hfree.eq_split_of_reaches hkeys, hfree.eq_split_of_reaches hothers]

/-- Two messages with one path are counted both, and one of them is flattened. -/
example :
    let c : Catalog :=
      ⟨[("menu", .group [("help", .message "Help")]), ("menu.help", .message "Manual")], by decide⟩
    c.flatten.length = 1 ∧ c.messageCount = 2 := by
  decide

end Catalog

end Phrasebook
