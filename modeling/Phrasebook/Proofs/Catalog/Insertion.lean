import Phrasebook.Catalog.Lookup
import Phrasebook.Proofs.Catalog.Paths

/-!
# Look-ups behind an insertion

An inserted entry is found under its key. It is found below the key, too, by the paths that begin
with the key and lead on through groups: these are the only other look-ups that an insertion
changes. A key with a dot begins no such path, so an entry under it is seen under this key alone.
-/

namespace Phrasebook

namespace Path

/-- A path that goes on from a key with a dot is longer than the key. -/
theorem append_dot_ne (key rest : String) : key ++ "." ++ rest ≠ key := by
  intro h
  have hlength := congrArg String.length h
  have hdot : ".".length = 1 := rfl
  rw [String.length_append, String.length_append, hdot] at hlength
  omega

/-- A path whose first piece is this key is the key, or goes on from it with a dot. -/
theorem eq_or_append_dot_of_split {path key : String} {keys : List String}
    (h : split path = key :: keys) : path = key ∨ ∃ rest, path = key ++ "." ++ rest := by
  have hpath : path = join (key :: keys) := by rw [← h, join_split]
  by_cases hkeys : keys = []
  · left
    rw [hpath, hkeys, join_singleton]
  · right
    have hjoin := join_append (List.cons_ne_nil key []) hkeys
    rw [List.singleton_append, join_singleton] at hjoin
    exact ⟨join keys, hpath.trans hjoin⟩

end Path

namespace Catalog

/-- Looking a path up leads through a top-level key: the key has no dot, the path goes on from it
with one, and nothing stands literally under the path. -/
def LeadsThrough (c : Catalog) (key path : String) : Prop :=
  Path.DotFree key ∧ KeyMap.find? path c.children = none ∧ ∃ rest, path = key ++ "." ++ rest

/-- Keys that begin with the inserted one lead on inside the entry. -/
theorem follow?_insert_self (c : Catalog) (key : String) (e : Entry) (keys : List String) :
    (c.insert key e).follow? (key :: keys) = e.node.walk keys := by
  rw [follow?, insert, Node.walk, KeyMap.find?_insert_self, Option.bind_some]

/-- Keys that begin with another one lead where they led. -/
theorem follow?_insert_of_ne (c : Catalog) {key other : String} (e : Entry) (keys : List String)
    (hne : other ≠ key) : (c.insert key e).follow? (other :: keys) = c.follow? (other :: keys) := by
  rw [follow?, follow?, insert, Node.walk, Node.walk, KeyMap.find?_insert_of_ne _ _ hne]

/-- An entry that was inserted is found under its key. -/
theorem entry?_insert_self (c : Catalog) (key : String) (e : Entry) :
    entry? (c.insert key e) key = some e.node := by
  rw [insert, entry?, KeyMap.find?_insert_self]

/-- A path that leads through the inserted key is followed inside the entry. -/
theorem entry?_insert_of_leadsThrough {c : Catalog} {key rest : String} (e : Entry)
    (h : c.LeadsThrough key (key ++ "." ++ rest)) :
    entry? (c.insert key e) (key ++ "." ++ rest) = e.node.walk (Path.split rest) := by
  obtain ⟨hfree, hnone, -⟩ := h
  have hliteral : KeyMap.find? (key ++ "." ++ rest) (c.insert key e).children = none := by
    rw [insert, KeyMap.find?_insert_of_ne _ _ (Path.append_dot_ne key rest), hnone]
  have hsplit : Path.split (key ++ "." ++ rest) = key :: Path.split rest := by
    rw [Path.split_append_dot, Path.split_of_dotFree hfree, List.singleton_append]
  unfold entry?
  rw [hliteral, hsplit]
  exact c.follow?_insert_self key e (Path.split rest)

/-- Any other path but the key itself leads where it led. -/
theorem entry?_insert_of_not_leadsThrough {c : Catalog} {key path : String} (e : Entry)
    (hne : path ≠ key) (h : ¬ c.LeadsThrough key path) :
    entry? (c.insert key e) path = c.entry? path := by
  have hliteral : KeyMap.find? path (c.insert key e).children = KeyMap.find? path c.children := by
    rw [insert, KeyMap.find?_insert_of_ne _ _ hne]
  unfold entry?
  rw [hliteral]
  cases hfind : KeyMap.find? path c.children with
  | some n => rfl
  | none =>
    obtain ⟨first, keys, hsplit⟩ := List.exists_cons_of_ne_nil (Path.split_ne_nil path)
    have hfirst : first ≠ key := by
      rintro rfl
      have hmem : first ∈ Path.split path := hsplit ▸ List.mem_cons_self
      rcases Path.eq_or_append_dot_of_split hsplit with heq | hbelow
      · exact hne heq
      · exact h ⟨Path.dotFree_of_mem_split hmem, hfind, hbelow⟩
    rw [hsplit]
    exact c.follow?_insert_of_ne e keys hfirst

/-- What an insertion does to the look-ups. The key finds the entry. A path that leads through the
key finds what its further pieces lead to inside the entry. Every other path finds what it found
before; if the key has a dot this is every path but the key, also one that goes on from it. -/
theorem entry?_insert (c : Catalog) (key : String) (e : Entry) :
    entry? (c.insert key e) key = some e.node ∧
    (∀ rest, c.LeadsThrough key (key ++ "." ++ rest) →
      entry? (c.insert key e) (key ++ "." ++ rest) = e.node.walk (Path.split rest)) ∧
    (∀ path, path ≠ key → ¬ c.LeadsThrough key path →
      entry? (c.insert key e) path = c.entry? path) ∧
    (¬ Path.DotFree key → ∀ path, path ≠ key →
      entry? (c.insert key e) path = c.entry? path) := by
  refine ⟨c.entry?_insert_self key e, fun rest hthrough => ?_, fun path hne hother => ?_,
    fun hdot path hne => ?_⟩
  · exact entry?_insert_of_leadsThrough e hthrough
  · exact entry?_insert_of_not_leadsThrough e hne hother
  · exact entry?_insert_of_not_leadsThrough e hne fun hthrough => hdot hthrough.1

/-- A message under the path of a group hides the group, and not what is in it. -/
example :
    let c : Catalog :=
      ⟨[("menu", .group [("help", .group [("more", .message "More")])])], by decide⟩
    let after := c.insert "menu.help" ⟨.message "Help", by decide⟩
    after.message? "menu.help" = some "Help" ∧ after.message? "menu.help.more" = some "More" := by
  decide

end Catalog

end Phrasebook
