import Phrasebook.Proofs.Catalog.Flattening

/-!
# Messages with one path

Keys with dots let several sequences of keys lead to messages by one path. Flattening keeps the
message whose keys come last in lexicographic order, which are those that take the longer key
wherever they part from others. A look-up goes by the literal key or else by the pieces of the path,
which come first of all. So everything a look-up finds has a flattened text under its path, but the
text may be that of another message.
-/

namespace Phrasebook.Catalog

/-- Keys lead from the top level to a message, and they do so by this path. -/
def Reaches (c : Catalog) (keys : List String) (path text : String) : Prop :=
  c.follow? keys = some (.message text) ∧ Path.join keys = path

/-- Among the keys that lead to messages by a path these come last in lexicographic order. -/
def Prevails (c : Catalog) (keys : List String) (path text : String) : Prop :=
  c.Reaches keys path text ∧
    ∀ others other, c.Reaches others path other → others = keys ∨ others < keys

/-- The messages that keys reach by a path are the leaves whose keys make up this path. -/
theorem reaches_iff {c : Catalog} {keys : List String} {path text : String} :
    c.Reaches keys path text ↔ (keys, text) ∈ c.leaves ∧ Path.join keys = path := by
  rw [Reaches, mem_leaves_iff]

/-- No message is reached without a key. -/
theorem Reaches.ne_nil {c : Catalog} {keys : List String} {path text : String}
    (h : c.Reaches keys path text) : keys ≠ [] :=
  ne_nil_of_mem_leaves (reaches_iff.mp h).1

/-- Keys lead to one message at most. -/
theorem Reaches.text_eq {c : Catalog} {keys : List String} {path text other : String}
    (h : c.Reaches keys path text) (h' : c.Reaches keys path other) : text = other := by
  have hnode : Node.message text = .message other := Option.some.inj (h.1.symm.trans h'.1)
  cases hnode
  rfl

/-- Of two sequences of keys that lead to messages by one path the one that takes the longer key
where they part comes behind the other. -/
theorem Reaches.lt_iff_takesLonger {c : Catalog} {keys others : List String}
    {path text other : String} (h : c.Reaches keys path text) (h' : c.Reaches others path other) :
    others < keys ↔ Path.TakesLonger keys others :=
  Path.lt_iff_takesLonger h.ne_nil h'.ne_nil (h.2.trans h'.2.symm)

/-- A path is in the flattened catalog exactly if some keys lead to a message by it. -/
theorem mem_keys_flatten_iff_exists_reaches {c : Catalog} {path : String} :
    path ∈ c.flatten.keys ↔ ∃ keys text, c.Reaches keys path text := by
  rw [mem_keys_flatten_iff]
  constructor
  · rintro ⟨leaf, hleaf, hjoin⟩
    exact ⟨leaf.1, leaf.2, reaches_iff.mpr ⟨hleaf, hjoin⟩⟩
  · rintro ⟨keys, text, h⟩
    exact ⟨(keys, text), reaches_iff.mp h⟩

/-- Flattening keeps the message whose keys prevail. -/
theorem find?_flatten_iff_prevails {c : Catalog} {path text : String} :
    c.flatten.find? path = some text ↔ ∃ keys, c.Prevails keys path text := by
  rw [find?_flatten_eq_some_iff]
  refine exists_congr fun keys => ?_
  rw [Prevails, reaches_iff, and_assoc]
  refine and_congr_right fun _ => and_congr_right fun _ => ?_
  constructor
  · intro h others other hreaches
    obtain ⟨hleaf, hjoin⟩ := reaches_iff.mp hreaches
    exact h (others, other) hleaf hjoin
  · intro h leaf hleaf hjoin
    exact h leaf.1 leaf.2 (reaches_iff.mpr ⟨hleaf, hjoin⟩)

/-- Keys prevail exactly if they take the longer key wherever they part from others. -/
theorem prevails_iff_takesLonger {c : Catalog} {keys : List String} {path text : String} :
    c.Prevails keys path text ↔ c.Reaches keys path text ∧
      ∀ others other, c.Reaches others path other →
        others = keys ∨ Path.TakesLonger keys others := by
  refine and_congr_right fun hkeys => ?_
  refine forall_congr' fun others => forall_congr' fun other => imp_congr_right fun hothers => ?_
  rw [hkeys.lt_iff_takesLonger hothers]

/-- A path is kept exactly if some keys lead to a message by it. The text kept is that of the
message whose keys come last in lexicographic order among those that lead to messages by this path,
which are the keys that take the longer one wherever they part from others. -/
theorem flatten_keeps_last (c : Catalog) (path : String) :
    (path ∈ c.flatten.keys ↔ ∃ keys text, c.Reaches keys path text) ∧
    ∀ text,
      (c.flatten.find? path = some text ↔
        ∃ keys, c.Reaches keys path text ∧
          ∀ others other, c.Reaches others path other → others = keys ∨ others < keys) ∧
      (c.flatten.find? path = some text ↔
        ∃ keys, c.Reaches keys path text ∧
          ∀ others other, c.Reaches others path other →
            others = keys ∨ Path.TakesLonger keys others) := by
  refine ⟨mem_keys_flatten_iff_exists_reaches, fun text => ⟨find?_flatten_iff_prevails, ?_⟩⟩
  rw [find?_flatten_iff_prevails]
  exact exists_congr fun keys => prevails_iff_takesLonger

/-- The pieces of a path prevail only if no other keys lead to a message by it. -/
theorem Prevails.eq_split {c : Catalog} {path text : String}
    (h : c.Prevails (Path.split path) path text) {keys : List String} {other : String}
    (hkeys : c.Reaches keys path other) : keys = Path.split path := by
  refine Decidable.byContradiction fun hne => ?_
  have hlt : Path.split path < keys := by
    have hpath := hkeys.2
    subst hpath
    exact Path.split_lt hkeys.ne_nil hne
  rcases h.2 keys other hkeys with heq | hgt
  · exact hne heq
  · exact List.lt_asymm hlt hgt

/-- Whatever a look-up finds has a flattened text under its path. The text is the same if the path
stands literally at the top level, or if its pieces are the only keys that lead to a message by it.
Otherwise the text is that of another message, whose keys prevail. -/
theorem find?_flatten_of_message? {c : Catalog} {path text : String}
    (h : c.message? path = some text) :
    ∃ kept, c.flatten.find? path = some kept ∧
      (KeyMap.find? path c.children ≠ none ∨
        (∀ keys other, c.Reaches keys path other → keys = Path.split path) → kept = text) ∧
      (KeyMap.find? path c.children = none →
        (∃ keys other, c.Reaches keys path other ∧ keys ≠ Path.split path) →
          ∃ keys, keys ≠ Path.split path ∧ c.Prevails keys path kept) := by
  rcases message?_eq_some_iff.mp h with hleaf | ⟨hnone, hleaf⟩
  · have hliteral : KeyMap.find? path c.children = some (.message text) := by
      rwa [mem_leaves_iff, follow?_singleton] at hleaf
    refine ⟨text, find?_flatten_of_literal hliteral, fun _ => rfl, fun hnone => ?_⟩
    rw [hnone] at hliteral
    cases hliteral
  · have hpieces : c.Reaches (Path.split path) path text :=
      reaches_iff.mpr ⟨hleaf, Path.join_split path⟩
    obtain ⟨kept, hkept⟩ := KeyMap.mem_keys_iff.mp
      (mem_keys_flatten_iff_exists_reaches.mpr ⟨_, _, hpieces⟩)
    obtain ⟨keys, hkeys⟩ := find?_flatten_iff_prevails.mp hkept
    refine ⟨kept, hkept, ?_, fun _ => ?_⟩
    · rintro (hliteral | honly)
      · exact absurd hnone hliteral
      · obtain rfl := honly keys kept hkeys.1
        exact hkeys.1.text_eq hpieces
    · rintro ⟨others, other, hothers, hne⟩
      refine ⟨keys, ?_, hkeys⟩
      rintro rfl
      exact hne (hkeys.eq_split hothers)

/-- A catalog with two messages of one path, the one in a group of a group and the other under a key
with a dot. -/
def clashingCatalog : Catalog where
  children := [("menu", .group [("file", .group [("open", .message "Open")]),
    ("file.open", .message "Open a file"), ("help", .message "Help")])]
  ordered := by decide

/-- One look-up finds the only message of its path, the other one a message that flattening does not
keep. -/
theorem find?_flatten_of_clashingCatalog :
    clashingCatalog.message? "menu.help" = some "Help" ∧
      clashingCatalog.flatten.find? "menu.help" = some "Help" ∧
      clashingCatalog.message? "menu.file.open" = some "Open" ∧
      ∃ keys, keys ≠ ["menu", "file", "open"] ∧
        clashingCatalog.Prevails keys "menu.file.open" "Open a file" := by
  have hhelp : clashingCatalog.message? "menu.help" = some "Help" := by decide
  have hopen : clashingCatalog.message? "menu.file.open" = some "Open" := by decide
  obtain ⟨kept, hkept, hsame, -⟩ := find?_flatten_of_message? hhelp
  obtain ⟨text, htext, -, hother⟩ := find?_flatten_of_message? hopen
  have honly : ∀ leaf ∈ clashingCatalog.leaves, Path.join leaf.1 = "menu.help" →
      leaf.1 = Path.split "menu.help" := by decide
  obtain rfl := hsame (.inr fun keys other hkeys =>
    honly (keys, other) (reaches_iff.mp hkeys).1 hkeys.2)
  have hdotted : clashingCatalog.Reaches ["menu", "file.open"] "menu.file.open" "Open a file" :=
    reaches_iff.mpr ⟨by decide, by decide⟩
  have hlast : clashingCatalog.flatten.find? "menu.file.open" = some "Open a file" := by decide
  obtain rfl := Option.some.inj (htext.symm.trans hlast)
  exact ⟨hhelp, hkept, hopen, hother (by decide) ⟨_, _, hdotted, by decide⟩⟩

/-- The text that is found under the path is not the one that is flattened. -/
theorem found_text_not_flattened :
    clashingCatalog.message? "menu.file.open" = some "Open" ∧
      clashingCatalog.flatten.find? "menu.file.open" = some "Open a file" := by
  decide

end Phrasebook.Catalog
