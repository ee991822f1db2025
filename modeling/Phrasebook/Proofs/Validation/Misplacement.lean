import Phrasebook.Proofs.Validation.Overlaps

/-!
# Messages in the place of groups

Without dots in keys, the pieces of a path are the only keys that can lead anywhere by it. So a path
at which the reference has a message and the candidate a group is an error, and where it is the
other way round every message of the group is one: a group without messages goes unnoticed. And no
two paths of one catalog overlap, so what is misplaced in one direction makes something misplaced in
the other.
-/

namespace Phrasebook

/-- The path that a problem is about. -/
def Validation.Problem.path : Validation.Problem → String
  | .misplaced path => path
  | .missing path => path

namespace Catalog

open Validation

/-- Some keys lead from the top level to a node, and they do so by this path. -/
def LeadsTo (c : Catalog) (path : String) (n : Node) : Prop :=
  ∃ keys, keys ≠ [] ∧ Path.join keys = path ∧ c.follow? keys = some n

/-- A path of a message is in the flattened catalog. -/
theorem LeadsTo.mem_keys_flatten {c : Catalog} {path text : String}
    (h : c.LeadsTo path (.message text)) : path ∈ c.flatten.keys := by
  obtain ⟨keys, -, hjoin, hwalk⟩ := h
  exact mem_keys_flatten_iff.mpr ⟨(keys, text), mem_leaves_iff.mpr hwalk, hjoin⟩

/-- In a catalog without dots a path leads where its pieces do. -/
theorem DotFree.leadsTo_iff {c : Catalog} (h : c.DotFree) {path : String} {n : Node} :
    c.LeadsTo path n ↔ c.follow? (Path.split path) = some n := by
  constructor
  · rintro ⟨keys, hne, rfl, hwalk⟩
    rwa [Path.split_join hne (Node.DotFree.of_walk (n := .group c.children) h hwalk)]
  · intro hwalk
    exact ⟨Path.split path, Path.split_ne_nil path, Path.join_split path, hwalk⟩

/-- There is an error about a path exactly if only the reference has it. -/
theorem exists_error_iff {reference candidate : Catalog} {path : String} :
    (∃ problem ∈ (reference.compare candidate).errors, problem.path = path) ↔
      path ∈ reference.flatten.keys ∧ path ∉ candidate.flatten.keys := by
  have hpath (other : String) (hits : Bool) :
      (if hits then Problem.misplaced other else .missing other).path = other := by
    cases hits <;> rfl
  constructor
  · rintro ⟨problem, hproblem, rfl⟩
    obtain ⟨other, hmem, hnone, rfl⟩ := mem_problems_iff.mp hproblem
    rw [hpath]
    exact ⟨hmem, hnone⟩
  · rintro ⟨hmem, hnone⟩
    exact ⟨_, mem_problems_iff.mpr ⟨path, hmem, hnone, rfl⟩, hpath path _⟩

/-- In a catalog without dots the paths that go on from that of a group are those of its messages,
so there is one exactly if the group has a message. -/
theorem DotFree.exists_append_dot_mem_iff {c : Catalog} (h : c.DotFree) {path : String}
    {children : List (String × Node)} (hgroup : c.LeadsTo path (.group children)) :
    (∃ rest, path ++ "." ++ rest ∈ c.flatten.keys) ↔ 0 < (Node.group children).messageCount := by
  have hwalk := h.leadsTo_iff.mp hgroup
  have hordered : (Node.group children).Ordered := c.ordered.of_walk hwalk
  have hfollow (keys : List String) :
      c.follow? (Path.split path ++ keys) = (Node.group children).walk keys := by
    rw [follow?, Node.walk_append, ← follow?, hwalk, Option.bind_some]
  rw [← Node.length_leaves, List.length_pos_iff_exists_mem]
  constructor
  · rintro ⟨rest, hrest⟩
    obtain ⟨text, htext⟩ := h.mem_keys_iff_follow?.mp hrest
    rw [Path.split_append_dot, hfollow] at htext
    exact ⟨(Path.split rest, text), (Node.mem_leaves_iff hordered).mpr htext⟩
  · rintro ⟨⟨keys, text⟩, hleaf⟩
    have htext := (Node.mem_leaves_iff hordered).mp hleaf
    have hne : keys ≠ [] := by
      rintro rfl
      cases htext
    refine ⟨Path.join keys, mem_keys_flatten_iff.mpr ⟨(Path.split path ++ keys, text), ?_, ?_⟩⟩
    · rw [mem_leaves_iff, hfollow, htext]
    · rw [Path.join_append (Path.split_ne_nil path) hne, Path.join_split]

/-- In a catalog without dots no path leads both to a message and to a group. -/
theorem DotFree.not_mem_of_group {c : Catalog} (h : c.DotFree) {path : String}
    {children : List (String × Node)} (hgroup : c.LeadsTo path (.group children)) :
    path ∉ c.flatten.keys := by
  intro hmem
  obtain ⟨text, htext⟩ := h.mem_keys_iff_follow?.mp hmem
  rw [h.leadsTo_iff.mp hgroup] at htext
  cases htext

/-- For catalogs without dots, a message of the reference in whose place the candidate has a group
makes an error about its path. If the reference has the group and the candidate the message, there
is an error about a path in the group exactly if the group has a message. -/
theorem errors_of_message_against_group {reference candidate : Catalog}
    (hreference : reference.DotFree) (hcandidate : candidate.DotFree) {path text : String}
    {children : List (String × Node)} :
    (reference.LeadsTo path (.message text) → candidate.LeadsTo path (.group children) →
      ∃ problem ∈ (reference.compare candidate).errors, problem.path = path) ∧
    (reference.LeadsTo path (.group children) → candidate.LeadsTo path (.message text) →
      ((∃ problem ∈ (reference.compare candidate).errors,
          ∃ rest, problem.path = path ++ "." ++ rest) ↔
        0 < (Node.group children).messageCount)) := by
  constructor
  · intro hmessage hgroup
    exact exists_error_iff.mpr ⟨hmessage.mem_keys_flatten, hcandidate.not_mem_of_group hgroup⟩
  · intro hgroup hmessage
    rw [← hreference.exists_append_dot_mem_iff hgroup]
    constructor
    · rintro ⟨problem, hproblem, rest, hrest⟩
      exact ⟨rest, (exists_error_iff.mp ⟨problem, hproblem, hrest⟩).1⟩
    · rintro ⟨rest, hrest⟩
      have hnone := hcandidate.append_dot_not_mem hmessage.mem_keys_flatten rest
      obtain ⟨problem, hproblem, hpath⟩ := exists_error_iff.mpr ⟨hrest, hnone⟩
      exact ⟨problem, hproblem, rest, hpath⟩

/-- A message against a group with a message is an error in either direction. -/
theorem errors_of_message_against_group_menu :
    menuCatalog.DotFree ∧ menuGroupCatalog.DotFree ∧
      (menuCatalog.compare menuGroupCatalog).errors ≠ [] ∧
      (menuGroupCatalog.compare menuCatalog).errors ≠ [] := by
  have hmenu : menuCatalog.DotFree := by decide
  have hgroup : menuGroupCatalog.DotFree := by decide
  have hmessage : menuCatalog.LeadsTo "menu" (.message "Menu") :=
    ⟨["menu"], by decide, by decide, rfl⟩
  have hchildren : menuGroupCatalog.LeadsTo "menu" (.group [("help", .message "Help")]) :=
    ⟨["menu"], by decide, by decide, rfl⟩
  obtain ⟨problem, hproblem, -⟩ :=
    (errors_of_message_against_group hmenu hgroup).1 hmessage hchildren
  obtain ⟨other, hother, -⟩ :=
    ((errors_of_message_against_group hgroup hmenu).2 hchildren hmessage).mpr (by decide)
  exact ⟨hmenu, hgroup, List.ne_nil_of_mem hproblem, List.ne_nil_of_mem hother⟩

/-- A catalog with a group in which there is no message. -/
def emptyGroupCatalog : Catalog where
  children := [("menu", .group [])]
  ordered := by decide

/-- The message of the candidate stands in the place of a group of the reference, but there is no
error. -/
theorem empty_group_unnoticed :
    emptyGroupCatalog.DotFree ∧ menuCatalog.DotFree ∧
      emptyGroupCatalog.LeadsTo "menu" (.group []) ∧
      menuCatalog.LeadsTo "menu" (.message "Menu") ∧
      emptyGroupCatalog.compare menuCatalog = { warnings := [.unknown "menu"] } :=
  ⟨by decide, by decide, ⟨["menu"], by decide, by decide, rfl⟩,
    ⟨["menu"], by decide, by decide, rfl⟩, by decide⟩

/-! ### Both directions -/

/-- What makes a path of a catalog without dots misplaced is itself misplaced in the other
direction. -/
theorem DotFree.exists_misplaced {a b : Catalog} (h : a.DotFree) {path : String}
    (hpath : .misplaced path ∈ (a.compare b).errors) :
    ∃ other, .misplaced other ∈ (b.compare a).errors := by
  obtain ⟨hmem, -, other, hother, hoverlap⟩ := misplaced_mem_errors_iff.mp hpath
  refine ⟨other, misplaced_mem_errors_iff.mpr ⟨hother, ?_, path, hmem, hoverlap.symm⟩⟩
  exact fun hboth => h.not_overlap hmem hboth hoverlap

/-- Of two catalogs without dots, something is misplaced in the one against the other exactly if
something is the other way round, and no path of a catalog without dots is below another one. -/
theorem misplaced_either_way {a b : Catalog} (ha : a.DotFree) (hb : b.DotFree) :
    ((∃ path, .misplaced path ∈ (a.compare b).errors) ↔
      ∃ path, .misplaced path ∈ (b.compare a).errors) ∧
    ∀ path ∈ a.flatten.keys, ∀ other ∈ a.flatten.keys, isBelow path other = false := by
  refine ⟨⟨?_, ?_⟩, fun path hpath other hother => ?_⟩
  · rintro ⟨path, hpath⟩
    exact ha.exists_misplaced hpath
  · rintro ⟨path, hpath⟩
    exact hb.exists_misplaced hpath
  · rw [← Bool.not_eq_true, isBelow_iff]
    exact ha.not_below hpath hother

/-- A catalog whose only message stands under the empty key. -/
def topCatalog : Catalog := ofEntries [("", ⟨.message "Top", trivial⟩)]

/-- A catalog that has a group where `topCatalog` has a message, and an empty key in it. -/
def blankCatalog : Catalog where
  children := [("", .group [("", .message "Blank"), ("help", .message "Help")])]
  ordered := by decide

/-- The message under the empty key is misplaced in one direction, so one of the group is in the
other, and the two paths of the group are not below one another. -/
theorem misplaced_either_way_blank :
    blankCatalog.DotFree ∧ topCatalog.DotFree ∧
      .misplaced "" ∈ (topCatalog.compare blankCatalog).errors ∧
      (∃ path, .misplaced path ∈ (blankCatalog.compare topCatalog).errors) ∧
      blankCatalog.flatten.keys = [".", ".help"] ∧ isBelow ".help" "." = false := by
  have hblank : blankCatalog.DotFree := by decide
  have htop : topCatalog.DotFree := by decide
  have hmisplaced : .misplaced "" ∈ (topCatalog.compare blankCatalog).errors := by decide
  obtain ⟨heither, hbelow⟩ := misplaced_either_way hblank htop
  exact ⟨hblank, htop, hmisplaced, heither.mpr ⟨"", hmisplaced⟩, by decide,
    hbelow _ (by decide) _ (by decide)⟩

end Catalog

end Phrasebook
