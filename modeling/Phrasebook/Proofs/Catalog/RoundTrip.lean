import Phrasebook.Proofs.Catalog.Format
import Phrasebook.Proofs.Json.Printing

/-!
# Catalogs and their texts

The text of a catalog is read back as this catalog if its groups nest at most 127 deep, the catalog
itself counted, and it is refused if they nest deeper.
-/

namespace Phrasebook

namespace Node

mutual

/-- How many groups of a node stand inside one another. -/
def depth : Node → Nat
  | .message _ => 0
  | .group children => depthOf children + 1

/-- The depth of the deepest of some children. -/
def depthOf : List (String × Node) → Nat
  | [] => 0
  | (_, n) :: rest => max n.depth (depthOf rest)

end

mutual

/-- A node nests as deep as its JSON value. -/
theorem depth_toJson (n : Node) : n.toJson.depth = n.depth := by
  match n with
  | .message text => rfl
  | .group children => rw [toJson, Json.depth, depth, depth_membersOf children]

/-- What is written for some children nests as deep as they do. -/
theorem depth_membersOf (children : List (String × Node)) :
    Json.depthOfMembers (membersOf children) = depthOf children := by
  match children with
  | [] => rfl
  | (k, n) :: rest =>
    rw [membersOf, Json.depthOfMembers, depthOf, depth_toJson n, depth_membersOf rest]

end

mutual

/-- A node is printed as a text of its JSON value. -/
theorem spelled_toJson (n : Node) : Json.Spelled n.toJson n.toJson.renderChars := by
  match n with
  | .message text => exact Json.spelled_render_string text
  | .group children => exact Json.spelled_render_object (spelled_membersOf children)

/-- What is printed for each of some children belongs to the grammar. -/
theorem spelled_membersOf (children : List (String × Node)) :
    ∀ m ∈ membersOf children, Json.Spelled m.2 m.2.renderChars := by
  match children with
  | [] => simp [membersOf]
  | (k, n) :: rest => exact List.forall_mem_cons.mpr ⟨spelled_toJson n, spelled_membersOf rest⟩

end

mutual

/-- A node in key order is what its JSON value describes. -/
theorem ofJson?_toJson {n : Node} (h : n.Ordered) : ofJson? n.toJson = some n := by
  match n with
  | .message text => rfl
  | .group children =>
    rw [toJson, ofJson?, childrenOfJson?_membersOf h.2, Option.map_some, h.1.ofList_eq]

/-- Children in order are read back from what is written for them. -/
theorem childrenOfJson?_membersOf {children : List (String × Node)} (h : AllOrdered children) :
    childrenOfJson? (membersOf children) = some children := by
  match children with
  | [] => rfl
  | (k, n) :: rest =>
    exact childrenOfJson?_eq_some_iff.mpr
      ⟨n, rest, ofJson?_toJson h.1, childrenOfJson?_membersOf h.2, rfl⟩

end

end Node

namespace Catalog

/-- How many objects of a catalog stand inside one another, the catalog itself counted. -/
def depth (c : Catalog) : Nat := Node.depthOf c.children + 1

/-- What is written for a catalog nests as deep as the catalog. -/
theorem depth_toJson (c : Catalog) : c.toJson.depth = c.depth :=
  congrArg (· + 1) (Node.depth_membersOf c.children)

/-- The text of a catalog is a document of its JSON value. -/
theorem document_render (c : Catalog) : Json.Document c.toJson c.render.toList := by
  have hspelled : Json.Spelled c.toJson c.toJson.renderChars :=
    Json.spelled_render_object (Node.spelled_membersOf c.children)
  exact hspelled.document_render

/-- A text of a catalog that nests too deep is not read as any catalog. -/
theorem depth_le_of_ofString_render {c other : Catalog} (h : ofString c.render = .ok other) :
    c.depth ≤ 127 := by
  obtain ⟨members, t, hbytes, hdoc, hdepth, -⟩ := ofBytes_eq_ok_iff.mp h
  obtain rfl := Utf8.encode_injective hbytes
  rw [← c.depth_toJson, c.document_render.unique hdoc]
  exact hdepth

/-- A catalog that nests at most 127 deep is read back from its text, and the text of a deeper one
is refused. -/
theorem ofString_render (c : Catalog) :
    (ofString c.render = .ok c ↔ c.depth ≤ 127) ∧
    ((∃ e, ofString c.render = .error e) ↔ 127 < c.depth) := by
  have hread (hdepth : c.depth ≤ 127) : ofString c.render = .ok c := by
    rw [← c.depth_toJson] at hdepth
    exact ofBytes_eq_ok_iff.mpr
      ⟨_, _, rfl, c.document_render, hdepth, Node.ofJson?_toJson c.ordered⟩
  refine ⟨⟨depth_le_of_ofString_render, hread⟩, ⟨?_, fun hdeep => ?_⟩⟩
  · rintro ⟨e, he⟩
    refine Nat.not_le.mp fun hdepth => ?_
    rw [hread hdepth] at he
    cases he
  · cases h : ofString c.render with
    | error e => exact ⟨e, rfl⟩
    | ok other => exact absurd (depth_le_of_ofString_render h) (Nat.not_le.mpr hdeep)

end Catalog

end Phrasebook
