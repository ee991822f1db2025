import Phrasebook.Catalog.Basic
import Phrasebook.Json.Kind

/-!
# Catalogs as JSON

A message is a string and a group an object. Reading checks every value of the text, also one that
a later value of the same key replaces; of repeated keys the last one counts.
-/

namespace Phrasebook

namespace Node

mutual

/-- The node that a JSON value describes. -/
def ofJson? : Json → Option Node
  | .string s => some (.message s)
  | .object members => (childrenOfJson? members).map (fun cs => .group (KeyMap.ofList cs))
  | _ => none

/-- The nodes that the members of an object describe. -/
def childrenOfJson? : List (String × Json) → Option (List (String × Node))
  | [] => some []
  | (k, v) :: rest =>
    match ofJson? v, childrenOfJson? rest with
    | some n, some ns => some ((k, n) :: ns)
    | _, _ => none

end

mutual

/-- A node as a JSON value. -/
def toJson : Node → Json
  | .message text => .string text
  | .group children => .object (membersOf children)

/-- Some children as members of an object. -/
def membersOf : List (String × Node) → List (String × Json)
  | [] => []
  | (k, n) :: rest => (k, n.toJson) :: membersOf rest

end

/-- A node as JSON text. -/
def render (n : Node) : String := n.toJson.render

/-- A group made from ordered nodes is ordered. -/
theorem ordered_group_ofList {pairs : List (String × Node)} (h : ∀ p ∈ pairs, p.2.Ordered) :
    (group (KeyMap.ofList pairs)).Ordered := by
  suffices ∀ m : List (String × Node), (group m).Ordered →
      (group (pairs.foldl (fun m p => KeyMap.insert p.1 p.2 m) m)).Ordered from
    this [] ⟨.nil, trivial⟩
  induction pairs with
  | nil => exact fun _ hm => hm
  | cons p rest ih =>
    intro m hm
    exact ih (fun q hq => h q (List.mem_cons_of_mem _ hq)) _
      (hm.insert p.1 (h p List.mem_cons_self))

mutual

/-- What is read from JSON is in key order. -/
theorem ordered_of_ofJson? {v : Json} {n : Node} (h : ofJson? v = some n) : n.Ordered := by
  match v with
  | .string s =>
    simp only [ofJson?, Option.some.injEq] at h
    subst h
    trivial
  | .object members =>
    simp only [ofJson?, Option.map_eq_some_iff] at h
    obtain ⟨cs, hcs, rfl⟩ := h
    exact ordered_group_ofList (ordered_of_childrenOfJson? hcs)
  | .null | .bool _ | .number _ | .array _ => simp [ofJson?] at h

/-- The nodes that are read from the members of an object are in order inside, whatever the order of
the members. -/
theorem ordered_of_childrenOfJson? {members : List (String × Json)} {cs : List (String × Node)}
    (h : childrenOfJson? members = some cs) : ∀ p ∈ cs, p.2.Ordered := by
  match members with
  | [] =>
    simp only [childrenOfJson?, Option.some.injEq] at h
    subst h
    simp
  | (k, v) :: rest =>
    rw [childrenOfJson?] at h
    split at h
    · rename_i n ns hn hns
      simp only [Option.some.injEq] at h
      subst h
      intro p hp
      rcases List.mem_cons.mp hp with rfl | hp
      · exact ordered_of_ofJson? hn
      · exact ordered_of_childrenOfJson? hns p hp
    · simp at h

end

end Node

namespace Entry

/-- The entry that a JSON value describes. -/
def ofJson? (v : Json) : Option Entry :=
  match h : Node.ofJson? v with
  | some n => some ⟨n, Node.ordered_of_ofJson? h⟩
  | none => none

/-- The entry that a JSON text describes. A text of another shape is refused without a place. -/
def ofBytes (bytes : List UInt8) : Except Json.Error Entry := do
  let v ← Json.Reader.value Json.maxDepth bytes |>.mapError (Json.Fault.toError bytes)
  match ofJson? v.1 with
  | none => .error ⟨.notAnEntry, none⟩
  | some e =>
    match Json.Reader.skipSpace v.2 with
    | [] => .ok e
    | _ :: rest => .error (Json.Fault.toError bytes ⟨.trailingCharacters, rest⟩)

end Entry

namespace Catalog

/-- The bytes behind an object that ends here. -/
def skipObjectEnd (s : List UInt8) : List UInt8 :=
  match Json.Reader.skipSpace s with
  | b :: rest => if b = 0x7D then rest else b :: rest
  | [] => []

/-- A top-level entry. One of another shape is refused at the end of the object, if that is next. -/
def readEntry : Json.Reader Entry := fun s => do
  let (v, rest) ← Json.Reader.value (Json.maxDepth - 1) s
  match Entry.ofJson? v with
  | some e => .ok (e, rest)
  | none => .error ⟨.notAnEntry, skipObjectEnd rest⟩

/-- The catalog that a JSON text describes. -/
def ofBytes (bytes : List UInt8) : Except Json.Error Catalog :=
  (Json.Reader.document (Json.Reader.expectObject readEntry) bytes).map ofEntries

/-- The catalog that a string describes. -/
def ofString (text : String) : Except Json.Error Catalog := ofBytes (Utf8.ofString text)

/-- A catalog as a JSON value. -/
def toJson (c : Catalog) : Json := .object (Node.membersOf c.children)

/-- A catalog as JSON text. -/
def render (c : Catalog) : String := c.toJson.render

end Catalog

end Phrasebook
