import Phrasebook.Catalog.Text
import Phrasebook.Proofs.Json.Reading

/-!
# The catalog format

A catalog is read from the documents whose value is an object with strings and objects of the same
kind under its keys, and from nothing else. The catalog that is read has, at every level, the keys
of the object, and under each key what the last member of that key describes.
-/

namespace Phrasebook

namespace Json

/-- A string, or an object with values of the same kind under its keys. A member counts also if a
later one has its key. -/
inductive IsEntry : Json → Prop
  | string (text : String) : IsEntry (.string text)
  | object {members : List (String × Json)} (h : ∀ m ∈ members, IsEntry m.2) :
      IsEntry (.object members)

end Json

namespace Node

/-- What a JSON value describes: a string describes the message, and an object the group with its
keys, under each of which stands what the last member of that key describes. -/
inductive IsOf : Json → Node → Prop
  | message (text : String) : IsOf (.string text) (.message text)
  | group {members : List (String × Json)} {children : List (String × Node)}
      (ordered : KeyMap.Ordered children)
      (keys : ∀ key, key ∈ KeyMap.keys children ↔ key ∈ KeyMap.keys members)
      (last : ∀ {before after : List (String × Json)} {key : String} {v : Json} {n : Node},
        members = before ++ (key, v) :: after → key ∉ KeyMap.keys after → (key, n) ∈ children →
          IsOf v n) :
      IsOf (.object members) (.group children)

/-- A value describes one node at most. -/
theorem IsOf.unique {v : Json} {n m : Node} (hn : IsOf v n) (hm : IsOf v m) : n = m := by
  induction hn generalizing m with
  | message text =>
    cases hm
    rfl
  | @group members children ordered keys last ih =>
    cases hm with
    | @group _ others ordered' keys' last' =>
      -- The last member of a key describes the node that both groups have under it.
      have hboth {key : String} (hkey : key ∈ KeyMap.keys members) :
          ∃ n, (key, n) ∈ children ∧ (key, n) ∈ others := by
        obtain ⟨before, v, after, heq, hafter⟩ := KeyMap.exists_last_of_mem_keys hkey
        obtain ⟨n, hn⟩ := KeyMap.mem_keys_iff.mp ((keys key).mpr hkey)
        obtain ⟨m, hm⟩ := KeyMap.mem_keys_iff.mp ((keys' key).mpr hkey)
        have hn := KeyMap.mem_of_find? hn
        have hm := KeyMap.mem_of_find? hm
        obtain rfl := ih heq hafter hn (last' heq hafter hm)
        exact ⟨n, hn, hm⟩
      have hsame {a b : List (String × Node)} (ha : KeyMap.Ordered a) {p : String × Node}
          (hp : p ∈ a) {n : Node} (hn : (p.1, n) ∈ a ∧ (p.1, n) ∈ b) : p ∈ b := by
        have hvalue := ha.find?_eq_some_iff.mpr hp
        rw [ha.find?_eq_some_iff.mpr hn.1, Option.some.injEq] at hvalue
        subst hvalue
        exact hn.2
      have hmem {a : List (String × Node)} {p : String × Node} (hp : p ∈ a) :
          p.1 ∈ KeyMap.keys a := List.mem_map_of_mem hp
      refine congrArg Node.group (ordered.ext ordered' fun p => ⟨fun hp => ?_, fun hp => ?_⟩)
      · obtain ⟨n, hn⟩ := hboth ((keys p.1).mp (hmem hp))
        exact hsame ordered hp hn
      · obtain ⟨n, hn⟩ := hboth ((keys' p.1).mp (hmem hp))
        exact hsame ordered' hp hn.symm

/-! ### Reading nodes -/

mutual

/-- Only strings and objects of the same kind describe a node. -/
theorem isEntry_of_ofJson? {v : Json} {n : Node} (h : ofJson? v = some n) : v.IsEntry := by
  match v with
  | .string s => exact .string s
  | .object members =>
    simp only [ofJson?, Option.map_eq_some_iff] at h
    obtain ⟨cs, hcs, -⟩ := h
    exact .object (isEntry_of_childrenOfJson? hcs)
  | .null | .bool _ | .number _ | .array _ => simp [ofJson?] at h

/-- Where members are read as children, the value of each describes an entry. -/
theorem isEntry_of_childrenOfJson? {members : List (String × Json)} {cs : List (String × Node)}
    (h : childrenOfJson? members = some cs) : ∀ m ∈ members, m.2.IsEntry := by
  match members with
  | [] => simp
  | (k, v) :: rest =>
    rw [childrenOfJson?] at h
    split at h
    · rename_i n ns hn hns
      exact List.forall_mem_cons.mpr ⟨isEntry_of_ofJson? hn, isEntry_of_childrenOfJson? hns⟩
    · cases h

end

/-- Members are read as children one by one: the first one gives the first child, the others give
the others. -/
theorem childrenOfJson?_eq_some_iff {key : String} {v : Json} {rest : List (String × Json)}
    {cs : List (String × Node)} : childrenOfJson? ((key, v) :: rest) = some cs ↔
      ∃ n ns, ofJson? v = some n ∧ childrenOfJson? rest = some ns ∧ cs = (key, n) :: ns := by
  rw [childrenOfJson?]
  constructor
  · intro h
    split at h
    · rename_i n ns hn hns
      exact ⟨n, ns, hn, hns, (Option.some.inj h).symm⟩
    · cases h
  · rintro ⟨n, ns, hn, hns, rfl⟩
    rw [hn, hns]

/-- Members whose values are read as nodes, each by itself, are read as children. -/
theorem exists_childrenOfJson? {members : List (String × Json)}
    (h : ∀ m ∈ members, ∃ n, ofJson? m.2 = some n) : ∃ cs, childrenOfJson? members = some cs := by
  induction members with
  | nil => exact ⟨[], rfl⟩
  | cons m rest ih =>
    obtain ⟨⟨n, hn⟩, hrest⟩ := List.forall_mem_cons.mp h
    obtain ⟨ns, hns⟩ := ih hrest
    exact ⟨_, childrenOfJson?_eq_some_iff.mpr ⟨n, ns, hn, hns, rfl⟩⟩

/-- Every such value describes a node. -/
theorem exists_ofJson?_of_isEntry {v : Json} (h : v.IsEntry) : ∃ n, ofJson? v = some n := by
  induction h with
  | string text => exact ⟨_, rfl⟩
  | object _ ih =>
    obtain ⟨cs, hcs⟩ := exists_childrenOfJson? ih
    exact ⟨_, by rw [ofJson?, hcs]; rfl⟩

/-- The members of an object are read under their keys. -/
theorem keys_of_childrenOfJson? {members : List (String × Json)} {cs : List (String × Node)}
    (h : childrenOfJson? members = some cs) : KeyMap.keys cs = KeyMap.keys members := by
  induction members generalizing cs with
  | nil =>
    cases h
    rfl
  | cons m rest ih =>
    obtain ⟨n, ns, -, hns, rfl⟩ := childrenOfJson?_eq_some_iff.mp h
    exact congrArg (m.1 :: ·) (ih hns)

/-- A member is read between those before it and those behind it. -/
theorem exists_of_childrenOfJson?_append {before after : List (String × Json)} {key : String}
    {v : Json} {cs : List (String × Node)}
    (h : childrenOfJson? (before ++ (key, v) :: after) = some cs) :
    ∃ front n back, cs = front ++ (key, n) :: back ∧ ofJson? v = some n ∧
      childrenOfJson? after = some back := by
  induction before generalizing cs with
  | nil =>
    obtain ⟨n, ns, hn, hns, rfl⟩ := childrenOfJson?_eq_some_iff.mp h
    exact ⟨[], n, ns, rfl, hn, hns⟩
  | cons m before ih =>
    obtain ⟨n, ns, hn, hns, rfl⟩ := childrenOfJson?_eq_some_iff.mp h
    obtain ⟨front, n', back, rfl, hn', hback⟩ := ih hns
    exact ⟨(m.1, n) :: front, n', back, rfl, hn', hback⟩

/-- The node that is read is the one that the value describes. -/
theorem isOf_of_ofJson? {v : Json} {n : Node} (h : ofJson? v = some n) : IsOf v n := by
  have hentry := isEntry_of_ofJson? h
  induction hentry generalizing n with
  | string text =>
    cases h
    exact .message text
  | @object members _ ih =>
    simp only [ofJson?, Option.map_eq_some_iff] at h
    obtain ⟨cs, hcs, rfl⟩ := h
    refine .group (KeyMap.ordered_ofList cs) (fun key => ?_) ?_
    · rw [KeyMap.mem_keys_ofList, keys_of_childrenOfJson? hcs]
    · rintro before after key v n rfl hafter hmem
      obtain ⟨front, n', back, rfl, hn', hback⟩ := exists_of_childrenOfJson?_append hcs
      rw [← keys_of_childrenOfJson? hback] at hafter
      have hlast : KeyMap.find? key (KeyMap.ofList (front ++ (key, n') :: back)) = some n' :=
        KeyMap.find?_ofList_of_last hafter
      have hfound := (KeyMap.ordered_ofList _).find?_eq_some_iff.mpr hmem
      rw [hlast, Option.some.injEq] at hfound
      subst hfound
      exact ih (key, v) (by simp) hn'

end Node

/-! ### Reading catalogs -/

/-- A value is read as an entry exactly if it is read as the node in the entry. -/
theorem Entry.ofJson?_eq_some_iff {v : Json} {e : Entry} :
    Entry.ofJson? v = some e ↔ Node.ofJson? v = some e.node := by
  unfold Entry.ofJson?
  split
  · rename_i n hn
    obtain ⟨m, hm⟩ := e
    simp [hn]
  · rename_i hn
    simp [hn]

namespace Catalog

open Json (ObjectOf Member Separated Padded ValueWithin Document)
open Json.Reader (Reads SkipsBlank)

/-- What an entry is read from. -/
def EntryText (e : Entry) (t : List Char) : Prop :=
  ∃ v, ValueWithin 126 v t ∧ Node.ofJson? v = some e.node

/-- The reader of entries takes the texts of entries, and nothing else. -/
theorem reads_readEntry : Reads readEntry EntryText where
  sound := by
    intro s rest e h
    unfold readEntry at h
    rw [Except.bind_eq_ok_iff] at h
    obtain ⟨⟨v, after⟩, hv, h⟩ := h
    obtain ⟨b, t, hb, ht, rfl⟩ := (Json.Reader.reads_value _).sound hv
    dsimp only at h
    split at h
    · rename_i he
      obtain ⟨rfl, rfl⟩ := Prod.mk.inj (Except.ok.inj h)
      exact ⟨b, t, hb, ⟨v, ht, Entry.ofJson?_eq_some_iff.mp he⟩, rfl⟩
    · cases h
  complete := by
    rintro rest e t ⟨v, ht, he⟩ hrest
    have hv := (Json.Reader.reads_value 126).complete ht hrest
    have hread : Json.Reader.value (Json.maxDepth - 1) = Json.Reader.value 126 := rfl
    unfold readEntry
    rw [hread, hv]
    simp only [bind, Except.bind, Entry.ofJson?_eq_some_iff.mpr he]
  opens := by
    rintro e t ⟨v, ht, -⟩
    exact (Json.Reader.reads_value 126).opens ht

/-- The reader of entries passes over white space in front. -/
theorem skipsBlank_readEntry : SkipsBlank readEntry := by
  intro t ht s
  unfold readEntry
  rw [Json.Reader.skipsBlank_value _ ht]

/-- The nodes of some entries under their keys. -/
def nodes (entries : List (String × Entry)) : List (String × Node) :=
  entries.map fun p => (p.1, p.2.node)

/-- A catalog that is made from entries has their nodes as its children, the last one of each
key. -/
theorem children_ofEntries (entries : List (String × Entry)) :
    (ofEntries entries).children = KeyMap.ofList (nodes entries) := by
  rw [KeyMap.ofList, nodes, List.foldl_map]
  exact (List.foldl_hom Catalog.children fun _ _ => rfl).symm

/-- The member that an entry is read from. -/
theorem padded_entry_iff {p : String × Entry} {t : List Char} :
    Padded (Member EntryText) p t ↔
      ∃ v, Padded (Member (ValueWithin 126)) (p.1, v) t ∧ Node.ofJson? v = some p.2.node := by
  obtain ⟨key, e⟩ := p
  constructor
  · rintro ⟨hbefore, h, hafter⟩
    obtain ⟨hkey, hcolon, hvalue, v, ht, hv⟩ := h
    exact ⟨v, .mk hbefore (.mk hkey hcolon hvalue ht) hafter, hv⟩
  · rintro ⟨v, ⟨hbefore, h, hafter⟩, hv⟩
    obtain ⟨hkey, hcolon, hvalue, ht⟩ := h
    exact .mk hbefore (.mk hkey hcolon hvalue ⟨v, ht, hv⟩) hafter

/-- Entries are read from the members that describe them, in their order. -/
theorem exists_members_of_separated {entries : List (String × Entry)} {t : List Char}
    (h : Separated (Member EntryText) entries t) :
    ∃ members, Separated (Member (ValueWithin 126)) members t ∧
      Node.childrenOfJson? members = some (nodes entries) := by
  induction h with
  | @one p t h =>
    obtain ⟨v, ht, hv⟩ := padded_entry_iff.mp h
    exact ⟨[(p.1, v)], .one ht, Node.childrenOfJson?_eq_some_iff.mpr ⟨_, [], hv, rfl, rfl⟩⟩
  | @more p entries t u h _ ih =>
    obtain ⟨v, ht, hv⟩ := padded_entry_iff.mp h
    obtain ⟨members, hu, hmembers⟩ := ih
    exact ⟨(p.1, v) :: members, .more ht hu,
      Node.childrenOfJson?_eq_some_iff.mpr ⟨_, _, hv, hmembers, rfl⟩⟩

/-- Members that are read as children describe entries, which have these children as their nodes. -/
theorem exists_entries_of_separated {members : List (String × Json)} {t : List Char}
    (h : Separated (Member (ValueWithin 126)) members t) {cs : List (String × Node)}
    (hcs : Node.childrenOfJson? members = some cs) :
    ∃ entries, Separated (Member EntryText) entries t ∧ nodes entries = cs := by
  induction h generalizing cs with
  | @one m t h =>
    obtain ⟨n, ns, hn, hns, rfl⟩ := Node.childrenOfJson?_eq_some_iff.mp hcs
    cases hns
    exact ⟨[(m.1, ⟨n, Node.ordered_of_ofJson? hn⟩)], .one (padded_entry_iff.mpr ⟨m.2, h, hn⟩), rfl⟩
  | @more m members t u h _ ih =>
    obtain ⟨n, ns, hn, hns, rfl⟩ := Node.childrenOfJson?_eq_some_iff.mp hcs
    obtain ⟨entries, hu, rfl⟩ := ih hns
    exact ⟨(m.1, ⟨n, Node.ordered_of_ofJson? hn⟩) :: entries,
      .more (padded_entry_iff.mpr ⟨m.2, h, hn⟩) hu, rfl⟩

/-- An object of entries is read from the object of the members that describe them. -/
theorem objectOf_entries_iff {cs : List (String × Node)} {t : List Char} :
    (∃ entries, ObjectOf EntryText entries t ∧ nodes entries = cs) ↔
      ∃ members, ObjectOf (ValueWithin 126) members t ∧
        Node.childrenOfJson? members = some cs := by
  constructor
  · rintro ⟨entries, ⟨h⟩, rfl⟩
    cases h with
    | empty h => exact ⟨[], .mk (.empty h), rfl⟩
    | separated h =>
      obtain ⟨members, hmembers, hcs⟩ := exists_members_of_separated h
      exact ⟨members, .mk (.separated hmembers), hcs⟩
  · rintro ⟨members, ⟨h⟩, hcs⟩
    cases h with
    | empty h =>
      cases hcs
      exact ⟨[], .mk (.empty h), rfl⟩
    | separated h =>
      obtain ⟨entries, hentries, hnodes⟩ := exists_entries_of_separated h hcs
      exact ⟨entries, .mk (.separated hentries), hnodes⟩

/-- A catalog is read exactly from the documents of an object that describes it. -/
theorem ofBytes_eq_ok_iff {bytes : List UInt8} {c : Catalog} :
    ofBytes bytes = .ok c ↔ ∃ members t, bytes = Utf8.encode t ∧ Document (.object members) t ∧
      (Json.object members).depth ≤ 127 ∧
      Node.ofJson? (.object members) = some (.group c.children) := by
  unfold ofBytes
  rw [Except.map_eq_ok_iff]
  have hread {entries : List (String × Entry)} :
      Json.Reader.document (Json.Reader.expectObject readEntry) bytes = .ok entries ↔
        ∃ t, Padded (ObjectOf EntryText) entries t ∧ bytes = Utf8.encode t :=
    Json.Reader.document_eq_ok_iff
      (Json.Reader.reads_expectObject reads_readEntry skipsBlank_readEntry)
      (Json.Reader.skipsBlank_expectObject readEntry)
  simp only [hread]
  constructor
  · rintro ⟨entries, ⟨_, ⟨hbefore, h, hafter⟩, rfl⟩, rfl⟩
    obtain ⟨members, hmembers, hcs⟩ := objectOf_entries_iff.mp ⟨entries, h, rfl⟩
    obtain ⟨hspelled, hdepth⟩ := Json.valueWithin_iff.mp (Json.valueWithin_object_iff.mpr hmembers)
    refine ⟨members, _, rfl, .mk hbefore hspelled hafter, hdepth, ?_⟩
    rw [Node.ofJson?, hcs, children_ofEntries]
    rfl
  · rintro ⟨members, _, rfl, ⟨hbefore, h, hafter⟩, hdepth, hc⟩
    rw [Node.ofJson?, Option.map_eq_some_iff] at hc
    obtain ⟨cs, hcs, hgroup⟩ := hc
    have hmembers := Json.valueWithin_object_iff.mp (Json.valueWithin_iff.mpr ⟨h, hdepth⟩)
    obtain ⟨entries, hentries, rfl⟩ := objectOf_entries_iff.mpr ⟨members, hmembers, hcs⟩
    refine ⟨entries, ⟨_, .mk hbefore hentries hafter, rfl⟩, Catalog.ext ?_⟩
    rw [children_ofEntries]
    exact Node.group.inj hgroup

/-- What the text of a catalog is: a document with an object of strings and of objects of the same
kind, which nests at most 127 deep. -/
structure IsCatalogText (text : String) (members : List (String × Json)) : Prop where
  document : Document (.object members) text.toList
  depth : (Json.object members).depth ≤ 127
  entries : ∀ m ∈ members, m.2.IsEntry

/-- The catalog that is read is the one that the text describes. -/
theorem ofBytes_eq_ok_iff_isOf {bytes : List UInt8} {c : Catalog} :
    ofBytes bytes = .ok c ↔ ∃ text members, Utf8.toString? bytes = some text ∧
      IsCatalogText text members ∧ Node.IsOf (.object members) (.group c.children) := by
  rw [ofBytes_eq_ok_iff]
  constructor
  · rintro ⟨members, t, hbytes, hdoc, hdepth, hc⟩
    obtain ⟨text, htext, hdoc⟩ := Utf8.exists_eq_encode_iff.mp ⟨t, hbytes, hdoc⟩
    cases Node.isEntry_of_ofJson? hc with
    | object hentries =>
      exact ⟨text, members, htext, ⟨hdoc, hdepth, hentries⟩, Node.isOf_of_ofJson? hc⟩
  · rintro ⟨text, members, htext, ⟨hdoc, hdepth, hentries⟩, hisOf⟩
    obtain ⟨t, hbytes, hdoc⟩ := Utf8.exists_eq_encode_iff.mpr ⟨text, htext, hdoc⟩
    obtain ⟨n, hn⟩ := Node.exists_ofJson?_of_isEntry (.object hentries)
    obtain rfl := hisOf.unique (Node.isOf_of_ofJson? hn)
    exact ⟨members, t, hbytes, hdoc, hdepth, hn⟩

/-- The text of every catalog describes one. -/
theorem IsCatalogText.exists_isOf {text : String} {members : List (String × Json)}
    (h : IsCatalogText text members) :
    ∃ c : Catalog, Node.IsOf (.object members) (.group c.children) := by
  obtain ⟨n, hn⟩ := Node.exists_ofJson?_of_isEntry (.object h.entries)
  have hordered := Node.ordered_of_ofJson? hn
  have hisOf := Node.isOf_of_ofJson? hn
  cases hisOf with
  | @group _ children => exact ⟨⟨children, hordered⟩, Node.isOf_of_ofJson? hn⟩

/-- A byte sequence is read as a catalog exactly if it is the UTF-8 text of a JSON object, with
white space around it, that nests at most 127 deep and holds nothing but strings and objects of the
same kind, members that later ones replace included. The catalog is then what the last member of
each key describes, at every level. A string is read as its bytes are. -/
theorem reads_format (bytes : List UInt8) :
    ((∃ c, ofBytes bytes = .ok c) ↔
      ∃ text members, Utf8.toString? bytes = some text ∧ IsCatalogText text members) ∧
    (∀ c, ofBytes bytes = .ok c ↔ ∃ text members, Utf8.toString? bytes = some text ∧
      IsCatalogText text members ∧ Node.IsOf (.object members) (.group c.children)) ∧
    ∀ text, Utf8.toString? bytes = some text → ofString text = ofBytes bytes := by
  refine ⟨?_, fun c => ofBytes_eq_ok_iff_isOf, fun text htext => ?_⟩
  · simp only [ofBytes_eq_ok_iff_isOf]
    constructor
    · rintro ⟨c, text, members, htext, h, -⟩
      exact ⟨text, members, htext, h⟩
    · rintro ⟨text, members, htext, h⟩
      obtain ⟨c, hc⟩ := h.exists_isOf
      exact ⟨c, text, members, htext, h, hc⟩
  · rw [ofString, Utf8.toString?_eq_some_iff.mp htext]

end Catalog

end Phrasebook
