import Phrasebook.Preferences
import Phrasebook.Proofs.Json.Reading
import Phrasebook.Proofs.Results
import Phrasebook.Proofs.Updates

/-!
# What a store of preferences holds

A store in memory has under a key what the last change left there that decided on the key. A store
from a file has what the last member of the key says, and a file can be opened exactly if it is
missing or holds the UTF-8 text of a JSON object that does not nest too deep.
-/

namespace Phrasebook

namespace Json

/-- A string means itself, and nothing else means a string. -/
theorem canonical_eq_string_iff {v : Json} {s : String} :
    v.canonical = .string s ↔ v = .string s := by
  cases v <;> simp [canonical]

/-- What the text of an object is: a document with these members that nests at most 127 deep. -/
structure IsObjectText (text : String) (members : List (String × Json)) : Prop where
  document : Document (.object members) text.toList
  depth : (Json.object members).depth ≤ 127

/-- Members are read exactly from the documents of an object that does not nest too deep. -/
theorem membersOfBytes_eq_ok_iff {bytes : List UInt8} {members : List (String × Json)} :
    membersOfBytes bytes = .ok members ↔ ∃ t, bytes = Utf8.encode t ∧
      Document (.object members) t ∧ (Json.object members).depth ≤ 127 := by
  have hread := Reader.reads_expectObject (Reader.reads_value 126) (Reader.skipsBlank_value 126)
  have hskip : Reader.SkipsBlank (Reader.expectObject (Reader.value 126)) :=
    Reader.skipsBlank_expectObject (Reader.value 126)
  have hroom : maxDepth - 1 = 126 := rfl
  rw [membersOfBytes, hroom, Reader.document_eq_ok_iff hread hskip]
  constructor
  · rintro ⟨_, ⟨hbefore, h, hafter⟩, rfl⟩
    obtain ⟨hspelled, hdepth⟩ := valueWithin_iff.mp (valueWithin_object_iff.mpr h)
    exact ⟨_, rfl, .mk hbefore hspelled hafter, hdepth⟩
  · rintro ⟨_, rfl, ⟨hbefore, h, hafter⟩, hdepth⟩
    have hmembers := valueWithin_object_iff.mp (valueWithin_iff.mpr ⟨h, hdepth⟩)
    exact ⟨_, .mk hbefore hmembers hafter, rfl⟩

/-- Members are read from bytes exactly if these are the UTF-8 of the text of an object. -/
theorem membersOfBytes_eq_ok_iff_isObjectText {bytes : List UInt8}
    {members : List (String × Json)} :
    membersOfBytes bytes = .ok members ↔
      ∃ text, Utf8.toString? bytes = some text ∧ IsObjectText text members := by
  rw [membersOfBytes_eq_ok_iff, Utf8.exists_eq_encode_iff]
  constructor
  · rintro ⟨text, htext, hdocument, hdepth⟩
    exact ⟨text, htext, ⟨hdocument, hdepth⟩⟩
  · rintro ⟨text, htext, h⟩
    exact ⟨text, htext, h.document, h.depth⟩

end Json

namespace FileTree

/-- A file with the bytes of a text is read as text. -/
theorem readText_of_read {files : FileTree} {path content : List UInt8} {text : String}
    (hread : files.read path = .ok content) (htext : Utf8.toString? content = some text) :
    files.readText path = .ok content := by
  obtain ⟨chars, hchars, -⟩ := Option.map_eq_some_iff.mp htext
  rw [readText, hread]
  simp [bind, Except.bind, pure, Except.pure, hchars]

/-- A file with other bytes is no text. -/
theorem readText_of_read_malformed {files : FileTree} {path content : List UInt8}
    (hread : files.read path = .ok content) (htext : Utf8.toString? content = none) :
    files.readText path = .error .malformedText := by
  have hchars := Option.map_eq_none_iff.mp htext
  rw [readText, hread]
  simp [bind, Except.bind, hchars, throw, throwThe, MonadExceptOf.throw]

/-- A file that cannot be read has no text, for the same reason. -/
theorem readText_of_read_error {files : FileTree} {path : List UInt8} {e : ReadError}
    (hread : files.read path = .error e) : files.readText path = .error e := by
  rw [readText, hread]
  rfl

end FileTree

namespace Preferences

/-! ### Stores in memory -/

/-- What can be done to a store in memory. -/
inductive Change
  /-- A new store with a single value takes its place. -/
  | renew (key : String) (value : Json)
  | set (key : String) (value : Json)
  | remove (key : String)

namespace Change

/-- A store after a change. -/
def apply (p : Preferences) : Change → Preferences
  | .renew key value => single key value
  | .set key value => p.set key value
  | .remove key => p.remove key

/-- Whether a change decides on the value of a key: it puts one there, or takes it away. A new store
decides on every key. -/
def DecidesOn (key : String) : Change → Prop
  | .renew _ _ => True
  | .set k _ => k = key
  | .remove k => k = key

/-- Whether a change puts a value under a key. -/
def Puts (key : String) (value : Json) : Change → Prop
  | .renew k v => k = key ∧ v = value
  | .set k v => k = key ∧ v = value
  | .remove _ => False

/-- What a change leaves under a key, if it decides on that. -/
def leaves? (key : String) : Change → Option (Option Json)
  | .renew k v => some (if k = key then some v.canonical else none)
  | .set k v => if k = key then some (some v.canonical) else none
  | .remove k => if k = key then some none else none

/-- A change leaves a key alone exactly if it does not decide on it. -/
theorem leaves?_eq_none_iff {key : String} {c : Change} :
    c.leaves? key = none ↔ ¬ c.DecidesOn key := by
  cases c <;> simp [leaves?, DecidesOn]

/-- A change leaves a value under a key exactly if it puts one there whose canonical form this
is. -/
theorem leaves?_eq_some_some_iff {key : String} {c : Change} {v : Json} :
    c.leaves? key = some (some v) ↔ ∃ value, c.Puts key value ∧ value.canonical = v := by
  cases c <;> simp [leaves?, Puts, and_assoc]

end Change

/-- The value that was put under a key is there, in its canonical form. -/
@[simp] theorem get?_set_self (p : Preferences) (key : String) (value : Json) :
    (p.set key value).get? key = some value.canonical :=
  KeyMap.find?_insert_self ..

/-- Putting a value under one key changes none under another one. -/
theorem get?_set_of_ne (p : Preferences) {key other : String} (value : Json) (h : other ≠ key) :
    (p.set key value).get? other = p.get? other :=
  KeyMap.find?_insert_of_ne _ _ h

/-- A change leaves what it decides on, and the other values as they were. -/
theorem get?_apply (p : Preferences) (c : Change) (key : String) :
    (c.apply p).get? key = (c.leaves? key).getD (p.get? key) := by
  cases c with
  | renew k v =>
    rw [Change.apply, single, Change.leaves?]
    by_cases hk : k = key
    · subst hk
      simp
    · rw [get?_set_of_ne _ v (Ne.symm hk), if_neg hk]
      rfl
  | set k v =>
    rw [Change.apply, Change.leaves?]
    by_cases hk : k = key
    · subst hk
      simp
    · rw [get?_set_of_ne _ v (Ne.symm hk), if_neg hk]
      rfl
  | remove k =>
    rw [Change.apply, remove, get?, Change.leaves?]
    by_cases hk : k = key
    · subst hk
      rw [KeyMap.find?_erase_self, if_pos rfl]
      rfl
    · rw [KeyMap.find?_erase_of_ne _ (Ne.symm hk), if_neg hk]
      rfl

/-- The store in memory behind some changes. -/
def afterChanges (changes : List Change) : Preferences := changes.foldl Change.apply {}

/-- Some changes put this value under a key last, and none behind that decided on the key. -/
def LastPut (changes : List Change) (key : String) (v : Json) : Prop :=
  ∃ before c after, changes = before ++ c :: after ∧
    (∃ value, c.Puts key value ∧ value.canonical = v) ∧ ∀ d ∈ after, ¬ d.DecidesOn key

/-- A store in memory has the value that was put under a key last, unless it was taken away
since. -/
theorem get?_afterChanges_eq_some_iff {changes : List Change} {key : String} {v : Json} :
    (afterChanges changes).get? key = some v ↔ LastPut changes key v := by
  have hlast := List.foldl_view_eq_last (fun p : Preferences => p.get? key)
    (fun p c => get?_apply p c key) {} changes
  have hempty : get? {} key = none := rfl
  rw [hempty] at hlast
  have hiff : (afterChanges changes).get? key = some v ↔
      (changes.filterMap (Change.leaves? key)).getLast? = some (some v) := by
    rw [afterChanges, hlast]
    cases (changes.filterMap (Change.leaves? key)).getLast? <;> simp
  rw [hiff, List.getLast?_filterMap_eq_some_iff]
  simp only [Change.leaves?_eq_some_some_iff, Change.leaves?_eq_none_iff, LastPut]

/-! ### Stores from files -/

/-- The last of some members with a key has this value. -/
def LastMember (members : List (String × Json)) (key : String) (v : Json) : Prop :=
  ∃ before value after, members = before ++ (key, value) :: after ∧
    (∀ m ∈ after, m.1 ≠ key) ∧ value.canonical = v

/-- The store from some members is the map of them, with each value in its canonical form. -/
theorem values_ofMembers (members : List (String × Json)) :
    (ofMembers members).values = KeyMap.ofList (members.map fun m => (m.1, m.2.canonical)) := by
  rw [KeyMap.ofList, List.foldl_map]
  exact (List.foldl_hom Preferences.values fun _ _ => rfl).symm

/-- A store from members has the value of the last member of a key. -/
theorem get?_ofMembers_eq_some_iff {members : List (String × Json)} {key : String} {v : Json} :
    (ofMembers members).get? key = some v ↔ LastMember members key v := by
  rw [get?, values_ofMembers, KeyMap.find?_ofList_map_eq_some_iff]
  constructor
  · rintro ⟨before, ⟨k, value⟩, after, rfl, hm, hafter⟩
    obtain ⟨rfl, rfl⟩ := Prod.mk.inj hm
    exact ⟨before, value, after, rfl, hafter, rfl⟩
  · rintro ⟨before, value, after, rfl, hafter, rfl⟩
    exact ⟨before, (key, value), after, rfl, rfl, hafter⟩

/-- How opening a file ends. -/
inductive Opens (files : FileTree) (path : List UInt8) :
    Except PreferencesError (Preferences × List LogLine) → Prop
  | missing {log : List LogLine} (hread : files.read path = .error .notFound) :
      Opens files path (.ok ({}, log))
  | object {content : List UInt8} {text : String} {members : List (String × Json)}
      (hread : files.read path = .ok content) (htext : Utf8.toString? content = some text)
      (h : Json.IsObjectText text members) : Opens files path (.ok (.ofMembers members, []))
  | broken {content : List UInt8} (hread : files.read path = .ok content)
      (htext : Utf8.toString? content = none) :
      Opens files path (.error (.unreadable (shownPath path) .malformedText))
  | other {content : List UInt8} {text : String} {e : Json.Error}
      (hread : files.read path = .ok content) (htext : Utf8.toString? content = some text)
      (h : ¬ ∃ members, Json.IsObjectText text members) :
      Opens files path (.error (.malformed (shownPath path) e))
  | unreadable {e : ReadError} (hread : files.read path = .error e) (hne : e ≠ .notFound) :
      Opens files path (.error (.unreadable (shownPath path) e))

/-- Opening a file ends in one of the ways above. -/
theorem opens_openFile (files : FileTree) (path : List UInt8) :
    Opens files path (openFile files path) := by
  unfold openFile
  dsimp only
  cases hread : files.read path with
  | error e =>
    rw [FileTree.readText_of_read_error hread]
    cases e with
    | notFound => exact .missing hread
    | _ => exact .unreadable hread (by simp)
  | ok content =>
    cases htext : Utf8.toString? content with
    | none =>
      rw [FileTree.readText_of_read_malformed hread htext]
      exact .broken hread htext
    | some text =>
      rw [FileTree.readText_of_read hread htext]
      dsimp only
      cases hmembers : Json.membersOfBytes content with
      | ok members =>
        obtain ⟨text', htext', h⟩ := Json.membersOfBytes_eq_ok_iff_isObjectText.mp hmembers
        exact .object hread htext' h
      | error e =>
        refine .other hread htext ?_
        rintro ⟨members, h⟩
        rw [Json.membersOfBytes_eq_ok_iff_isObjectText.mpr ⟨text, htext, h⟩] at hmembers
        cases hmembers

end Preferences

end Phrasebook
