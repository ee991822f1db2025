import Phrasebook.Loader
import Phrasebook.Proofs.Json.Printing
import Phrasebook.Proofs.Preferences.Stores

/-!
# Which locale a request means

A request means the code that it names, or else the one in the preferences, or else the fallback.
The rule is the same for every source of preferences, of which a loader only sees the value that is
in force under one key.
-/

namespace Phrasebook

/-- The code that a request means where a value is in force, or none is: the requested code if there
is one, else the value if it is the string of a code, else `en`. The empty string is no code. -/
inductive Means (requested : Option String) (inForce : Option Json) : String → Prop
  | asked {code : String} (h : requested = some code) (hne : code ≠ "") :
      Means requested inForce code
  | stored {code : String} (hnone : ∀ asked, requested = some asked → asked = "")
      (h : inForce = some (.string code)) (hne : code ≠ "") : Means requested inForce code
  | fallback (hnone : ∀ asked, requested = some asked → asked = "")
      (h : ∀ code, inForce = some (.string code) → code = "") : Means requested inForce "en"

/-- The code that is meant is never empty. -/
theorem Means.ne_empty {requested : Option String} {inForce : Option Json} {code : String}
    (h : Means requested inForce code) : code ≠ "" := by
  cases h with
  | asked _ hne => exact hne
  | stored _ _ hne => exact hne
  | fallback _ _ => decide

/-- A loader resolves a request to the code that it means. -/
theorem Loader.means_resolve (s : Loader) (requested : Option String) :
    Means requested (s.preferences.get? Preferences.localeKey) (s.resolve requested).code := by
  unfold resolve
  cases hasked : requested.bind Locale.ofString? with
  | some l =>
    obtain ⟨code, hrequested, hcode⟩ := Option.bind_eq_some_iff.mp hasked
    obtain ⟨hne, rfl⟩ := Locale.ofString?_eq_some_iff.mp hcode
    exact .asked hrequested hne
  | none =>
    -- What is asked for does not count, so it is the empty text if it is there at all.
    have hnone : ∀ asked, requested = some asked → asked = "" := by
      rintro asked rfl
      refine Decidable.byContradiction fun hne => ?_
      have hsome : Locale.ofString? asked = some ⟨asked⟩ :=
        Locale.ofString?_eq_some_iff.mpr ⟨hne, rfl⟩
      rw [Option.bind_some, hsome] at hasked
      cases hasked
    dsimp only
    split
    · rename_i code hstored
      by_cases hne : code = ""
      · subst hne
        refine .fallback hnone fun code hcode => ?_
        rw [hstored] at hcode
        cases hcode
        rfl
      · have hsome : Locale.ofString? code = some ⟨code⟩ :=
          Locale.ofString?_eq_some_iff.mpr ⟨hne, rfl⟩
        rw [hsome]
        exact .stored hnone hstored hne
    · rename_i hother
      exact .fallback hnone fun code hcode => absurd hcode (hother code)

namespace Preferences

/-- A file can be opened exactly if it is missing or holds the UTF-8 text of an object that nests at
most 127 deep. -/
theorem exists_openFile_eq_ok_iff {files : FileTree} {path : List UInt8} :
    (∃ opened, openFile files path = .ok opened) ↔ files.read path = .error .notFound ∨
      ∃ content text members, files.read path = .ok content ∧
        Utf8.toString? content = some text ∧ Json.IsObjectText text members := by
  have hopens := opens_openFile files path
  generalize openFile files path = result at hopens
  cases hopens with
  | missing hread => simp [hread]
  | object hread htext h => simpa [hread, htext] using ⟨_, h⟩
  | broken hread htext => simp [hread, htext]
  | other hread htext h => simpa [hread, htext] using h
  | unreadable hread hne => simpa [hread] using hne

/-- The store from a file has the value of the last member of a key, and nothing if the file is
missing. -/
theorem get?_of_openFile {files : FileTree} {path : List UInt8} {p : Preferences}
    {log : List LogLine} (hopen : openFile files path = .ok (p, log)) {key : String} {v : Json} :
    p.get? key = some v ↔ ∃ content text members, files.read path = .ok content ∧
      Utf8.toString? content = some text ∧ Json.IsObjectText text members ∧
      LastMember members key v := by
  have hopens := opens_openFile files path
  rw [hopen] at hopens
  cases hopens with
  | missing hread => simp [hread, get?]
  | @object content text members hread htext h =>
    rw [get?_ofMembers_eq_some_iff]
    constructor
    · intro hlast
      exact ⟨content, text, members, hread, htext, h, hlast⟩
    · rintro ⟨content', text', members', hread', htext', h', hlast⟩
      obtain rfl := Except.ok.inj (hread.symm.trans hread')
      obtain rfl := Option.some.inj (htext.symm.trans htext')
      obtain rfl := Json.object.inj (h.document.unique h'.document)
      exact hlast

/-- A file with some bytes holds an object, or no text at all, or another text. -/
theorem openFile_of_read {files : FileTree} {path content : List UInt8}
    (hread : files.read path = .ok content) :
    (∃ text members, Utf8.toString? content = some text ∧ Json.IsObjectText text members ∧
      openFile files path = .ok (.ofMembers members, [])) ∨
    (Utf8.toString? content = none ∧
      openFile files path = .error (.unreadable (shownPath path) .malformedText)) ∨
    ∃ text e, Utf8.toString? content = some text ∧ (¬ ∃ members, Json.IsObjectText text members) ∧
      openFile files path = .error (.malformed (shownPath path) e) := by
  have hopens := opens_openFile files path
  generalize openFile files path = result at hopens
  cases hopens with
  | missing hmissing => cases hread.symm.trans hmissing
  | object hread' htext h =>
    obtain rfl := Except.ok.inj (hread'.symm.trans hread)
    exact .inl ⟨_, _, htext, h, rfl⟩
  | broken hread' htext =>
    obtain rfl := Except.ok.inj (hread'.symm.trans hread)
    exact .inr (.inl ⟨htext, rfl⟩)
  | other hread' htext h =>
    obtain rfl := Except.ok.inj (hread'.symm.trans hread)
    exact .inr (.inr ⟨_, _, htext, h, rfl⟩)
  | unreadable herror hne => cases hread.symm.trans herror

/-- A file whose bytes are no text cannot be read. -/
theorem exists_unreadable_iff {files : FileTree} {path content : List UInt8}
    (hread : files.read path = .ok content) :
    (∃ e, openFile files path = .error (.unreadable (shownPath path) e)) ↔
      Utf8.toString? content = none := by
  obtain ⟨text, members, htext, -, hopen⟩ | ⟨htext, hopen⟩ | ⟨text, e, htext, -, hopen⟩ :=
    openFile_of_read hread
  all_goals simp [htext, hopen]

/-- A file with a text that is no such object is malformed. -/
theorem exists_malformed_iff {files : FileTree} {path content : List UInt8}
    (hread : files.read path = .ok content) :
    (∃ e, openFile files path = .error (.malformed (shownPath path) e)) ↔
      ∃ text, Utf8.toString? content = some text ∧ ¬ ∃ members, Json.IsObjectText text members := by
  obtain ⟨text, members, htext, h, hopen⟩ | ⟨htext, hopen⟩ | ⟨text, e, htext, h, hopen⟩ :=
    openFile_of_read hread
  · simpa [htext, hopen] using ⟨_, h⟩
  · simp [htext, hopen]
  · simpa [htext, hopen] using h

/-- A request means the code that it names, or else the string in force under the locale key, or
else `en`, and never the empty code. In a store in memory the value in force is the one that was put
there last, unless it was taken away since. In a store from a file it is that of the last member
with this key at the top level. Both keep strings as they are, and no other value as a string. The
file can be opened exactly if it is missing or holds the UTF-8 text of an object that nests at most
127 deep; it cannot be read if its bytes are no text, and is malformed if they are another text. -/
theorem resolves_from_any_source :
    (∀ (s : Loader) (requested : Option String),
      Means requested (s.preferences.get? localeKey) (s.resolve requested).code ∧
        (s.resolve requested).code ≠ "") ∧
    (∀ changes v, (afterChanges changes).get? localeKey = some v ↔ LastPut changes localeKey v) ∧
    (∀ (v : Json) code, v.canonical = .string code ↔ v = .string code) ∧
    ∀ files path,
      ((∃ opened, openFile files path = .ok opened) ↔ files.read path = .error .notFound ∨
        ∃ content text members, files.read path = .ok content ∧
          Utf8.toString? content = some text ∧ Json.IsObjectText text members) ∧
      (∀ p log, openFile files path = .ok (p, log) → ∀ v, p.get? localeKey = some v ↔
        ∃ content text members, files.read path = .ok content ∧
          Utf8.toString? content = some text ∧ Json.IsObjectText text members ∧
          LastMember members localeKey v) ∧
      ∀ content, files.read path = .ok content →
        ((∃ e, openFile files path = .error (.unreadable (shownPath path) e)) ↔
          Utf8.toString? content = none) ∧
        ((∃ e, openFile files path = .error (.malformed (shownPath path) e)) ↔
          ∃ text, Utf8.toString? content = some text ∧
            ¬ ∃ members, Json.IsObjectText text members) := by
  refine ⟨fun s requested => ?_, fun changes v => get?_afterChanges_eq_some_iff,
    fun v code => Json.canonical_eq_string_iff, fun files path =>
      ⟨exists_openFile_eq_ok_iff, fun p log hopen v => ?_, fun content hread => ?_⟩⟩
  · have hmeans := s.means_resolve requested
    exact ⟨hmeans, hmeans.ne_empty⟩
  · exact get?_of_openFile hopen
  · exact ⟨exists_unreadable_iff hread, exists_malformed_iff hread⟩

/-! ### An object that nests too deep -/

/-- An empty string inside some objects. -/
def wrapped : Nat → Json
  | 0 => .string ""
  | n + 1 => .object [("a", wrapped n)]

/-- An object that names a locale and nests 128 deep. -/
def deepMembers : List (String × Json) := [(localeKey, .string "fr"), ("a", wrapped 127)]

/-- The text of the object. -/
def deepText : String := (Json.object deepMembers).render

/-- A directory with a file that holds the text. -/
def deepFiles : FileTree := ⟨[(Utf8.ofString "prefs.json", .file (Utf8.ofString deepText))]⟩

/-- The value nests as deep as there are objects around the string. -/
theorem depth_wrapped (n : Nat) : (wrapped n).depth = n := by
  induction n with
  | zero => rfl
  | succ n ih => simp [wrapped, Json.depth, Json.depthOfMembers, ih]

/-- The value is spelled by what is printed for it. -/
theorem spelled_wrapped (n : Nat) : Json.Spelled (wrapped n) (wrapped n).renderChars := by
  induction n with
  | zero => exact Json.spelled_render_string ""
  | succ n ih => exact Json.spelled_render_object (List.forall_mem_singleton.mpr ih)

/-- The file holds an object, and it cannot be opened. -/
theorem deep_object_refused :
    deepFiles.read (Utf8.ofString "prefs.json") = .ok (Utf8.ofString deepText) ∧
      Utf8.toString? (Utf8.ofString deepText) = some deepText ∧
      Json.Document (.object deepMembers) deepText.toList ∧
      ∃ e, openFile deepFiles (Utf8.ofString "prefs.json") =
        .error (.malformed (shownPath (Utf8.ofString "prefs.json")) e) := by
  have hread : deepFiles.read (Utf8.ofString "prefs.json") = .ok (Utf8.ofString deepText) := rfl
  have htext : Utf8.toString? (Utf8.ofString deepText) = some deepText :=
    Utf8.toString?_eq_some_iff.mpr rfl
  have hspelled : Json.Spelled (.object deepMembers) (Json.object deepMembers).renderChars := by
    refine Json.spelled_render_object (List.forall_mem_cons.mpr ⟨?_, ?_⟩)
    · exact ⟨0, .string (Json.quoted_renderString "fr")⟩
    · exact List.forall_mem_singleton.mpr (spelled_wrapped 127)
  have hdocument : Json.Document (.object deepMembers) deepText.toList := hspelled.document_render
  have hdeep : (Json.object deepMembers).depth = 128 := by
    simp [deepMembers, Json.depth, Json.depthOfMembers, depth_wrapped]
  refine ⟨hread, htext, hdocument, (exists_malformed_iff hread).mpr ⟨deepText, htext, ?_⟩⟩
  rintro ⟨members, h⟩
  have hdepth := h.depth
  rw [h.document.unique hdocument, hdeep] at hdepth
  omega

end Preferences

end Phrasebook
