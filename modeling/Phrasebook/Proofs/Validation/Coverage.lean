import Phrasebook.Proofs.Catalog.Flattening
import Phrasebook.Translator
import Phrasebook.Validation.Report

/-!
# Catalogs without errors

A catalog has no errors against a reference exactly if it has a message for every path of the
reference once both are flattened. A translator on such a catalog finds these messages without its
fallback, wherever the catalog places its dots plainly.
-/

namespace Phrasebook

namespace Validation

/-- The problems are those of the paths that only the reference has, each misplaced or missing. -/
theorem mem_problems_iff {expected actual : KeyMap String} {problem : Problem} :
    problem ∈ problems expected actual ↔ ∃ path ∈ expected.keys, path ∉ actual.keys ∧
      problem = if overlaps path actual.keys then .misplaced path else .missing path := by
  simp only [problems, List.mem_filterMap]
  constructor
  · rintro ⟨p, hp, h⟩
    refine ⟨p.1, List.mem_map_of_mem hp, ?_⟩
    split at h
    · cases h
    · rename_i hnone
      refine ⟨KeyMap.find?_eq_none_iff.mp (by simpa using hnone), ?_⟩
      split at h <;> simp_all
  · rintro ⟨path, hpath, hnone, rfl⟩
    obtain ⟨p, hp, rfl⟩ := List.mem_map.mp hpath
    refine ⟨p, hp, ?_⟩
    rw [KeyMap.find?_eq_none_iff.mpr hnone, Option.isSome_none, if_neg Bool.false_ne_true]
    exact (apply_ite some _ _ _).symm

/-- There is no problem exactly if every path of the reference is in the other catalog. -/
theorem problems_eq_nil_iff {expected actual : KeyMap String} :
    problems expected actual = [] ↔ ∀ path ∈ expected.keys, path ∈ actual.keys := by
  rw [List.eq_nil_iff_forall_not_mem]
  constructor
  · intro h path hpath
    refine Decidable.byContradiction fun hnone => ?_
    exact h _ (mem_problems_iff.mpr ⟨path, hpath, hnone, rfl⟩)
  · intro h problem hproblem
    obtain ⟨path, hpath, hnone, -⟩ := mem_problems_iff.mp hproblem
    exact hnone (h path hpath)

end Validation

namespace Catalog

/-- A catalog has no errors exactly if it has every path of the reference. -/
theorem errors_compare_eq_nil_iff {reference candidate : Catalog} :
    (reference.compare candidate).errors = [] ↔
      ∀ path ∈ reference.flatten.keys, path ∈ candidate.flatten.keys :=
  Validation.problems_eq_nil_iff

end Catalog

namespace Translator

/-- A message of the active catalog is found there. -/
theorem find?_of_message? {t : Translator} {c : Catalog} {key text : String}
    (hactive : t.catalog? t.active = some c) (h : c.message? key = some text) :
    t.find? key = some ⟨text, false⟩ := by
  rw [find?, messageIn?, hactive, Option.bind_some, h]

/-- A translator whose active catalog has no errors against a reference finds the text that the
flattened catalog has at a path of the reference, and takes it from the active catalog, wherever
that places its dots plainly. It does so at every path if only keys of top-level messages have
dots. -/
theorem finds_messages_of_no_errors {reference candidate : Catalog} {t : Translator}
    (herrors : (reference.compare candidate).errors = [])
    (hactive : t.catalog? t.active = some candidate) :
    (∀ path ∈ reference.flatten.keys, ∃ text, candidate.flatten.find? path = some text ∧
      (candidate.IsPlainAt path → t.find? path = some ⟨text, false⟩ ∧
        t.lookup? path = some text ∧ t.translate path = text)) ∧
    (candidate.HasPlainDots → ∀ path, candidate.IsPlainAt path) := by
  refine ⟨fun path hpath => ?_, fun h path => h.isPlainAt path⟩
  obtain ⟨text, htext⟩ := KeyMap.mem_keys_iff.mp
    (Catalog.errors_compare_eq_nil_iff.mp herrors path hpath)
  refine ⟨text, htext, fun hplain => ?_⟩
  have hmessage : candidate.message? path = some text :=
    (Catalog.message?_eq_find?_flatten hplain).trans htext
  have hfind : t.find? path = some ⟨text, false⟩ := find?_of_message? hactive hmessage
  have hlookup : t.lookup? path = some text := by rw [lookup?, hfind, Option.map_some]
  refine ⟨hfind, hlookup, ?_⟩
  rw [translate, hlookup, Option.getD_some]

/-- A catalog with one message at the top level and one in a group. -/
def tidyCatalog : Catalog where
  children := [("label.save", .message "Save"), ("menu", .group [("help", .message "Help")])]
  ordered := by
    simp only [Node.Ordered, Node.AllOrdered, KeyMap.Ordered, and_true]
    decide

/-- A catalog with other texts at the same paths, and with one message more. -/
def translatedCatalog : Catalog where
  children := [("label.save", .message "Enregistrer"),
    ("menu", .group [("help", .message "Aide"), ("quit", .message "Quitter")])]
  ordered := by
    simp only [Node.Ordered, Node.AllOrdered, KeyMap.Ordered, and_true]
    decide

/-- Both messages of the reference are found in the active catalog, also the one whose key has a
dot, although the fallback locale has texts of its own for them. -/
theorem finds_messages_of_tidyCatalog :
    let t := (((Translator.withFallback ⟨"en"⟩).register ⟨"en"⟩ tidyCatalog).register ⟨"fr"⟩
      translatedCatalog).setActive ⟨"fr"⟩
    tidyCatalog.flatten = [("label.save", "Save"), ("menu.help", "Help")] ∧
      t.messageIn? t.fallback "label.save" = some "Save" ∧
      t.find? "label.save" = some ⟨"Enregistrer", false⟩ ∧
      t.translate "label.save" = "Enregistrer" ∧ t.translate "menu.help" = "Aide" := by
  intro t
  have herrors : (tidyCatalog.compare translatedCatalog).errors = [] := by decide
  have hactive : t.catalog? t.active = some translatedCatalog := by rfl
  have hdots : translatedCatalog.HasPlainDots := by decide
  obtain ⟨hfinds, hplain⟩ := finds_messages_of_no_errors herrors hactive
  have hfound (path text : String) (hpath : path ∈ tidyCatalog.flatten.keys)
      (h : translatedCatalog.flatten.find? path = some text) :
      t.find? path = some ⟨text, false⟩ ∧ t.translate path = text := by
    obtain ⟨text', htext', hplainly⟩ := hfinds path hpath
    obtain rfl : text = text' := Option.some.inj (h.symm.trans htext')
    exact ⟨(hplainly (hplain hdots path)).1, (hplainly (hplain hdots path)).2.2⟩
  obtain ⟨hsave, htranslate⟩ := hfound "label.save" "Enregistrer" (by decide) (by decide)
  exact ⟨by decide, by decide, hsave, htranslate, (hfound _ _ (by decide) (by decide)).2⟩

/-- A catalog whose only message stands under a key with a dot, in a group. -/
def dottedCatalog : Catalog where
  children := [("menu", .group [("file.open", .message "Open")])]
  ordered := by
    simp only [Node.Ordered, Node.AllOrdered, KeyMap.Ordered, and_true]
    decide

/-- The catalog is its own reference, so it has no errors, yet its message is not found. -/
theorem nested_dot_untranslated :
    let t := (Translator.withFallback ⟨"en"⟩).register ⟨"en"⟩ dottedCatalog
    (dottedCatalog.compare dottedCatalog).errors = [] ∧
      dottedCatalog.flatten = [("menu.file.open", "Open")] ∧
      t.catalog? t.active = some dottedCatalog ∧
      t.lookup? "menu.file.open" = none ∧ t.translate "menu.file.open" = "menu.file.open" := by
  refine ⟨by decide, by decide, rfl, by decide, by decide⟩

end Translator

end Phrasebook
