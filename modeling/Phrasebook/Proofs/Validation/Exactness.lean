import Phrasebook.Proofs.Validation.Overlaps

/-!
# What a report holds, and in which order

The errors of a report are, path by path, the paths that only the reference has. The warnings are
those on paths that both catalogs have and for which different placeholders or links are found, and
behind them the unknown paths. Both lists are in order of path and say nothing twice.
-/

namespace Phrasebook

namespace Validation

/-- The path that a warning is about. -/
def Warning.path : Warning → String
  | .placeholders path _ _ => path
  | .links path _ _ => path
  | .unknown path => path

/-- Whether a warning is about a path that the reference does not know. -/
def Warning.isUnknown : Warning → Bool
  | .unknown _ => true
  | _ => false

/-- The order of the warnings in a report: the unknown paths stand behind all others, both parts go
by path, and the placeholders of a path come before its links. -/
inductive Warning.Precedes : Warning → Warning → Prop
  | unknown {a b : Warning} (ha : a.isUnknown = false) (hb : b.isUnknown = true) : Precedes a b
  | path {a b : Warning} (hkind : a.isUnknown = b.isUnknown) (h : a.path < b.path) : Precedes a b
  | links (path : String) (found other linked otherLinked : List String) :
    Precedes (.placeholders path found other) (.links path linked otherLinked)

/-- A warning does not come before itself. -/
theorem Warning.Precedes.ne {a b : Warning} (h : a.Precedes b) : a ≠ b := by
  rintro rfl
  cases h with
  | unknown ha hb =>
    rw [ha] at hb
    cases hb
  | path _ h => exact String.lt_irrefl _ h

instance (path parent : String) : Decidable (Path.Below path parent) :=
  decidable_of_iff _ isBelow_iff

instance (path other : String) : Decidable (Path.Overlap path other) :=
  inferInstanceAs (Decidable (_ ∨ _))

/-- The problems are the paths that only the reference has, each misplaced if it overlaps one of the
other catalog and missing otherwise. -/
theorem problems_eq_map (expected actual : KeyMap String) :
    problems expected actual = (expected.keys.filter (· ∉ actual.keys)).map fun path =>
      if ∃ other ∈ actual.keys, Path.Overlap path other then .misplaced path
      else .missing path := by
  have hkeys : expected.keys = expected.map Prod.fst := rfl
  rw [problems, hkeys, ← List.filterMap_eq_map, List.filterMap_filter, List.filterMap_map]
  congr 1
  funext p
  by_cases hp : p.1 ∈ actual.keys
  · obtain ⟨text, htext⟩ := KeyMap.mem_keys_iff.mp hp
    simp [htext, hp]
  · simp only [KeyMap.find?_eq_none_iff.mpr hp, hp, Option.isSome_none, Bool.false_eq_true,
      if_false, Function.comp_apply, not_false_eq_true, decide_true, if_true, overlaps_iff]
    exact (apply_ite some _ _ _).symm

/-! ### Texts that disagree -/

/-- Both maps have a text at a path, and what is found in these texts are different sets. -/
def DifferAt (find : String → List String) (expected actual : KeyMap String) (path : String)
    (found other : List String) : Prop :=
  ∃ text otherText, expected.find? path = some text ∧ actual.find? path = some otherText ∧
    find text = found ∧ find otherText = other ∧ ¬ ∀ x, x ∈ found ↔ x ∈ other

/-- What is found in order makes different sets exactly if it is not the same. -/
theorem differAt_iff_ne {find : String → List String} (hfind : ∀ text, KeySet.Ordered (find text))
    {expected actual : KeyMap String} {path : String} {found other : List String} :
    DifferAt find expected actual path found other ↔
      ∃ text otherText, expected.find? path = some text ∧ actual.find? path = some otherText ∧
        find text = found ∧ find otherText = other ∧ found ≠ other := by
  refine exists_congr fun text => exists_congr fun otherText => and_congr_right fun _ =>
    and_congr_right fun _ => and_congr_right fun hfound => and_congr_right fun hother => ?_
  subst hfound hother
  exact not_congr ⟨(hfind text).ext (hfind otherText), fun heq _ => heq ▸ Iff.rfl⟩

variable {expected actual : KeyMap String} {path text otherText : String}

/-- The warnings on common paths are the disagreements of the two texts there. -/
theorem mem_mismatches_iff (h : expected.Ordered) {warning : Warning} :
    warning ∈ mismatches expected actual ↔
      ∃ path text otherText, expected.find? path = some text ∧
        actual.find? path = some otherText ∧ warning ∈ disagreements path text otherText := by
  rw [mismatches, List.mem_flatMap]
  constructor
  · rintro ⟨p, hp, hwarning⟩
    dsimp only at hwarning
    split at hwarning
    · rename_i otherText hother
      exact ⟨p.1, p.2, otherText, h.find?_eq_some_iff.mpr hp, hother, hwarning⟩
    · cases hwarning
  · rintro ⟨path, text, otherText, htext, hother, hwarning⟩
    refine ⟨(path, text), KeyMap.mem_of_find? htext, ?_⟩
    dsimp only
    rwa [hother]

/-- A warning about placeholders names the path and the two sets, which are not the same. -/
theorem placeholders_mem_disagreements_iff {p : String} {found other : List String} :
    .placeholders p found other ∈ disagreements path text otherText ↔
      path = p ∧ Placeholder.names text = found ∧ Placeholder.names otherText = other ∧
        found ≠ other := by
  unfold disagreements
  grind

/-- A warning about links names the path and the two sets, which are not the same. -/
theorem links_mem_disagreements_iff {p : String} {found other : List String} :
    .links p found other ∈ disagreements path text otherText ↔
      path = p ∧ Link.keys text = found ∧ Link.keys otherText = other ∧ found ≠ other := by
  unfold disagreements
  grind

/-- A warning that stands for what is found in two texts is given for a path exactly if the texts
there differ in it. -/
theorem mem_mismatches_iff_differAt (h : expected.Ordered) {find : String → List String}
    (hfind : ∀ text, KeySet.Ordered (find text)) {warning : Warning} {found other : List String}
    (hwarning : ∀ p text otherText, warning ∈ disagreements p text otherText ↔
      p = path ∧ find text = found ∧ find otherText = other ∧ found ≠ other) :
    warning ∈ mismatches expected actual ↔ DifferAt find expected actual path found other := by
  rw [mem_mismatches_iff h, differAt_iff_ne hfind]
  constructor
  · rintro ⟨p, text, otherText, htext, hother, hmem⟩
    obtain ⟨rfl, hfound⟩ := (hwarning p text otherText).mp hmem
    exact ⟨text, otherText, htext, hother, hfound⟩
  · rintro ⟨text, otherText, htext, hother, hfound⟩
    exact ⟨path, text, otherText, htext, hother, (hwarning path text otherText).mpr ⟨rfl, hfound⟩⟩

/-! ### The order of the warnings -/

/-- A disagreement is a warning about its path, and none about an unknown one. -/
theorem of_mem_disagreements {warning : Warning} (h : warning ∈ disagreements path text otherText) :
    warning.isUnknown = false ∧ warning.path = path := by
  rw [disagreements, List.mem_append] at h
  rcases h with h | h <;> split at h
  · cases h
  · rw [List.mem_singleton] at h
    subst h
    exact ⟨rfl, rfl⟩
  · cases h
  · rw [List.mem_singleton] at h
    subst h
    exact ⟨rfl, rfl⟩

/-- At one path placeholders come before links. -/
theorem pairwise_disagreements (path text otherText : String) :
    (disagreements path text otherText).Pairwise Warning.Precedes := by
  have hpair (found other linked otherLinked : List String) :
      [Warning.placeholders path found other, .links path linked otherLinked].Pairwise
        Warning.Precedes :=
    List.pairwise_pair.mpr (.links path found other linked otherLinked)
  unfold disagreements
  split <;> split
  · exact .nil
  · exact List.pairwise_singleton _ _
  · exact List.pairwise_singleton _ _
  · exact hpair _ _ _ _

/-- The warnings on common paths are in order. -/
theorem pairwise_mismatches (h : expected.Ordered) :
    (mismatches expected actual).Pairwise Warning.Precedes := by
  rw [mismatches, List.pairwise_flatMap]
  refine ⟨fun p _ => ?_, h.imp fun hlt a ha b hb => ?_⟩
  · dsimp only
    split
    · exact pairwise_disagreements _ _ _
    · exact .nil
  · dsimp only at ha hb
    split at ha
    · split at hb
      · obtain ⟨hknown, hpath⟩ := of_mem_disagreements ha
        obtain ⟨hknown', hpath'⟩ := of_mem_disagreements hb
        exact .path (hknown.trans hknown'.symm) (by rwa [hpath, hpath'])
      · cases hb
    · cases ha

/-- The warnings about paths that only the candidate has are marked as such. -/
theorem isUnknown_of_mem_unknowns {warning : Warning} (h : warning ∈ unknowns expected actual) :
    warning.isUnknown = true := by
  obtain ⟨path, -, -, -, rfl⟩ := mem_unknowns_iff.mp h
  rfl

/-- The unknown paths are in order. -/
theorem pairwise_unknowns (h : actual.Ordered) :
    (unknowns expected actual).Pairwise Warning.Precedes := by
  rw [unknowns]
  refine h.filterMap _ fun p q hlt a ha b hb => ?_
  dsimp only at ha hb
  split at ha
  · cases ha
  · split at hb
    · cases hb
    · cases ha
      cases hb
      exact .path rfl hlt

end Validation

namespace Catalog

open Validation

/-- The warnings of a report are in order. -/
theorem pairwise_warnings_compare (reference candidate : Catalog) :
    (reference.compare candidate).warnings.Pairwise Warning.Precedes := by
  refine List.pairwise_append.mpr ⟨pairwise_mismatches reference.ordered_flatten,
    pairwise_unknowns candidate.ordered_flatten, fun a ha b hb => ?_⟩
  obtain ⟨path, text, otherText, -, -, hmem⟩ :=
    (mem_mismatches_iff reference.ordered_flatten).mp ha
  exact .unknown (of_mem_disagreements hmem).1 (isUnknown_of_mem_unknowns hb)

/-- The errors of a report are the paths that only the reference has, one error each and in order of
path: a path is misplaced if it overlaps one of the candidate and missing otherwise. A warning about
placeholders or links is given exactly for the common paths whose texts differ in them, and the
other warnings are the paths that only the candidate has and that overlap none of the reference. The
unknown paths stand behind all else, both parts are in order of path with the placeholders of a path
before its links, and no warning is given twice. -/
theorem compare_lists_differences (reference candidate : Catalog) :
    let expected := reference.flatten
    let actual := candidate.flatten
    let report := reference.compare candidate
    (expected.keys.Pairwise (· < ·) ∧
      report.errors = (expected.keys.filter (· ∉ actual.keys)).map (fun path =>
        if ∃ other ∈ actual.keys, Path.Overlap path other then .misplaced path
        else .missing path) ∧
      report.errors.map Problem.message = (expected.keys.filter (· ∉ actual.keys)).map (fun path =>
        if ∃ other ∈ actual.keys, Path.Overlap path other then
          "Structure mismatch: '" ++ path ++ "' is nested differently in the catalog"
        else "Missing key: '" ++ path ++ "'")) ∧
    (∀ path found other,
      (.placeholders path found other ∈ report.warnings ↔
        DifferAt Placeholder.names expected actual path found other) ∧
      (.links path found other ∈ report.warnings ↔
        DifferAt Link.keys expected actual path found other)) ∧
    (∀ path, .unknown path ∈ report.warnings ↔ path ∈ actual.keys ∧ path ∉ expected.keys ∧
      ∀ other ∈ expected.keys, ¬ Path.Overlap path other) ∧
    report.warnings.Pairwise Warning.Precedes ∧ report.warnings.Nodup := by
  intro expected actual report
  have hexpected : expected.Ordered := reference.ordered_flatten
  have herrors := problems_eq_map expected actual
  have hknown {warning : Warning} (h : warning.isUnknown = false) :
      warning ∈ report.warnings ↔ warning ∈ mismatches expected actual := by
    refine List.mem_append.trans (or_iff_left fun hmem => ?_)
    rw [isUnknown_of_mem_unknowns hmem] at h
    cases h
  have hordered := pairwise_warnings_compare reference candidate
  refine ⟨⟨List.pairwise_map.mpr hexpected, herrors, ?_⟩, fun path found other => ⟨?_, ?_⟩,
    fun path => unknown_mem_warnings_iff, hordered, hordered.imp fun h => h.ne⟩
  · change (problems expected actual).map Problem.message = _
    rw [herrors, List.map_map]
    refine List.map_congr_left fun path _ => ?_
    exact apply_ite Problem.message _ _ _
  · rw [hknown rfl]
    exact mem_mismatches_iff_differAt hexpected Placeholder.ordered_names
      fun _ _ _ => placeholders_mem_disagreements_iff
  · rw [hknown rfl]
    exact mem_mismatches_iff_differAt hexpected Link.ordered_keys
      fun _ _ _ => links_mem_disagreements_iff

end Catalog

end Phrasebook
