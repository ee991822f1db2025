import Phrasebook.Proofs.Validation.Coverage

/-!
# Paths of the candidate above or below those of the reference

A path that only the candidate has is unknown, unless it is above or below a path of the reference:
then it is passed over, and a misplaced path of the reference has to stand for it. Such a path is
there exactly if one of the paths that overlap it is missing from the candidate. A candidate without
dots in its keys leaves nothing out, since no two of its own paths overlap. Where dots let a
candidate have both a path of the reference and one below it, the latter is not reported at all.
-/

namespace Phrasebook

namespace Validation

/-- The characters of a path go below another one if a dot and something more come behind that. -/
theorem goesBelow_iff {path parent : List Char} :
    goesBelow path parent = true ↔ ∃ rest, rest ≠ [] ∧ path = parent ++ '.' :: rest := by
  induction parent generalizing path with
  | nil =>
    match path with
    | [] => simp [goesBelow]
    | [c] => simp [goesBelow]
    | dot :: c :: cs => simp [goesBelow]
  | cons p ps ih =>
    match path with
    | [] => simp [goesBelow]
    | c :: cs =>
      rw [goesBelow, Bool.and_eq_true, decide_eq_true_iff, ih]
      simp only [List.cons_append, List.cons.injEq]
      constructor
      · rintro ⟨rfl, rest, hrest, rfl⟩
        exact ⟨rest, hrest, rfl, rfl⟩
      · rintro ⟨rest, hrest, rfl, rfl⟩
        exact ⟨rfl, rest, hrest, rfl⟩

/-- The test for a path below another one says so exactly if it is. -/
theorem isBelow_iff {path parent : String} :
    isBelow path parent = true ↔ Path.Below path parent := by
  rw [isBelow, goesBelow_iff]
  constructor
  · rintro ⟨rest, hrest, hpath⟩
    refine ⟨String.ofList rest, by simpa using hrest, ?_⟩
    rw [← String.toList_inj, hpath]
    simp
  · rintro ⟨rest, hrest, rfl⟩
    exact ⟨rest.toList, by simpa using hrest, by simp⟩

/-- The test for an overlap says so exactly if a path overlaps one of the others. -/
theorem overlaps_iff {path : String} {others : List String} :
    overlaps path others = true ↔ ∃ other ∈ others, Path.Overlap path other := by
  simp only [overlaps, List.any_eq_true, Bool.or_eq_true, isBelow_iff, Path.Overlap]
  exact exists_congr fun other => and_congr_right fun _ => or_comm

/-- The unknown paths are those that only the candidate has and that overlap none of the
reference. -/
theorem mem_unknowns_iff {expected actual : KeyMap String} {warning : Warning} :
    warning ∈ unknowns expected actual ↔ ∃ path ∈ actual.keys, path ∉ expected.keys ∧
      overlaps path expected.keys = false ∧ warning = .unknown path := by
  simp only [unknowns, List.mem_filterMap]
  constructor
  · rintro ⟨p, hp, h⟩
    refine ⟨p.1, List.mem_map_of_mem hp, ?_⟩
    split at h
    · cases h
    · rename_i hnone
      rw [Bool.or_eq_true, not_or, Bool.not_eq_true, Bool.not_eq_true,
        Option.isSome_eq_false_iff, Option.isNone_iff_eq_none, KeyMap.find?_eq_none_iff] at hnone
      exact ⟨hnone.1, hnone.2, (Option.some.inj h).symm⟩
  · rintro ⟨path, hpath, hnew, hoverlaps, rfl⟩
    obtain ⟨p, hp, rfl⟩ := List.mem_map.mp hpath
    refine ⟨p, hp, ?_⟩
    rw [KeyMap.find?_eq_none_iff.mpr hnew, hoverlaps]
    rfl

/-- What two texts disagree on does not make a path unknown. -/
theorem unknown_not_mem_mismatches {expected actual : KeyMap String} {path : String} :
    .unknown path ∉ mismatches expected actual := by
  intro hmem
  obtain ⟨p, -, hp⟩ := List.mem_flatMap.mp hmem
  dsimp only at hp
  split at hp
  · rw [disagreements, List.mem_append] at hp
    rcases hp with hp | hp <;> split at hp <;> simp at hp
  · cases hp

end Validation

namespace Catalog

open Validation

/-- The report has a path of the candidate, as an unknown one or by a misplaced path of the
reference that is above or below it. -/
def Reports (reference candidate : Catalog) (path : String) : Prop :=
  .unknown path ∈ (reference.compare candidate).warnings ∨
    ∃ other ∈ reference.flatten.keys, Path.Overlap path other ∧
      .misplaced other ∈ (reference.compare candidate).errors

/-- A path is reported as unknown exactly if only the candidate has it and no path of the reference
overlaps it. -/
theorem unknown_mem_warnings_iff {reference candidate : Catalog} {path : String} :
    .unknown path ∈ (reference.compare candidate).warnings ↔
      path ∈ candidate.flatten.keys ∧ path ∉ reference.flatten.keys ∧
        ∀ other ∈ reference.flatten.keys, ¬ Path.Overlap path other := by
  have hoverlaps : overlaps path reference.flatten.keys = false ↔
      ∀ other ∈ reference.flatten.keys, ¬ Path.Overlap path other := by
    rw [← Bool.not_eq_true, overlaps_iff]
    simp
  rw [compare, List.mem_append, or_iff_right unknown_not_mem_mismatches, mem_unknowns_iff,
    ← hoverlaps]
  constructor
  · rintro ⟨other, hmem, hnew, hnone, heq⟩
    cases heq
    exact ⟨hmem, hnew, hnone⟩
  · rintro ⟨hmem, hnew, hnone⟩
    exact ⟨path, hmem, hnew, hnone, rfl⟩

/-- A path is reported as misplaced exactly if only the reference has it and a path of the candidate
overlaps it. -/
theorem misplaced_mem_errors_iff {reference candidate : Catalog} {path : String} :
    .misplaced path ∈ (reference.compare candidate).errors ↔
      path ∈ reference.flatten.keys ∧ path ∉ candidate.flatten.keys ∧
        ∃ other ∈ candidate.flatten.keys, Path.Overlap path other := by
  rw [compare, mem_problems_iff, ← overlaps_iff]
  constructor
  · rintro ⟨other, hmem, hnone, heq⟩
    split at heq
    · cases heq
      exact ⟨hmem, hnone, ‹_›⟩
    · cases heq
  · rintro ⟨hmem, hnone, hoverlaps⟩
    exact ⟨path, hmem, hnone, (if_pos hoverlaps).symm⟩

/-- A path that only the candidate has is reported exactly if no path of the reference overlaps it
or one that does is missing from the candidate. In particular it is reported if the candidate has no
dots in its keys. -/
theorem reports_iff_of_not_mem {reference candidate : Catalog} {path : String}
    (hpath : path ∈ candidate.flatten.keys) (hnew : path ∉ reference.flatten.keys) :
    (Reports reference candidate path ↔
      (∀ other ∈ reference.flatten.keys, ¬ Path.Overlap path other) ∨
        ∃ other ∈ reference.flatten.keys,
          Path.Overlap path other ∧ other ∉ candidate.flatten.keys) ∧
    (candidate.DotFree → Reports reference candidate path) := by
  have hiff : Reports reference candidate path ↔
      (∀ other ∈ reference.flatten.keys, ¬ Path.Overlap path other) ∨
        ∃ other ∈ reference.flatten.keys,
          Path.Overlap path other ∧ other ∉ candidate.flatten.keys := by
    rw [Reports, unknown_mem_warnings_iff]
    refine or_congr ⟨fun h => h.2.2, fun h => ⟨hpath, hnew, h⟩⟩ ?_
    refine exists_congr fun other => and_congr_right fun hother => and_congr_right fun hover => ?_
    rw [misplaced_mem_errors_iff]
    exact ⟨fun h => h.2.1, fun h => ⟨hother, h, path, hpath, hover.symm⟩⟩
  refine ⟨hiff, fun hdots => hiff.mpr ?_⟩
  by_cases hover : ∃ other ∈ reference.flatten.keys, Path.Overlap path other
  · -- The candidate has no path that overlaps its own one, so it lacks that of the reference.
    obtain ⟨other, hother, hoverlap⟩ := hover
    refine .inr ⟨other, hother, hoverlap, fun hmem => ?_⟩
    rcases hoverlap with hbelow | hbelow
    · exact hdots.not_below hpath hmem hbelow
    · exact hdots.not_below hmem hpath hbelow
  · exact .inl fun other hother hoverlap => hover ⟨other, hother, hoverlap⟩

/-- A catalog whose only message stands under a key without dots. -/
def menuCatalog : Catalog := ofEntries [("menu", ⟨.message "Menu", trivial⟩)]

/-- A catalog that has a group where `menuCatalog` has a message. -/
def menuGroupCatalog : Catalog where
  children := [("menu", .group [("help", .message "Help")])]
  ordered := by decide

/-- The message of the group is reported by the one that is misplaced there. -/
theorem reports_menu_help :
    "menu.help" ∈ menuGroupCatalog.flatten.keys ∧ "menu.help" ∉ menuCatalog.flatten.keys ∧
      menuGroupCatalog.DotFree ∧ (menuCatalog.compare menuGroupCatalog).warnings = [] ∧
      Reports menuCatalog menuGroupCatalog "menu.help" := by
  have hdots : menuGroupCatalog.DotFree := by decide
  have hpath : "menu.help" ∈ menuGroupCatalog.flatten.keys := by decide
  have hnew : "menu.help" ∉ menuCatalog.flatten.keys := by decide
  exact ⟨hpath, hnew, hdots, by decide, (reports_iff_of_not_mem hpath hnew).2 hdots⟩

/-- A catalog with the message of `menuCatalog` and one whose path is below it. -/
def menuHelpCatalog : Catalog :=
  ofEntries [("menu", ⟨.message "Menu", trivial⟩), ("menu.help", ⟨.message "Help", trivial⟩)]

/-- The message that only the candidate has is not reported at all: it is below a path of the
reference, but that one is in the candidate too. -/
theorem shared_parent_unreported :
    "menu.help" ∈ menuHelpCatalog.flatten.keys ∧ "menu.help" ∉ menuCatalog.flatten.keys ∧
      menuCatalog.compare menuHelpCatalog = {} ∧
      ¬ Reports menuCatalog menuHelpCatalog "menu.help" := by
  have hclean : menuCatalog.compare menuHelpCatalog = {} := by decide +kernel
  refine ⟨by decide, by decide, hclean, ?_⟩
  rw [Reports, hclean]
  simp

end Catalog

end Phrasebook
