import Phrasebook.Programs.CheckCatalogs
import Phrasebook.Proofs.Programs.Basic
import Phrasebook.Proofs.Validation.Coverage

/-!
# The verdict of checking catalogs

The program fetches one catalog after the other and goes on past those that fail. What it tells of
a locale are details and one summary; how it ends is decided by the number of locales without a
complete catalog.
-/

namespace Phrasebook

namespace CheckCatalogs

/-- An answer is a catalog with every path of a reference. -/
def IsComplete (reference : Catalog) (answer : Except FetchError Catalog) : Prop :=
  ∃ c, answer = .ok c ∧ ∀ path ∈ reference.flatten.keys, path ∈ c.flatten.keys

/-- A catalog that did not come is not complete. -/
theorem not_isComplete_error (reference : Catalog) (e : FetchError) :
    ¬ IsComplete reference (.error e) := by
  rintro ⟨c, hc, -⟩
  cases hc

/-- A catalog that came is complete exactly if it has a message for every path of the reference. -/
theorem isComplete_ok_iff {reference c : Catalog} :
    IsComplete reference (.ok c) ↔ ∀ path ∈ reference.flatten.keys, path ∈ c.flatten.keys := by
  constructor
  · rintro ⟨d, hd, h⟩
    cases hd
    exact h
  · exact fun h => ⟨c, rfl, h⟩

instance (reference : Catalog) : DecidablePred (IsComplete reference)
  | .error e => .isFalse (not_isComplete_error reference e)
  | .ok _ => decidable_of_iff _ isComplete_ok_iff.symm

/-- What is told about one locale before it is summed up. -/
def details (reference : Catalog) (l : Locale) : Except FetchError Catalog → List ShownLine
  | .error _ => []
  | .ok c =>
    let code := l.code
    let report := reference.compare c
    let about (level : Level) (text : String) : ShownLine := tell level s!"[{code}] {text}"
    report.warnings.map (fun w => about .warn w.message) ++
      report.errors.map (fun p => about .error p.message)

/-- What a summary says that was found. -/
def finding (reference : Catalog) : Except FetchError Catalog → String
  | .error e => e.message
  | .ok c =>
    let report := reference.compare c
    let errors := report.errors.length
    let warnings := report.warnings.length
    let messages := c.messageCount
    if report.errors.isEmpty then s!"{messages} messages, {warnings} warnings"
    else s!"{errors} errors, {warnings} warnings"

/-- The line that sums up one locale, behind the progress that is made with it. -/
def summary (progress : String) (reference : Catalog) (l : Locale)
    (answer : Except FetchError Catalog) : ShownLine :=
  let code := l.code
  let finding := finding reference answer
  if IsComplete reference answer then tell .info s!"[{progress}] ✓ {code} - {finding}"
  else tell .error s!"[{progress}] ✗ {code} - {finding}"

/-- A verdict tells its details and sums up, and it is a failure unless the answer is complete. -/
theorem verdict_eq (progress : String) (reference : Catalog) (l : Locale)
    (answer : Except FetchError Catalog) :
    verdict progress reference l answer =
      ⟨details reference l answer ++ [summary progress reference l answer],
        decide (¬ IsComplete reference answer)⟩ := by
  cases answer with
  | error e =>
    have hnot := not_isComplete_error reference e
    simp [verdict, details, summary, finding, hnot]
  | ok c =>
    have hiff : IsComplete reference (.ok c) ↔ (reference.compare c).errors = [] :=
      isComplete_ok_iff.trans Catalog.errors_compare_eq_nil_iff.symm
    by_cases herrors : (reference.compare c).errors = []
    · have hcomplete := hiff.mpr herrors
      simp [verdict, details, summary, finding, hcomplete, herrors, String.append_assoc, toString]
    · have hnot := mt hiff.mp herrors
      simp [verdict, details, summary, finding, hnot, herrors, String.append_assoc, toString]

section Verdicts

variable (reference : Catalog) (total n : Nat)

/-- The verdicts on what was fetched for some locales, the first of which is number `n` of
`total`. -/
def verdicts (fetched : List (Locale × Except FetchError Catalog)) : List Verdict :=
  (fetched.zipIdx n).map fun (p, i) => verdict s!"{i}/{total}" reference p.1 p.2

/-- The verdict on the first locale has the first number, and the others are numbered from there
on. -/
theorem verdicts_cons (p : Locale × Except FetchError Catalog)
    (rest : List (Locale × Except FetchError Catalog)) :
    verdicts reference total n (p :: rest) =
      verdict s!"{n}/{total}" reference p.1 p.2 :: verdicts reference total (n + 1) rest := rfl

/-- There is one verdict for each catalog. -/
theorem length_verdicts (fetched : List (Locale × Except FetchError Catalog)) :
    (verdicts reference total n fetched).length = fetched.length := by
  rw [verdicts, List.length_map, List.length_zipIdx]

/-- As many verdicts are failures as answers are not complete. -/
theorem countP_verdicts (fetched : List (Locale × Except FetchError Catalog)) :
    (verdicts reference total n fetched).countP Verdict.isFailure =
      fetched.countP fun p => ¬ IsComplete reference p.2 := by
  induction fetched generalizing n with
  | nil => rfl
  | cons p rest ih => rw [verdicts_cons, List.countP_cons, List.countP_cons, ih, verdict_eq]

/-- Each verdict tells its details and one summary, in order. -/
theorem flatMap_output_verdicts (fetched : List (Locale × Except FetchError Catalog)) :
    (verdicts reference total n fetched).flatMap Verdict.output =
      (fetched.zipIdx n).flatMap fun (p, i) => details reference p.1 p.2 ++
        [summary s!"{i}/{total}" reference p.1 p.2] := by
  induction fetched generalizing n with
  | nil => rfl
  | cons p rest ih => rw [verdicts_cons, List.flatMap_cons, ih, verdict_eq, List.zipIdx_cons,
      List.flatMap_cons]

/-- The end of a run tells the verdicts, and counts the answers that are not complete. -/
theorem conclude_verdicts (output : List ShownLine) (h : History)
    (fetched : List (Locale × Except FetchError Catalog)) :
    let total := fetched.length
    let failed := fetched.countP fun p => ¬ IsComplete reference p.2
    conclude output h (verdicts reference total 1 fetched) =
      { output := output ++
          ((fetched.zipIdx 1).flatMap fun (p, i) => details reference p.1 p.2 ++
            [summary s!"{i}/{total}" reference p.1 p.2]) ++
          (if failed = 0 then [tell .info s!"All {total} catalogs are complete"] else [])
        failure := if failed = 0 then none
          else some ⟨s!"{failed} of {total} catalogs failed validation", []⟩
        history := h } := by
  intro total failed
  have hfailed : (verdicts reference total 1 fetched).countP Verdict.isFailure = failed :=
    countP_verdicts reference total 1 fetched
  simp only [conclude, hfailed, length_verdicts, flatMap_output_verdicts]
  by_cases hzero : failed = 0
  · simp only [if_pos hzero]
    rfl
  · simp only [if_neg hzero, List.append_nil]
    rfl

end Verdicts

section Fetching

variable (net : Network) (base : Url)

/-- Some locales with the answers to the fetches of their catalogs, one after the other, and the
history behind them. -/
def fetchAll : History → List Locale → List (Locale × Except FetchError Catalog) × History
  | h, [] => ([], h)
  | h, l :: rest =>
    let (answer, h) := fetch net base h l
    let (others, h) := fetchAll h rest
    ((l, answer) :: others, h)

/-- Each locale is fetched once, in the order in which they are given. -/
theorem map_fst_fetchAll (h : History) (ls : List Locale) :
    (fetchAll net base h ls).1.map Prod.fst = ls := by
  induction ls generalizing h with
  | nil => rfl
  | cons l rest ih => rw [fetchAll, List.map_cons, ih]

/-- There is one fetch for each locale. -/
theorem length_fetchAll (h : History) (ls : List Locale) :
    (fetchAll net base h ls).1.length = ls.length := by
  have hmap := congrArg List.length (map_fst_fetchAll net base h ls)
  rwa [List.length_map] at hmap

/-- Each locale is fetched once, behind those before it. -/
theorem getElem?_fetchAll (h : History) (ls : List Locale) (i : Nat) :
    (fetchAll net base h ls).1[i]? =
      ls[i]?.map fun l => (l, (fetch net base (fetchAll net base h (ls.take i)).2 l).1) := by
  induction ls generalizing h i with
  | nil => simp [fetchAll]
  | cons l rest ih =>
    cases i with
    | zero => simp [fetchAll]
    | succ i => simp [fetchAll, ih]

/-- The checks of some locales are the verdicts on what was fetched. -/
theorem checkAll_eq (reference : Catalog) (total n : Nat) (h : History) (ls : List Locale) :
    checkAll net base reference total n h ls =
      (verdicts reference total n (fetchAll net base h ls).1, (fetchAll net base h ls).2) := by
  -- The number and the history both move on with each locale, so the induction is for all of them.
  induction ls generalizing n h with
  | nil => rfl
  | cons l rest ih =>
    simp only [checkAll, fetchAll, ih, verdicts_cons]

end Fetching

/-- The locales to check are those of the arguments that are not empty and not the fallback. -/
theorem locales_eq (args : List String) :
    locales args = (args.filter fun code => code ≠ "" ∧ code ≠ "en").map Locale.mk := by
  induction args with
  | nil => rfl
  | cons code rest ih =>
    rw [locales] at ih ⊢
    by_cases hempty : code = ""
    · have hnone : Locale.ofString? code = none := if_pos hempty
      rw [List.filterMap_cons_none hnone, ih, List.filter_cons_of_neg (by simp [hempty])]
    · have hsome : Locale.ofString? code = some ⟨code⟩ := if_neg hempty
      rw [List.filterMap_cons_some hsome]
      by_cases hfallback : code = "en"
      · subst hfallback
        rw [List.filter_cons_of_neg (by decide), ih, List.filter_cons_of_neg (by decide)]
      · have hfilter : ¬ (Locale.mk code).isFallback := by
          simp [Locale.isFallback, Locale.fallbackCode, hfallback]
        rw [List.filter_cons_of_pos (by simpa using hfilter), ih,
          List.filter_cons_of_pos (by simp [hempty, hfallback]), List.map_cons]

/-- The line that opens the checks. -/
def opening (reference : Catalog) : ShownLine :=
  let code := Locale.fallbackCode
  let messages := reference.messageCount
  tell .info s!"Reference catalog '{code}' has {messages} messages"

section Run

variable {net : Network} {files : FileTree} {e : Environment} {base : Url}

/-- The program has the base URL of the settings that the environment gives. -/
theorem base_eq_ok {settings : Settings}
    (hsettings : Settings.ofEnvironment (e.withAssignments files) = .ok settings)
    (hbase : settings.base = .ok base) : CheckCatalogs.base files e = .ok base := by
  rw [CheckCatalogs.base, Except.bind_eq_ok_iff]
  exact ⟨settings, Except.mapError_eq_ok_iff.mpr hsettings, Except.mapError_eq_ok_iff.mpr hbase⟩

/-- The reference is what the fetch of the fallback locale gives, with another error. -/
theorem exists_reference_eq (net : Network) (base : Url) :
    let fetched := fetch net base [] .fallback
    ∃ f, reference net base = (fetched.1.mapError f, fetched.2) := by
  unfold reference fetch
  cases catalogUrl? base .fallback with
  | none => exact ⟨Failure.ofFetch, rfl⟩
  | some u =>
    dsimp only
    let f (e : FetchError) : Failure :=
      let url := u.render
      ⟨s!"Failed to fetch reference catalog {url}", e.message :: e.causes⟩
    refine ⟨f, ?_⟩
    cases net.fetchText [] u.render with
    | mk answer h => cases answer <;> rfl

/-- A run without a locale to check fails. -/
theorem run_of_no_locales {args : List String} (h : locales args = []) :
    (run net files e args).failure ≠ none := by
  simp only [run, h, List.isEmpty_nil, if_true]
  exact Option.some_ne_none usage

/-- A run without a reference fails. -/
theorem run_of_no_reference {args : List String} {cause : FetchError} {h : History}
    (hlocales : locales args ≠ []) (hbase : CheckCatalogs.base files e = .ok base)
    (hfetch : fetch net base [] .fallback = (.error cause, h)) :
    (run net files e args).failure ≠ none := by
  obtain ⟨f, hreference⟩ := exists_reference_eq net base
  rw [hfetch] at hreference
  have hreference : reference net base = (.error (f cause), h) := hreference
  simp [run, hlocales, hbase, hreference]

/-- Any other run tells the verdicts on what is fetched. -/
theorem run_of_reference {args : List String} {reference : Catalog} {h : History}
    (hlocales : locales args ≠ []) (hbase : CheckCatalogs.base files e = .ok base)
    (hfetch : fetch net base [] .fallback = (.ok reference, h)) :
    run net files e args =
      conclude (skipped args ++ [opening reference]) (fetchAll net base h (locales args)).2
        (verdicts reference (fetchAll net base h (locales args)).1.length 1
          (fetchAll net base h (locales args)).1) := by
  obtain ⟨f, hreference⟩ := exists_reference_eq net base
  rw [hfetch] at hreference
  have hreference : CheckCatalogs.reference net base = (.ok reference, h) := hreference
  have hne : (locales args).isEmpty = false := by simpa using hlocales
  rw [length_fetchAll]
  simp only [run, hne, hbase, hreference, checkAll_eq]
  rfl

end Run

end CheckCatalogs

end Phrasebook
