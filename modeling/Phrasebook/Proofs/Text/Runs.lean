/-!
# Runs

A run is the longest front of a list whose members all belong to a class: it goes on until the first
member that does not, or to the end. `takeWhile` gives the run at the front of a list and
`dropWhile` what is behind it, and no other cut of the list has these two properties.
-/

namespace Phrasebook.Text

variable {α : Type} {p : α → Bool}

/-- A list goes on with no member of a class: it begins with another one, or it is at its end. -/
def EndsRun (p : α → Bool) (rest : List α) : Prop := ∀ a ∈ rest.head?, p a = false

/-- An element that is no member of a class ends a run of it. -/
theorem EndsRun.cons {a : α} (h : p a = false) (rest : List α) : EndsRun p (a :: rest) := by
  intro b hb
  cases hb
  exact h

/-- At the end of a run no more members come. -/
theorem EndsRun.takeWhile_eq {rest : List α} (h : EndsRun p rest) : rest.takeWhile p = [] := by
  cases rest with
  | nil => rfl
  | cons a rest => exact List.takeWhile_cons_of_neg (by simp [h a rfl])

/-- At the end of a run nothing more is dropped. -/
theorem EndsRun.dropWhile_eq {rest : List α} (h : EndsRun p rest) : rest.dropWhile p = rest := by
  cases rest with
  | nil => rfl
  | cons a rest => exact List.dropWhile_cons_of_neg (by simp [h a rfl])

/-- What is left when the run is dropped begins at its end. -/
theorem endsRun_dropWhile (s : List α) : EndsRun p (s.dropWhile p) := by
  intro a ha
  have := List.head?_dropWhile_not p s
  simp_all

/-- Members of a class up to the end of a run are the run. -/
theorem takeWhile_run {run rest : List α} (hrun : ∀ a ∈ run, p a = true) (hrest : EndsRun p rest) :
    (run ++ rest).takeWhile p = run := by
  rw [List.takeWhile_append_of_pos hrun, hrest.takeWhile_eq, List.append_nil]

/-- What is left behind a run is what ended it. -/
theorem dropWhile_run {run rest : List α} (hrun : ∀ a ∈ run, p a = true) (hrest : EndsRun p rest) :
    (run ++ rest).dropWhile p = rest := by
  rw [List.dropWhile_append_of_pos hrun, hrest.dropWhile_eq]

/-- Every list is its run and what is behind it. -/
theorem exists_run (p : α → Bool) (s : List α) :
    ∃ run rest, s = run ++ rest ∧ (∀ a ∈ run, p a = true) ∧ EndsRun p rest :=
  ⟨s.takeWhile p, s.dropWhile p, List.takeWhile_append_dropWhile.symm,
    List.all_eq_true.mp List.all_takeWhile, endsRun_dropWhile s⟩

end Phrasebook.Text
