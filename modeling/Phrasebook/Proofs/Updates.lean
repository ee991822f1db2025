/-!
# The last of some updates

Where each update writes what is looked at or leaves it alone, some updates in turn leave what the
last of those wrote that write at all. So an update does not count if it writes nothing, or if a
later one writes again.
-/

namespace List

variable {α β σ : Type}

/-- Some updates leave what the last one wrote that wrote anything, or else what was there. -/
theorem foldl_view_eq_last {update : σ → α → σ} {writes? : α → Option β} (view : σ → β)
    (h : ∀ s a, view (update s a) = (writes? a).getD (view s)) (s : σ) (updates : List α) :
    view (updates.foldl update s) = ((updates.filterMap writes?).getLast?).getD (view s) := by
  induction updates generalizing s with
  | nil => rfl
  | cons a rest ih =>
    rw [foldl_cons, ih, h, filterMap_cons]
    cases writes? a with
    | none => rfl
    | some b =>
      rw [getLast?_cons]
      rfl

/-- Where there may be nothing at first, some updates leave what the last one wrote that wrote
anything, or else what was there. -/
theorem foldl_view?_eq_last {update : σ → α → σ} {writes? : α → Option β} (view? : σ → Option β)
    (h : ∀ s a, view? (update s a) = (writes? a).or (view? s)) (s : σ) (updates : List α) :
    view? (updates.foldl update s) = ((updates.filterMap writes?).getLast?).or (view? s) := by
  have hview : ∀ s a, view? (update s a) = ((writes? a).map some).getD (view? s) := by
    intro s a
    rw [h]
    cases writes? a <;> rfl
  rw [foldl_view_eq_last view? hview, ← map_filterMap, getLast?_map]
  cases (updates.filterMap writes?).getLast? <;> rfl

/-- The last update that writes anything writes this. -/
theorem getLast?_filterMap_eq_some_iff {writes? : α → Option β} {updates : List α} {b : β} :
    (updates.filterMap writes?).getLast? = some b ↔
      ∃ before a after, updates = before ++ a :: after ∧ writes? a = some b ∧
        ∀ x ∈ after, writes? x = none := by
  constructor
  · intro h
    obtain ⟨front, hfront⟩ := getLast?_eq_some_iff.mp h
    obtain ⟨before, rest, rfl, -, hrest⟩ := filterMap_eq_append_iff.mp hfront
    obtain ⟨skipped, a, after, rfl, -, ha, hafter⟩ := filterMap_eq_cons_iff.mp hrest
    refine ⟨before ++ skipped, a, after, (append_assoc ..).symm, ha, ?_⟩
    exact filterMap_eq_nil_iff.mp hafter
  · rintro ⟨before, a, after, rfl, ha, hafter⟩
    rw [filterMap_append, filterMap_cons_some ha, filterMap_eq_nil_iff.mpr hafter, getLast?_concat]

/-- An update that writes nothing, or behind which another one writes, does not count. -/
theorem getLast?_filterMap_dropped {writes? : α → Option β} (before : List α) {a : α}
    {after : List α} (h : writes? a = none ∨ ∃ x ∈ after, writes? x ≠ none) :
    ((before ++ a :: after).filterMap writes?).getLast? =
      ((before ++ after).filterMap writes?).getLast? := by
  rw [filterMap_append, filterMap_append, getLast?_append, getLast?_append]
  rcases h with hnone | ⟨x, hx, hwrites⟩
  · rw [filterMap_cons_none hnone]
  · have hne : after.filterMap writes? ≠ [] := by
      intro hnil
      exact hwrites (filterMap_eq_nil_iff.mp hnil x hx)
    obtain ⟨b, hb⟩ := Option.ne_none_iff_exists'.mp (mt getLast?_eq_none_iff.mp hne)
    rw [filterMap_cons]
    cases writes? a with
    | none => rfl
    | some c =>
      dsimp only
      rw [getLast?_cons, hb]
      rfl

end List
