/-!
# Maps and sets of strings in key order

A map is a list of pairs whose keys increase strictly, and a set a list of strings that does.
Strings compare by code point. Each operation has the lemma that says what a look-up finds after
it; only `Ordered.insert` and its like need the order itself.
-/

namespace Phrasebook

/-- Pairs of a key and a value, meant to be in increasing order of key. -/
abbrev KeyMap (α : Type) := List (String × α)

namespace KeyMap

variable {α : Type}

/-- Each key is smaller than those after it, so no key occurs twice. -/
def Ordered (m : KeyMap α) : Prop := m.Pairwise (fun a b => a.1 < b.1)

instance (m : KeyMap α) : Decidable (Ordered m) := inferInstanceAs (Decidable (List.Pairwise _ m))

/-- The value of a key. -/
def find? (key : String) : KeyMap α → Option α
  | [] => none
  | (k, v) :: rest => if k = key then some v else find? key rest

/-- Puts a value under a key, in place of the value that was there. -/
def insert (key : String) (value : α) : KeyMap α → KeyMap α
  | [] => [(key, value)]
  | (k, v) :: rest =>
    if key < k then (key, value) :: (k, v) :: rest
    else if key = k then (key, value) :: rest
    else (k, v) :: insert key value rest

/-- Takes a key away. -/
def erase (key : String) (m : KeyMap α) : KeyMap α := m.filter (fun p => p.1 ≠ key)

/-- The map of some pairs, in which a later pair wins over an earlier one of the same key. -/
def ofList (pairs : List (String × α)) : KeyMap α :=
  pairs.foldl (fun m p => insert p.1 p.2 m) []

/-- The keys, in order. -/
def keys (m : KeyMap α) : List String := m.map Prod.fst

/-- Nothing is found in the empty map. -/
@[simp] theorem find?_nil (key : String) : find? key ([] : KeyMap α) = none := rfl

/-- What was put under a key is found there. -/
@[simp] theorem find?_insert_self (key : String) (value : α) (m : KeyMap α) :
    find? key (insert key value m) = some value := by
  induction m with
  | nil => simp [insert, find?]
  | cons p rest ih =>
    rw [insert]
    split
    · simp [find?]
    · split
      · simp [find?]
      · rename_i _ h
        simp [find?, Ne.symm h, ih]

/-- Insertion under one key changes no look-up of another one. -/
theorem find?_insert_of_ne {key other : String} (value : α) (m : KeyMap α) (h : other ≠ key) :
    find? other (insert key value m) = find? other m := by
  induction m with
  | nil => simp [insert, find?, Ne.symm h]
  | cons p rest ih =>
    rw [insert]
    split
    · simp [find?, Ne.symm h]
    · split
      · rename_i _ hk
        subst hk
        simp [find?, Ne.symm h]
      · simp [find?, ih]

/-- A key that was taken away is not found. -/
theorem find?_erase_self (key : String) (m : KeyMap α) : find? key (erase key m) = none := by
  induction m with
  | nil => rfl
  | cons p rest ih =>
    by_cases h : p.1 = key <;> simp_all [erase, find?]

/-- Taking one key away changes no look-up of another one. -/
theorem find?_erase_of_ne {key other : String} (m : KeyMap α) (h : other ≠ key) :
    find? other (erase key m) = find? other m := by
  induction m with
  | nil => rfl
  | cons p rest ih =>
    by_cases hk : p.1 = key
    · simp_all [erase, find?, Ne.symm h]
    · by_cases ho : p.1 = other <;> simp_all [erase, find?]

/-- Of two values put under one key in turn the second one stays. -/
theorem insert_insert (key : String) (value former : α) (m : KeyMap α) :
    insert key value (insert key former m) = insert key value m := by
  induction m with
  | nil => simp [insert]
  | cons p rest ih =>
    rw [insert, insert]
    split
    · simp [insert]
    · split
      · simp [insert]
      · rename_i hlt hne
        simp [insert, hlt, hne, ih]

/-- Insertion brings no pair into a map but its own. -/
theorem mem_insert {key : String} {value : α} {p : String × α} {m : KeyMap α}
    (h : p ∈ insert key value m) : p = (key, value) ∨ p ∈ m := by
  induction m with
  | nil => simpa [insert] using h
  | cons q rest ih =>
    rw [insert] at h
    split at h
    · simpa using h
    · split at h <;> simp only [List.mem_cons] at h ⊢
      · exact h.imp_right .inr
      · rcases h with h | h
        · exact .inr (.inl h)
        · exact (ih h).imp_right .inr

/-- The empty map is in order. -/
theorem Ordered.nil : Ordered ([] : KeyMap α) := List.Pairwise.nil

/-- Insertion keeps the order of keys. -/
theorem Ordered.insert {m : KeyMap α} (key : String) (value : α) (h : Ordered m) :
    Ordered (insert key value m) := by
  induction m with
  | nil => simp [Ordered, KeyMap.insert]
  | cons q rest ih =>
    obtain ⟨hq, hrest⟩ := List.pairwise_cons.mp h
    rw [KeyMap.insert]
    split
    · rename_i hlt
      refine List.pairwise_cons.mpr ⟨fun p hp => ?_, h⟩
      rcases List.mem_cons.mp hp with rfl | hp
      · exact hlt
      · exact String.lt_trans hlt (hq p hp)
    · rename_i hge
      split
      · rename_i heq
        exact List.pairwise_cons.mpr ⟨fun p hp => heq ▸ hq p hp, hrest⟩
      · rename_i hne
        refine List.pairwise_cons.mpr ⟨fun p hp => ?_, ih hrest⟩
        rcases mem_insert hp with rfl | hp
        · exact Std.lt_of_le_of_ne (String.not_lt.mp hge) (Ne.symm hne)
        · exact hq p hp

/-- In two maps, one behind the other, a look-up finds what the first one has, or else what the
second one has. -/
theorem find?_append (key : String) (m rest : KeyMap α) :
    find? key (m ++ rest) = (find? key m).or (find? key rest) := by
  induction m with
  | nil => rfl
  | cons p m ih =>
    rw [List.cons_append, find?, find?]
    split
    · rfl
    · exact ih

/-- A value that is found stands in the map under its key. Only the way back needs the order. -/
theorem mem_of_find? {key : String} {value : α} {m : KeyMap α} (h : find? key m = some value) :
    (key, value) ∈ m := by
  induction m with
  | nil => cases h
  | cons p rest ih =>
    rw [find?] at h
    split at h
    · rename_i hk
      cases h
      exact hk ▸ List.mem_cons_self
    · exact List.mem_cons_of_mem p (ih h)

/-- In key order a look-up finds every pair. -/
theorem Ordered.find?_eq_some_iff {key : String} {value : α} {m : KeyMap α} (h : Ordered m) :
    find? key m = some value ↔ (key, value) ∈ m := by
  refine ⟨mem_of_find?, fun hmem => ?_⟩
  induction m with
  | nil => cases hmem
  | cons p rest ih =>
    obtain ⟨hp, hrest⟩ := List.pairwise_cons.mp h
    rw [find?]
    rcases List.mem_cons.mp hmem with rfl | hmem
    · exact if_pos rfl
    · rw [if_neg (String.ne_of_lt (hp _ hmem)), ih hrest hmem]

/-- A look-up finds nothing exactly if its key is none of the map's. -/
theorem find?_eq_none_iff {key : String} {m : KeyMap α} :
    find? key m = none ↔ key ∉ keys m := by
  induction m with
  | nil => simp [keys]
  | cons p rest ih =>
    rw [find?, keys, List.map_cons, List.mem_cons, not_or]
    by_cases h : p.1 = key
    · simp [h]
    · simp only [if_neg h, ih, keys, Ne.symm h, not_false_eq_true, true_and]

/-- The keys of a map are those under which a look-up finds a value. -/
theorem mem_keys_iff {key : String} {m : KeyMap α} :
    key ∈ keys m ↔ ∃ value, find? key m = some value := by
  rw [← Option.ne_none_iff_exists', ne_eq, find?_eq_none_iff, Classical.not_not]

/-- In the map of some pairs a look-up finds the last pair of the key. -/
theorem find?_ofList (key : String) (pairs : List (String × α)) :
    find? key (ofList pairs) = find? key pairs.reverse := by
  suffices ∀ m : KeyMap α, find? key (pairs.foldl (fun m p => insert p.1 p.2 m) m) =
      (find? key pairs.reverse).or (find? key m) from (this []).trans (Option.or_none ..)
  induction pairs with
  | nil => exact fun m => rfl
  | cons p rest ih =>
    intro m
    rw [List.foldl_cons, ih, List.reverse_cons, find?_append, Option.or_assoc]
    by_cases h : p.1 = key
    · subst h
      simp [find?]
    · rw [find?_insert_of_ne _ _ (Ne.symm h)]
      simp [find?, h]

/-- The map of some pairs has the keys of the pairs and no others. -/
theorem mem_keys_ofList {key : String} {pairs : List (String × α)} :
    key ∈ keys (ofList pairs) ↔ key ∈ keys pairs := by
  have hnone : key ∉ keys (ofList pairs) ↔ key ∉ keys pairs := by
    rw [← find?_eq_none_iff, find?_ofList, find?_eq_none_iff, keys, List.map_reverse,
      List.mem_reverse, keys]
  exact Decidable.not_iff_not.mp hnone

/-- A pair is kept if no later one has its key. -/
theorem find?_ofList_of_last {key : String} {value : α} {before after : List (String × α)}
    (h : key ∉ keys after) : find? key (ofList (before ++ (key, value) :: after)) = some value := by
  have hnone : find? key after.reverse = none := by
    rw [← find?_ofList, find?_eq_none_iff, mem_keys_ofList]
    exact h
  rw [find?_ofList, List.reverse_append, List.reverse_cons, find?_append, find?_append, hnone]
  simp [find?]

/-- A key that occurs has a last pair. -/
theorem exists_last_of_mem_keys {key : String} {pairs : List (String × α)} (h : key ∈ keys pairs) :
    ∃ before value after, pairs = before ++ (key, value) :: after ∧ key ∉ keys after := by
  induction pairs with
  | nil => cases h
  | cons p rest ih =>
    by_cases hrest : key ∈ keys rest
    · obtain ⟨before, value, after, rfl, hafter⟩ := ih hrest
      exact ⟨p :: before, value, after, rfl, hafter⟩
    · rw [keys, List.map_cons, List.mem_cons] at h
      obtain rfl := h.resolve_right hrest
      exact ⟨[], p.2, rest, rfl, hrest⟩

/-- The map of some pairs has the value of the last pair of a key. -/
theorem find?_ofList_eq_some_iff {key : String} {value : α} {pairs : List (String × α)} :
    find? key (ofList pairs) = some value ↔
      ∃ before after, pairs = before ++ (key, value) :: after ∧ key ∉ keys after := by
  constructor
  · intro h
    obtain ⟨before, last, after, rfl, hafter⟩ := exists_last_of_mem_keys
      (mem_keys_ofList.mp (mem_keys_iff.mpr ⟨value, h⟩))
    rw [find?_ofList_of_last hafter, Option.some.injEq] at h
    exact ⟨before, after, h ▸ rfl, hafter⟩
  · rintro ⟨before, after, rfl, hafter⟩
    exact find?_ofList_of_last hafter

/-- Of the elements of a list that give pairs of one key the last one gives the value in the map. -/
theorem find?_ofList_map_eq_some_iff {β : Type} {f : β → String × α} {xs : List β} {key : String}
    {value : α} :
    find? key (ofList (xs.map f)) = some value ↔
      ∃ before x after, xs = before ++ x :: after ∧ f x = (key, value) ∧
        ∀ y ∈ after, (f y).1 ≠ key := by
  have hkeys (after : List β) : key ∉ keys (after.map f) ↔ ∀ y ∈ after, (f y).1 ≠ key := by
    simp [keys]
  rw [find?_ofList_eq_some_iff]
  constructor
  · rintro ⟨before, after, hsplit, hlast⟩
    obtain ⟨front, rest, rfl, rfl, hrest⟩ := List.map_eq_append_iff.mp hsplit
    obtain ⟨x, back, rfl, hx, rfl⟩ := List.map_eq_cons_iff.mp hrest
    exact ⟨front, x, back, rfl, hx, (hkeys back).mp hlast⟩
  · rintro ⟨before, x, after, rfl, hx, hlast⟩
    refine ⟨before.map f, after.map f, ?_, (hkeys after).mpr hlast⟩
    rw [List.map_append, List.map_cons, hx]

/-- Maps in key order with the same pairs are the same. -/
theorem Ordered.ext {a b : KeyMap α} (ha : Ordered a) (hb : Ordered b)
    (h : ∀ p, p ∈ a ↔ p ∈ b) : a = b := by
  induction a generalizing b with
  | nil =>
    cases b with
    | nil => rfl
    | cons q b => exact absurd ((h q).mpr List.mem_cons_self) List.not_mem_nil
  | cons p a ih =>
    cases b with
    | nil => exact absurd ((h p).mp List.mem_cons_self) List.not_mem_nil
    | cons q b =>
      obtain ⟨hp, hatail⟩ := List.pairwise_cons.mp ha
      obtain ⟨hq, hbtail⟩ := List.pairwise_cons.mp hb
      have hpq : p = q := by
        rcases List.mem_cons.mp ((h p).mp List.mem_cons_self) with heq | hmem
        · exact heq
        rcases List.mem_cons.mp ((h q).mpr List.mem_cons_self) with heq | hmem'
        · exact heq.symm
        · exact absurd (String.lt_trans (hp q hmem') (hq p hmem)) (String.lt_irrefl _)
      subst hpq
      have hne {r : String × α} (hr : p.1 < r.1) : r ≠ p := by
        rintro rfl
        exact String.lt_irrefl _ hr
      refine congrArg (p :: ·) (ih hatail hbtail fun r => ⟨fun hr => ?_, fun hr => ?_⟩)
      · exact ((List.mem_cons.mp ((h r).mp (List.mem_cons_of_mem p hr))).resolve_left
          (hne (hp r hr)))
      · exact ((List.mem_cons.mp ((h r).mpr (List.mem_cons_of_mem p hr))).resolve_left
          (hne (hq r hr)))

/-- A map made from pairs is in key order. -/
theorem ordered_ofList (pairs : List (String × α)) : Ordered (ofList pairs) := by
  suffices ∀ m : KeyMap α, Ordered m →
      Ordered (pairs.foldl (fun m p => KeyMap.insert p.1 p.2 m) m) from this [] .nil
  induction pairs with
  | nil => exact fun _ h => h
  | cons p rest ih => exact fun m h => ih _ (h.insert p.1 p.2)

/-- The map of pairs in key order is these pairs. -/
theorem Ordered.ofList_eq {m : KeyMap α} (h : Ordered m) : ofList m = m := by
  have hmem {p : String × α} (hp : p ∈ ofList m) : p ∈ m := by
    have hfind := (ordered_ofList m).find?_eq_some_iff.mpr hp
    rw [find?_ofList] at hfind
    exact List.mem_reverse.mp (mem_of_find? hfind)
  refine (ordered_ofList m).ext h fun p => ⟨hmem, fun hp => ?_⟩
  obtain ⟨value, hvalue⟩ := mem_keys_iff.mp (mem_keys_ofList.mpr (List.mem_map_of_mem hp))
  have hsame := h.find?_eq_some_iff.mpr (hmem (mem_of_find? hvalue))
  rw [h.find?_eq_some_iff.mpr hp, Option.some.injEq] at hsame
  subst hsame
  exact mem_of_find? hvalue

end KeyMap

namespace KeySet

/-- Each string is smaller than those after it. -/
def Ordered (s : List String) : Prop := s.Pairwise (· < ·)

/-- Adds a string that may be there already. -/
def insert (key : String) : List String → List String
  | [] => [key]
  | k :: rest =>
    if key < k then key :: k :: rest
    else if key = k then k :: rest
    else k :: insert key rest

/-- The set of the strings of a list. -/
def ofList (keys : List String) : List String := keys.foldl (fun s k => insert k s) []

/-- A set has the string that was added, and those that it had before. -/
@[simp] theorem mem_insert {key x : String} {s : List String} :
    x ∈ insert key s ↔ x = key ∨ x ∈ s := by
  induction s with
  | nil => simp [insert]
  | cons k rest ih =>
    rw [insert]
    split
    · simp
    · split
      · rename_i _ h
        subst h
        simp
      · simp only [List.mem_cons, ih]
        grind

/-- The set of the strings of a list has these strings and no others. -/
@[simp] theorem mem_ofList {x : String} {keys : List String} : x ∈ ofList keys ↔ x ∈ keys := by
  suffices ∀ s, x ∈ keys.foldl (fun s k => insert k s) s ↔ x ∈ keys ∨ x ∈ s by
    simpa [ofList] using this []
  induction keys with
  | nil => simp
  | cons k rest ih =>
    intro s
    simp only [List.foldl_cons, ih, mem_insert, List.mem_cons]
    grind

/-- Adding a string twice is adding it once. -/
theorem insert_insert (key : String) (s : List String) :
    insert key (insert key s) = insert key s := by
  induction s with
  | nil => simp [insert]
  | cons k rest ih =>
    rw [insert]
    split
    · simp [insert]
    · split
      · rename_i heq
        simp [insert, heq]
      · rename_i hlt hne
        simp [insert, hlt, hne, ih]

/-- Insertion keeps a set in order. -/
theorem Ordered.insert {s : List String} (key : String) (h : Ordered s) :
    Ordered (insert key s) := by
  induction s with
  | nil => simp [Ordered, KeySet.insert]
  | cons k rest ih =>
    obtain ⟨hk, hrest⟩ := List.pairwise_cons.mp h
    rw [KeySet.insert]
    split
    · rename_i hlt
      refine List.pairwise_cons.mpr ⟨fun x hx => ?_, h⟩
      rcases List.mem_cons.mp hx with rfl | hx
      · exact hlt
      · exact String.lt_trans hlt (hk x hx)
    · rename_i hge
      split
      · exact h
      · rename_i hne
        refine List.pairwise_cons.mpr ⟨fun x hx => ?_, ih hrest⟩
        rcases mem_insert.mp hx with rfl | hx
        · exact Std.lt_of_le_of_ne (String.not_lt.mp hge) (Ne.symm hne)
        · exact hk x hx

/-- A set made from strings is in order. -/
theorem ordered_ofList (keys : List String) : Ordered (ofList keys) := by
  suffices ∀ s, Ordered s → Ordered (keys.foldl (fun s k => KeySet.insert k s) s) from
    this [] .nil
  induction keys with
  | nil => exact fun _ h => h
  | cons k rest ih => exact fun s h => ih _ (h.insert k)

/-- Sets in order with the same members are the same. -/
theorem Ordered.ext {a b : List String} (ha : Ordered a) (hb : Ordered b)
    (h : ∀ x, x ∈ a ↔ x ∈ b) : a = b := by
  have hmap {s : List String} (hs : Ordered s) : KeyMap.Ordered (s.map fun k => (k, ())) :=
    List.pairwise_map.mpr hs
  have hpairs := (hmap ha).ext (hmap hb) fun p => by simp [h]
  have hkeys := congrArg KeyMap.keys hpairs
  simpa [KeyMap.keys, Function.comp_def] using hkeys

end KeySet

end Phrasebook
