import Phrasebook.Catalog.Path

/-!
# Splitting and joining paths

Splitting a path at its dots is inverse to joining keys that hold no dots: joining the pieces gives
every path back, and splitting gives the keys back if there are any and none of them has a dot.
Where keys have dots several sequences of them may have one path. Two of these part at a key that
goes on with a dot where the other one ends, so the sequence that takes the longer key there is the
one that stands behind the other in lexicographic order.
-/

namespace Phrasebook.Path

/-- A key without dots. -/
def DotFree (key : String) : Prop := '.' ∉ key.toList

instance (key : String) : Decidable (DotFree key) := inferInstanceAs (Decidable (_ ∉ _))

/-- A text without dots is its own only piece. -/
theorem splitChars_of_not_mem {s : List Char} (h : '.' ∉ s) : splitChars s = [s] := by
  induction s with
  | nil => rfl
  | cons c rest ih =>
    rw [List.mem_cons, not_or] at h
    rw [splitChars, if_neg (Ne.symm h.1), ih h.2]

/-- A dot parts the pieces of the text before it from those of the text behind it. -/
theorem splitChars_append_dot (s rest : List Char) :
    splitChars (s ++ '.' :: rest) = splitChars s ++ splitChars rest := by
  induction s with
  | nil => simp [splitChars]
  | cons c s ih =>
    obtain ⟨piece, pieces, hs⟩ := List.exists_cons_of_ne_nil (splitChars_ne_nil s)
    rw [List.cons_append, splitChars, splitChars, ih, hs]
    split <;> rfl

/-- Keys without dots come back from their path. There has to be a key, since the path of none and
that of an empty one are the same. -/
theorem splitChars_joinChars {keys : List (List Char)} (hne : keys ≠ [])
    (h : ∀ key ∈ keys, '.' ∉ key) : splitChars (joinChars keys) = keys := by
  induction keys with
  | nil => exact absurd rfl hne
  | cons key rest ih =>
    rw [List.forall_mem_cons] at h
    cases rest with
    | nil => exact splitChars_of_not_mem h.1
    | cons next rest =>
      rw [joinChars, splitChars_append_dot, splitChars_of_not_mem h.1,
        ih (List.cons_ne_nil next rest) h.2, List.singleton_append]
      simp

/-- A dot parts a key from the path of those behind it. -/
theorem joinChars_cons {keys : List (List Char)} (h : keys ≠ []) (key : List Char) :
    joinChars (key :: keys) = key ++ '.' :: joinChars keys := by
  cases keys with
  | nil => exact absurd rfl h
  | cons next rest => rfl

/-- A dot parts the path of some keys from the path of more keys. -/
theorem joinChars_append {keys more : List (List Char)} (hkeys : keys ≠ []) (hmore : more ≠ []) :
    joinChars (keys ++ more) = joinChars keys ++ '.' :: joinChars more := by
  induction keys with
  | nil => exact absurd rfl hkeys
  | cons key rest ih =>
    by_cases hrest : rest = []
    · subst hrest
      exact joinChars_cons hmore key
    · have hboth : rest ++ more ≠ [] := List.append_ne_nil_of_left_ne_nil hrest more
      rw [List.cons_append, joinChars_cons hboth, ih hrest, joinChars_cons hrest,
        List.append_assoc, List.cons_append]

/-- The pieces of a text have no dots. -/
theorem not_mem_of_mem_splitChars {s piece : List Char} (h : piece ∈ splitChars s) :
    '.' ∉ piece := by
  induction s generalizing piece with
  | nil =>
    rw [splitChars, List.mem_singleton] at h
    simp [h]
  | cons c rest ih =>
    rw [splitChars] at h
    split at h
    · rcases List.mem_cons.mp h with rfl | h
      · exact List.not_mem_nil
      · exact ih h
    · rename_i hc
      obtain ⟨first, pieces, hs⟩ := List.exists_cons_of_ne_nil (splitChars_ne_nil rest)
      rw [hs] at h ih
      rcases List.mem_cons.mp h with rfl | h
      · rw [List.mem_cons, not_or]
        exact ⟨Ne.symm hc, ih List.mem_cons_self⟩
      · exact ih (List.mem_cons_of_mem first h)

/-- A path has one piece at least. -/
theorem split_ne_nil (path : String) : split path ≠ [] := by
  simp [split, splitChars_ne_nil]

/-- Joining the pieces of a path gives it back. -/
@[simp] theorem join_split (path : String) : join (split path) = path := by
  simp [join, split, Function.comp_def, joinChars_splitChars]

/-- Splitting a path gives the keys back that were joined, if none of them has a dot. -/
theorem split_join {keys : List String} (hne : keys ≠ []) (h : ∀ key ∈ keys, DotFree key) :
    split (join keys) = keys := by
  have hchars : ∀ s ∈ keys.map String.toList, '.' ∉ s := by
    simpa [DotFree] using h
  rw [split, join, String.toList_ofList, splitChars_joinChars (by simpa using hne) hchars]
  simp [Function.comp_def]

/-- The pieces of a path have no dots. -/
theorem dotFree_of_mem_split {path key : String} (h : key ∈ split path) : DotFree key := by
  rw [split, List.mem_map] at h
  obtain ⟨piece, hpiece, rfl⟩ := h
  rw [DotFree, String.toList_ofList]
  exact not_mem_of_mem_splitChars hpiece

/-- A key by itself is a path. -/
@[simp] theorem join_singleton (key : String) : join [key] = key := by
  simp [join, joinChars]

/-- A key without dots is its own only piece. -/
theorem split_of_dotFree {key : String} (h : DotFree key) : split key = [key] := by
  simpa using split_join (List.cons_ne_nil key []) (by simpa using h)

/-- The characters of a path of two keys at least: those of the first key, a dot and those of the
path behind. -/
theorem toList_join_cons_cons (key next : String) (rest : List String) :
    (join (key :: next :: rest)).toList = key.toList ++ '.' :: (join (next :: rest)).toList := by
  simp [join, joinChars]

/-- The path of some keys is the first key and, behind a dot, the path of the others if there are
any. -/
theorem toList_join_cons (key : String) (keys : List String) :
    (join (key :: keys)).toList =
      key.toList ++ if keys = [] then [] else '.' :: (join keys).toList := by
  cases keys with
  | nil => simp
  | cons next rest => rw [toList_join_cons_cons, if_neg (List.cons_ne_nil next rest)]

/-- A dot parts the pieces of the path before it from those of the path behind it. -/
theorem split_append_dot (parent rest : String) :
    split (parent ++ "." ++ rest) = split parent ++ split rest := by
  have hlist : (parent ++ "." ++ rest).toList = parent.toList ++ '.' :: rest.toList := by
    simp
  rw [split, hlist, splitChars_append_dot, List.map_append, split, split]

/-- The path of some keys and further ones is the path of the former, a dot and the path of the
latter. -/
theorem join_append {keys more : List String} (hkeys : keys ≠ []) (hmore : more ≠ []) :
    join (keys ++ more) = join keys ++ "." ++ join more := by
  rw [← String.toList_inj, join, String.toList_ofList, List.map_append,
    joinChars_append (by simpa using hkeys) (by simpa using hmore)]
  simp [join]

/-! ### Several sequences of keys with one path -/

/-- Where two sequences of keys first differ, the first one takes the longer key. -/
inductive TakesLonger : List String → List String → Prop
  | here {key other : String} {keys others : List String} (h : other.length < key.length) :
      TakesLonger (key :: keys) (other :: others)
  | later (key : String) {keys others : List String} (h : TakesLonger keys others) :
      TakesLonger (key :: keys) (key :: others)

/-- A text stands before what goes on from it with a dot. -/
theorem lt_of_append_dot {key other : String} {more : List Char}
    (h : key.toList = other.toList ++ '.' :: more) : other < key := by
  have hlt : other.toList ++ [] < other.toList ++ '.' :: more :=
    List.append_left_lt (List.nil_lt_cons '.' more)
  rwa [List.append_nil, ← h, ← String.lt_iff] at hlt

/-- Sequences of keys that have one path and begin with the same key go on with one path. -/
theorem join_tail_eq {key : String} {keys others : List String}
    (h : join (key :: keys) = join (key :: others)) :
    (keys = [] ↔ others = []) ∧ join keys = join others := by
  have hlist := congrArg String.toList h
  rw [toList_join_cons, toList_join_cons, List.append_cancel_left_eq] at hlist
  by_cases hkeys : keys = [] <;> by_cases hothers : others = [] <;> simp_all [String.toList_inj]

/-- Of the first keys of two sequences with one path the longer one goes on with a dot where the
other ends. -/
theorem exists_dot_of_join_eq {key other : String} {keys others : List String}
    (h : join (key :: keys) = join (other :: others)) (hlength : other.length < key.length) :
    ∃ more, key.toList = other.toList ++ '.' :: more := by
  have hlist := congrArg String.toList h
  rw [toList_join_cons, toList_join_cons] at hlist
  rcases List.append_eq_append_iff.mp hlist with ⟨more, hother, -⟩ | ⟨more, hkey, htail⟩
  · have hle : key.length ≤ other.length := by
      rw [← String.length_toList, ← String.length_toList, hother, List.length_append]
      omega
    omega
  · cases more with
    | nil =>
      rw [List.append_nil, String.toList_inj] at hkey
      rw [hkey] at hlength
      omega
    | cons c more =>
      split at htail
      · cases htail
      · obtain ⟨rfl, -⟩ := List.cons.inj htail
        exact ⟨more, hkey⟩

/-- Keys that take the longer one where they part from others with the same path stand behind these
in lexicographic order. -/
theorem TakesLonger.lt {keys others : List String} (h : TakesLonger keys others)
    (hjoin : join keys = join others) : others < keys := by
  induction h with
  | here hlength =>
    obtain ⟨more, hmore⟩ := exists_dot_of_join_eq hjoin hlength
    exact List.cons_lt_cons_iff.mpr (.inl (lt_of_append_dot hmore))
  | later key h ih => exact List.cons_lt_cons_iff.mpr (.inr ⟨rfl, ih (join_tail_eq hjoin).2⟩)

/-- The longer key that is taken has a dot. -/
theorem TakesLonger.exists_dot {keys others : List String} (h : TakesLonger keys others)
    (hjoin : join keys = join others) : ∃ key ∈ keys, ¬ DotFree key := by
  induction h with
  | @here key other keys others hlength =>
    obtain ⟨more, hmore⟩ := exists_dot_of_join_eq hjoin hlength
    refine ⟨key, List.mem_cons_self, fun hfree => hfree ?_⟩
    rw [hmore]
    simp
  | later key h ih =>
    obtain ⟨dotted, hmem, hdot⟩ := ih (join_tail_eq hjoin).2
    exact ⟨dotted, List.mem_cons_of_mem key hmem, hdot⟩

/-- Of two sequences of keys with one path one takes the longer key where they part. -/
theorem takesLonger_or_of_join_eq {keys others : List String} (hkeys : keys ≠ [])
    (hothers : others ≠ []) (hjoin : join keys = join others) (hne : keys ≠ others) :
    TakesLonger keys others ∨ TakesLonger others keys := by
  induction keys generalizing others with
  | nil => exact absurd rfl hkeys
  | cons key keys ih =>
    obtain ⟨other, others, rfl⟩ := List.exists_cons_of_ne_nil hothers
    rcases Nat.lt_trichotomy key.length other.length with hlt | heq | hgt
    · exact .inr (.here hlt)
    · -- First keys of one length are the same, so the sequences part further down.
      have hlist := congrArg String.toList hjoin
      rw [toList_join_cons, toList_join_cons] at hlist
      have hkey : key = other := String.toList_inj.mp (List.append_inj_left hlist heq)
      subst hkey
      obtain ⟨hnil, htail⟩ := join_tail_eq hjoin
      have hrest : keys ≠ others := fun h => hne (h ▸ rfl)
      have hkeys : keys ≠ [] := fun h => hrest (h.trans (hnil.mp h).symm)
      exact (ih hkeys (mt hnil.mpr hkeys) htail hrest).imp (.later key) (.later key)
    · exact .inl (.here hgt)

/-- Among the sequences of keys with one path it is the same to stand behind another and to take
the longer key where they part. -/
theorem lt_iff_takesLonger {keys others : List String} (hkeys : keys ≠ []) (hothers : others ≠ [])
    (hjoin : join keys = join others) : others < keys ↔ TakesLonger keys others := by
  refine ⟨fun hlt => ?_, fun h => h.lt hjoin⟩
  have hne : keys ≠ others := by
    rintro rfl
    exact List.lt_irrefl keys hlt
  rcases takesLonger_or_of_join_eq hkeys hothers hjoin hne with h | h
  · exact h
  · exact absurd (h.lt hjoin.symm) (List.lt_asymm hlt)

/-- The path itself as the only key stands behind all other sequences of keys with this path. -/
theorem eq_or_lt_singleton {keys : List String} (hne : keys ≠ []) :
    keys = [join keys] ∨ keys < [join keys] := by
  obtain ⟨key, rest, rfl⟩ := List.exists_cons_of_ne_nil hne
  cases rest with
  | nil => exact .inl (by rw [join_singleton])
  | cons next rest =>
    have hlt := lt_of_append_dot (toList_join_cons_cons key next rest)
    exact .inr (List.cons_lt_cons_iff.mpr (.inl hlt))

/-- The pieces of a path stand before all other sequences of keys with this path. -/
theorem split_lt {keys : List String} (hkeys : keys ≠ []) (hne : keys ≠ split (join keys)) :
    split (join keys) < keys := by
  have hjoin : join keys = join (split (join keys)) := (join_split (join keys)).symm
  rcases takesLonger_or_of_join_eq hkeys (split_ne_nil (join keys)) hjoin hne with h | h
  · exact h.lt hjoin
  · obtain ⟨key, hkey, hdot⟩ := h.exists_dot hjoin.symm
    exact absurd (dotFree_of_mem_split hkey) hdot

/-! ### Paths below others -/

/-- A path goes on from a parent with a dot and something more. -/
def Below (path parent : String) : Prop := ∃ rest, rest ≠ "" ∧ path = parent ++ "." ++ rest

/-- One of two paths is below the other. -/
def Overlap (path other : String) : Prop := Below path other ∨ Below other path

end Phrasebook.Path
