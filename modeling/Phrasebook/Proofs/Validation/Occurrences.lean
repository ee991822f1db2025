import Mathlib.Data.List.DropRight
import Phrasebook.Proofs.Text.Runs
import Phrasebook.Validation.Link
import Phrasebook.Validation.Placeholder

/-!
# Where placeholders and links stand

A search resumes behind each match, so in general a match may hide another one that overlaps it. Of
placeholders and links none is hidden: every match begins with a sign, a brace or an at sign, that
occurs nowhere else in it, and so nothing begins inside a match. What is found is therefore what
stands anywhere in the text, whatever is before and behind it.
-/

namespace Phrasebook

namespace Pattern

variable {p : Pattern} {found : List Char}

/-- Where the pattern matches, the search goes on behind the match. -/
theorem findAll_of_some {s after : List Char} (h : p.match? s = some (found, after)) :
    p.findAll s = found :: p.findAll after := by
  cases s with
  | nil => exact absurd (p.shorter h) (Nat.not_lt_zero _)
  | cons c s =>
    rw [findAll]
    split
    · rename_i found' after' h'
      obtain ⟨rfl, rfl⟩ := Prod.mk.inj (Option.some.inj (h.symm.trans h'))
      rfl
    · rename_i h'
      cases h.symm.trans h'

/-- Where the pattern does not match, the search goes on behind one character. -/
theorem findAll_of_none {c : Char} {s : List Char} (h : p.match? (c :: s) = none) :
    p.findAll (c :: s) = p.findAll s := by
  rw [findAll]
  split
  · rename_i h'
    cases h.symm.trans h'
  · rfl

/-- Every match begins with a sign, which occurs nowhere else in it. -/
def OpensWith (p : Pattern) (sign : Char) : Prop :=
  ∀ {s found after : List Char}, p.match? s = some (found, after) →
    ∃ inner, s = sign :: (inner ++ after) ∧ sign ∉ inner

/-- A match behind the first character of another match does not begin in it. -/
theorem OpensWith.not_inside {sign : Char} (h : p.OpensWith sign)
    {inner after before rest : List Char} (hsign : sign ∉ inner)
    (hsplit : inner ++ after = before ++ rest) {next : List Char}
    (hmatch : p.match? rest = some (found, next)) : ∃ front, after = front ++ rest := by
  rcases List.append_eq_append_iff.mp hsplit with ⟨front, -, hafter⟩ | ⟨back, hinner, hrest⟩
  · exact ⟨front, hafter⟩
  · cases back with
    | nil => exact ⟨[], hrest.symm⟩
    | cons c back =>
      obtain ⟨_, hsigned, -⟩ := h hmatch
      obtain rfl : c = sign := (List.cons.inj (hrest.symm.trans hsigned)).1
      exact absurd (by simp [hinner]) hsign

/-- If every match begins with a sign that occurs nowhere else in it, a search finds what matches
anywhere in the text. -/
theorem OpensWith.mem_findAll_iff {sign : Char} (h : p.OpensWith sign) {s : List Char} :
    found ∈ p.findAll s ↔
      ∃ before rest after, s = before ++ rest ∧ p.match? rest = some (found, after) := by
  -- The induction goes with the search: it resumes behind a match, or one character further on.
  induction s using findAll.induct p with
  | case1 =>
    rw [findAll]
    constructor
    · intro hmem
      cases hmem
    · rintro ⟨before, rest, after, hsplit, hmatch⟩
      obtain ⟨-, rfl⟩ := List.nil_eq_append_iff.mp hsplit
      obtain ⟨_, hsigned, -⟩ := h hmatch
      cases hsigned
  | case2 c s first behind hfirst hshorter ih =>
    obtain ⟨inner, hsigned, hsign⟩ := h hfirst
    obtain ⟨rfl, rfl⟩ := List.cons.inj hsigned
    rw [findAll_of_some hfirst]
    simp only [List.mem_cons, ih]
    constructor
    · rintro (rfl | ⟨before, rest, after, rfl, hmatch⟩)
      · exact ⟨[], _, behind, rfl, hfirst⟩
      · exact ⟨c :: (inner ++ before), rest, after, by simp, hmatch⟩
    · rintro ⟨before, rest, after, hsplit, hmatch⟩
      rcases List.cons_eq_append_iff.mp hsplit with ⟨rfl, rfl⟩ | ⟨before, rfl, htail⟩
      · rw [hfirst, Option.some.injEq, Prod.mk.injEq] at hmatch
        exact .inl hmatch.1.symm
      · obtain ⟨front, hbehind⟩ := h.not_inside hsign htail hmatch
        exact .inr ⟨front, rest, after, hbehind, hmatch⟩
  | case3 c s hnone ih =>
    rw [findAll_of_none hnone]
    simp only [ih]
    constructor
    · rintro ⟨before, rest, after, rfl, hmatch⟩
      exact ⟨c :: before, rest, after, rfl, hmatch⟩
    · rintro ⟨before, rest, after, hsplit, hmatch⟩
      rcases List.cons_eq_append_iff.mp hsplit with ⟨rfl, rfl⟩ | ⟨before, rfl, htail⟩
      · rw [hnone] at hmatch
        cases hmatch
      · exact ⟨before, rest, after, htail, hmatch⟩

end Pattern

/-! ### Placeholders -/

namespace Placeholder

/-- Past the space ASCII has no white space. -/
theorem isBlank_eq_false {c : Char} (hlow : 0x20 < c.toNat) (hhigh : c.toNat < 0x80) :
    Text.isBlank c = false := by
  simp only [Text.isBlank, Text.blankRanges, List.any_cons, List.any_nil, Bool.or_eq_false_iff,
    Bool.and_eq_false_iff, decide_eq_false_iff_not, and_true]
  omega

/-- No character of a name is white space. -/
theorem isBlank_of_isNameChar {c : Char} (h : isNameChar c = true) : Text.isBlank c = false := by
  have hrange : 0x20 < c.toNat ∧ c.toNat < 0x80 := by
    change (decide (c.val ≥ 'A'.val ∧ c.val ≤ 'Z'.val) || (c.val ≥ 'a'.val && c.val ≤ 'z'.val) ||
      (c.val ≥ '0'.val && c.val ≤ '9'.val) || c = '_') = true at h
    simp only [Bool.or_eq_true, Bool.and_eq_true, decide_eq_true_eq, ge_iff_le,
      UInt32.le_iff_toNat_le] at h
    rcases h with ((⟨hlow, hhigh⟩ | ⟨hlow, hhigh⟩) | ⟨hlow, hhigh⟩) | rfl
    · exact ⟨Nat.lt_of_lt_of_le (by decide) hlow, Nat.lt_of_le_of_lt hhigh (by decide)⟩
    · exact ⟨Nat.lt_of_lt_of_le (by decide) hlow, Nat.lt_of_le_of_lt hhigh (by decide)⟩
    · exact ⟨Nat.lt_of_lt_of_le (by decide) hlow, Nat.lt_of_le_of_lt hhigh (by decide)⟩
    · decide
  exact isBlank_eq_false hrange.1 hrange.2

/-- A name ends the white space before it. -/
theorem endsRun_name_append {name : List Char} (hne : name ≠ [])
    (hname : ∀ c ∈ name, isNameChar c = true) (rest : List Char) :
    Text.EndsRun Text.isBlank (name ++ rest) := by
  cases name with
  | nil => exact absurd rfl hne
  | cons c name =>
    exact .cons (isBlank_of_isNameChar (hname c List.mem_cons_self)) _

/-- White space or a closing brace ends a name. -/
theorem endsRun_blank_append {right : List Char} (hright : ∀ c ∈ right, Text.isBlank c = true)
    (after : List Char) : Text.EndsRun isNameChar (right ++ '\x7d' :: after) := by
  cases right with
  | nil => exact .cons (by decide) _
  | cons c right =>
    refine .cons (Bool.eq_false_iff.mpr fun hname => ?_) _
    have hblank := hright c List.mem_cons_self
    rw [isBlank_of_isNameChar hname] at hblank
    cases hblank

/-- A placeholder at the front of a text: an opening brace, a name with white space around it, and a
closing brace. -/
theorem match?_eq_some_iff {s name after : List Char} :
    match? s = some (name, after) ↔
      ∃ left right, s = '\x7b' :: (left ++ (name ++ (right ++ '\x7d' :: after))) ∧
        (∀ c ∈ left, Text.isBlank c = true) ∧ (∀ c ∈ right, Text.isBlank c = true) ∧
        name ≠ [] ∧ ∀ c ∈ name, isNameChar c = true := by
  constructor
  · intro h
    cases s with
    | nil => cases h
    | cons c s =>
      obtain ⟨left, behindLeft, rfl, hleft, hbehindLeft⟩ := Text.exists_run Text.isBlank s
      obtain ⟨run, behindRun, rfl, hrun, hbehindRun⟩ := Text.exists_run isNameChar behindLeft
      obtain ⟨right, behindRight, rfl, hright, hbehindRight⟩ :=
        Text.exists_run Text.isBlank behindRun
      by_cases hc : c = '\x7b'
      · subst hc
        simp only [match?, ne_eq, not_true_eq_false, if_false, Text.dropWhile_run hleft hbehindLeft,
          Text.takeWhile_run hrun hbehindRun, Text.dropWhile_run hrun hbehindRun,
          Text.dropWhile_run hright hbehindRight] at h
        split at h
        · split at h
          · rename_i close rest hclosed
            obtain ⟨rfl, rfl⟩ := Prod.mk.inj (Option.some.inj h)
            obtain ⟨rfl, hne⟩ := hclosed
            exact ⟨left, right, rfl, hleft, hright, hne, hrun⟩
          · cases h
        · cases h
      · rw [match?, if_pos hc] at h
        cases h
  · rintro ⟨left, right, rfl, hleft, hright, hne, hname⟩
    have hblank : Text.EndsRun Text.isBlank ('\x7d' :: after) := .cons (by decide) after
    simp only [match?, ne_eq, not_true_eq_false, if_false,
      Text.dropWhile_run hleft (endsRun_name_append hne hname _),
      Text.takeWhile_run hname (endsRun_blank_append hright after),
      Text.dropWhile_run hname (endsRun_blank_append hright after),
      Text.dropWhile_run hright hblank]
    simp [hne]

/-- An opening brace stands only at the front of a placeholder. -/
theorem opensWith_pattern : pattern.OpensWith '\x7b' := by
  intro s name after h
  obtain ⟨left, right, rfl, hleft, hright, -, hname⟩ := match?_eq_some_iff.mp h
  refine ⟨left ++ (name ++ (right ++ ['\x7d'])), by simp, fun hmem => ?_⟩
  have hblank : Text.isBlank '\x7b' = false := by decide
  simp only [List.mem_append, List.mem_singleton] at hmem
  rcases hmem with hmem | hmem | hmem | hmem
  · exact absurd (hleft _ hmem) (by simp [hblank])
  · exact absurd (hname _ hmem) (by decide)
  · exact absurd (hright _ hmem) (by simp [hblank])
  · exact absurd hmem (by decide)

/-- The names of a text are those that stand in it between braces, with nothing but white space on
either side of the name. Neither other braces nor an earlier placeholder hide one. -/
theorem mem_names_iff {text name : String} :
    name ∈ names text ↔
      name ≠ "" ∧ (∀ c ∈ name.toList, isNameChar c = true) ∧
      ∃ before left right after : String,
        text = before ++ "\x7b" ++ left ++ name ++ right ++ "\x7d" ++ after ∧
        (∀ c ∈ left.toList, Text.isBlank c = true) ∧ ∀ c ∈ right.toList, Text.isBlank c = true := by
  simp only [names, KeySet.mem_ofList, List.mem_map, opensWith_pattern.mem_findAll_iff]
  constructor
  · rintro ⟨found, ⟨before, rest, after, hsplit, hmatch⟩, rfl⟩
    obtain ⟨left, right, rfl, hleft, hright, hne, hname⟩ := match?_eq_some_iff.mp hmatch
    refine ⟨by simpa [← String.toList_inj] using hne, by simpa using hname, .ofList before,
      .ofList left, .ofList right, .ofList after, ?_, by simpa using hleft, by simpa using hright⟩
    simp [← String.toList_inj, hsplit]
  · rintro ⟨hne, hname, before, left, right, after, rfl, hleft, hright⟩
    refine ⟨name.toList, ⟨before.toList, _, after.toList, ?_, match?_eq_some_iff.mpr
      ⟨left.toList, right.toList, rfl, hleft, hright, ?_, hname⟩⟩, String.ofList_toList⟩
    · simp
    · simpa using hne

/-- The inner braces hold a name, whatever the outer ones are for. -/
example : names "\x7b\x7b count \x7d of \x7b\x7b\x7d \x7b 2\x7d" = ["2", "count"] := by cbv

end Placeholder

/-! ### Links -/

namespace Link

/-- What may stand between the sign of a link and its colon: nothing, or a dot and small letters. -/
inductive IsModifier : List Char → Prop
  | absent : IsModifier []
  | word {letters : List Char} (hne : letters ≠ [])
      (hletters : ∀ c ∈ letters, c.isLower = true) : IsModifier ('.' :: letters)

/-- What may stand between the colon of a link and its key. -/
inductive IsOpening : List Char → Prop
  | absent : IsOpening []
  | parenthesis : IsOpening ['(']

/-- A modifier in front of a colon is skipped. -/
theorem skipModifier_append {modifier : List Char} (h : IsModifier modifier) (rest : List Char) :
    skipModifier (modifier ++ ':' :: rest) = ':' :: rest := by
  cases h with
  | absent => rfl
  | word hne hletters =>
    have hcolon : Text.EndsRun Char.isLower (':' :: rest) := .cons (by decide) rest
    rw [List.cons_append, skipModifier, Text.takeWhile_run hletters hcolon,
      Text.dropWhile_run hletters hcolon, if_pos ⟨rfl, hne⟩]

/-- Nothing is skipped as a modifier that is none. -/
theorem exists_modifier (s : List Char) :
    ∃ modifier, IsModifier modifier ∧ s = modifier ++ skipModifier s := by
  cases s with
  | nil => exact ⟨[], .absent, rfl⟩
  | cons c s =>
    rw [skipModifier]
    split
    · rename_i h
      obtain ⟨rfl, hne⟩ := h
      refine ⟨'.' :: s.takeWhile Char.isLower,
        .word hne (List.all_eq_true.mp List.all_takeWhile), ?_⟩
      rw [List.cons_append, List.takeWhile_append_dropWhile]
    · exact ⟨[], .absent, rfl⟩

/-- What may stand in front of a key is skipped, if no other parenthesis comes behind it. -/
theorem skipOpening_append {opening : List Char} (h : IsOpening opening) {rest : List Char}
    (hrest : ∀ c ∈ rest.head?, c ≠ '(') : skipOpening (opening ++ rest) = rest := by
  cases h with
  | absent =>
    cases rest with
    | nil => rfl
    | cons c rest => exact if_neg (hrest c rfl)
  | parenthesis => rfl

/-- Nothing is skipped in front of a key that may not stand there. -/
theorem exists_opening (s : List Char) :
    ∃ opening, IsOpening opening ∧ s = opening ++ skipOpening s := by
  cases s with
  | nil => exact ⟨[], .absent, rfl⟩
  | cons c s =>
    rw [skipOpening]
    split
    · rename_i h
      subst h
      exact ⟨['('], .parenthesis, rfl⟩
    · exact ⟨[], .absent, rfl⟩

/-- The dots behind a key that ends in none are trimmed, and nothing else. -/
theorem trimDots_append {key dots : List Char} (hdots : ∀ c ∈ dots, c = '.')
    (hkey : key.getLast? ≠ some '.') : trimDots (key ++ dots) = key := by
  have hends : Text.EndsRun (fun c : Char => decide (c = '.')) key.reverse := by
    intro c hc
    rw [List.head?_reverse] at hc
    refine decide_eq_false fun heq => hkey ?_
    rw [← heq]
    exact hc
  rw [trimDots, List.reverse_append,
    Text.dropWhile_run (fun c hc => by simpa using hdots c (List.mem_reverse.mp hc)) hends,
    List.reverse_reverse]

/-- Only dots are trimmed, and no dot is left at the end. -/
theorem exists_dots (run : List Char) :
    ∃ dots, run = trimDots run ++ dots ∧ (∀ c ∈ dots, c = '.') ∧
      (trimDots run).getLast? ≠ some '.' := by
  have htrim : trimDots run = run.rdropWhile fun c => decide (c = '.') := rfl
  refine ⟨run.rtakeWhile fun c => decide (c = '.'), ?_, fun c hc => ?_, fun hlast => ?_⟩
  · rw [htrim, List.rdropWhile_append_rtakeWhile]
  · simpa using List.mem_rtakeWhile_imp hc
  · rw [htrim] at hlast
    obtain ⟨front, hfront⟩ := List.getLast?_eq_some_iff.mp hlast
    have hnot := List.rdropWhile_last_not (fun c => decide (c = '.')) run (by simp [hfront])
    simp [hfront] at hnot

/-- No key begins with a parenthesis. -/
theorem head?_key_append_ne {key : List Char} (hne : key ≠ [])
    (hkey : ∀ c ∈ key, isKeyChar c = true) (rest : List Char) :
    ∀ c ∈ (key ++ rest).head?, c ≠ '(' := by
  cases key with
  | nil => exact absurd rfl hne
  | cons c key =>
    rintro _ h rfl
    cases h
    exact absurd (hkey '(' List.mem_cons_self) (by decide)

/-- A link at the front of a text: the sign, a colon with or without a modifier before it, and the
longest run of key characters behind the colon or an opening parenthesis, which is the key and some
dots. -/
theorem match?_eq_some_iff {s key after : List Char} :
    match? s = some (key, after) ↔
      ∃ modifier opening dots,
        s = '@' :: (modifier ++ ':' :: (opening ++ (key ++ dots ++ after))) ∧
        IsModifier modifier ∧ IsOpening opening ∧
        (∀ c ∈ key ++ dots, isKeyChar c = true) ∧ Text.EndsRun isKeyChar after ∧
        (∀ c ∈ dots, c = '.') ∧ key ≠ [] ∧ key.getLast? ≠ some '.' := by
  constructor
  · intro h
    cases s with
    | nil => cases h
    | cons c s =>
      obtain ⟨modifier, hmodifier, hsplit⟩ := exists_modifier s
      rw [match?] at h
      split at h
      · cases h
      · rename_i hsign
        obtain rfl : c = '@' := Classical.not_not.mp hsign
        split at h
        · rename_i colon behind hbehind
          split at h
          · cases h
          · rename_i hcolon
            obtain rfl : colon = ':' := Classical.not_not.mp hcolon
            -- Everything that is skipped or trimmed is put back where it stood.
            obtain ⟨opening, hopening, hopened⟩ := exists_opening behind
            obtain ⟨run, rest, hrun, hmembers, hends⟩ :=
              Text.exists_run isKeyChar (skipOpening behind)
            obtain ⟨dots, hdots, hall, hlast⟩ := exists_dots run
            simp only [hrun, Text.takeWhile_run hmembers hends,
              Text.dropWhile_run hmembers hends] at h
            split at h
            · cases h
            · rename_i hne
              obtain ⟨rfl, rfl⟩ := Prod.mk.inj (Option.some.inj h)
              refine ⟨modifier, opening, dots, ?_, hmodifier, hopening, ?_, hends, hall, hne,
                hlast⟩
              · rw [← hdots, ← hrun, ← hopened, ← hbehind, ← hsplit]
              · rwa [← hdots]
        · cases h
  · rintro ⟨modifier, opening, dots, rfl, hmodifier, hopening, hmembers, hends, hdots, hne, hlast⟩
    have hkey : ∀ c ∈ key, isKeyChar c = true :=
      fun c hc => hmembers c (List.mem_append_left _ hc)
    -- The key has a first character, so a parenthesis behind the colon is the opening.
    have hhead : ∀ c ∈ (key ++ dots ++ after).head?, c ≠ '(' := by
      rw [List.append_assoc]
      exact head?_key_append_ne hne hkey _
    simp only [match?, ne_eq, not_true_eq_false, if_false, skipModifier_append hmodifier,
      skipOpening_append hopening hhead, Text.takeWhile_run hmembers hends,
      Text.dropWhile_run hmembers hends, trimDots_append hdots hlast]
    rw [if_neg hne]

/-- An at sign stands only at the front of a link. -/
theorem opensWith_pattern : pattern.OpensWith '@' := by
  intro s key after h
  obtain ⟨modifier, opening, dots, rfl, hmodifier, hopening, hmembers, -⟩ :=
    match?_eq_some_iff.mp h
  refine ⟨modifier ++ ':' :: (opening ++ (key ++ dots)), by simp, fun hmem => ?_⟩
  rw [List.mem_append, List.mem_cons, List.mem_append] at hmem
  rcases hmem with hmem | hmem | hmem | hmem
  · cases hmodifier with
    | absent => cases hmem
    | word hne hletters =>
      rcases List.mem_cons.mp hmem with hdot | hletter
      · exact absurd hdot (by decide)
      · exact absurd (hletters _ hletter) (by decide)
  · exact absurd hmem (by decide)
  · cases hopening with
    | absent => cases hmem
    | parenthesis => exact absurd (List.mem_singleton.mp hmem) (by decide)
  · exact absurd (hmembers _ hmem) (by decide)

/-- The keys that a text links to are those behind an at sign anywhere in it: behind the sign comes
a modifier or none, a colon, and an opening parenthesis or none, and then a run of key characters
that goes on as long as it can and is the key with some dots at its end. No link is hidden by
another one. -/
theorem mem_keys_iff_exists_sign {text key : String} :
    key ∈ keys text ↔
      key ≠ "" ∧ key.toList.getLast? ≠ some '.' ∧
      ∃ before modifier opening dots after : String,
        text = before ++ "@" ++ modifier ++ ":" ++ opening ++ (key ++ dots) ++ after ∧
        IsModifier modifier.toList ∧ IsOpening opening.toList ∧
        (∀ c ∈ (key ++ dots).toList, isKeyChar c = true) ∧
        (∀ c ∈ after.toList.head?, isKeyChar c = false) ∧ ∀ c ∈ dots.toList, c = '.' := by
  simp only [keys, KeySet.mem_ofList, List.mem_map, opensWith_pattern.mem_findAll_iff]
  constructor
  · rintro ⟨found, ⟨before, rest, after, hsplit, hmatch⟩, rfl⟩
    obtain ⟨modifier, opening, dots, rfl, hmodifier, hopening, hmembers, hends, hdots, hne,
      hlast⟩ := match?_eq_some_iff.mp hmatch
    refine ⟨by simpa [← String.toList_inj] using hne, by simpa using hlast, .ofList before,
      .ofList modifier, .ofList opening, .ofList dots, .ofList after, ?_, by simpa using hmodifier,
      by simpa using hopening, by simpa using hmembers, ?_, by simpa using hdots⟩
    · simp [← String.toList_inj, hsplit]
    · rwa [String.toList_ofList]
  · rintro ⟨hne, hlast, before, modifier, opening, dots, after, rfl, hmodifier, hopening, hmembers,
      hends, hdots⟩
    refine ⟨key.toList, ⟨before.toList, _, after.toList, ?_, match?_eq_some_iff.mpr
      ⟨modifier.toList, opening.toList, dots.toList, rfl, hmodifier, hopening, ?_, hends, hdots, ?_,
        hlast⟩⟩, String.ofList_toList⟩
    · simp
    · simpa using hmembers
    · simpa using hne

/-- The first sign has no key, the second one has a modifier, and the dot behind its key ends the
sentence. -/
example : keys "@:@.upper:(label.name). @:..." = ["label.name"] := by cbv

end Link

end Phrasebook
