import Phrasebook.Json.Numeral

/-!
# The grammar of JSON

What the texts of a JSON value look like, as a relation between a value and the characters of a
text. A text stands for one value, with the members of an object in the order of the text; how deep
arrays and objects nest is a property of the value. A numeral belongs to the grammar if its number
is in the range of a double.
-/

namespace Phrasebook.Json

/-- White space. -/
def IsBlank (t : List Char) : Prop := ∀ c ∈ t, c = ' ' ∨ c = '\n' ∨ c = '\t' ∨ c = '\r'

/-! ### Strings -/

/-- The number of a digit in base 16, whose letters may be of either case. -/
def hexDigit? (c : Char) : Option Nat :=
  if '0' ≤ c ∧ c ≤ '9' then some (c.toNat - '0'.toNat)
  else if 'A' ≤ c ∧ c ≤ 'F' then some (c.toNat - 'A'.toNat + 10)
  else if 'a' ≤ c ∧ c ≤ 'f' then some (c.toNat - 'a'.toNat + 10)
  else none

/-- The letters that stand for a character when they follow a backslash. -/
def shortEscapes : List (Char × Char) :=
  [('"', '"'), ('\\', '\\'), ('/', '/'), ('b', '\x08'), ('f', '\x0c'), ('n', '\n'), ('r', '\r'),
    ('t', '\t')]

/-- Four digits in base 16 and their number. -/
inductive HexQuad : Nat → List Char → Prop
  | mk {a b c d : Char} {x y z w : Nat} (ha : hexDigit? a = some x) (hb : hexDigit? b = some y)
      (hc : hexDigit? c = some z) (hd : hexDigit? d = some w) :
      HexQuad (((x * 16 + y) * 16 + z) * 16 + w) [a, b, c, d]

/-- What may follow a backslash, and the character that it stands for then. -/
inductive Escape : Char → List Char → Prop
  | short {letter c : Char} (h : (letter, c) ∈ shortEscapes) : Escape c [letter]
  /-- A number of 16 bits that is a character. -/
  | numbered {n : Nat} {quad : List Char} (hn : n < 0xD800 ∨ 0xDFFF < n) (h : HexQuad n quad) :
      Escape (Char.ofNat n) ('u' :: quad)
  /-- Two halves of a character past the 16-bit ones. -/
  | pair {n m : Nat} {first second : List Char} (hn : 0xD800 ≤ n ∧ n ≤ 0xDBFF)
      (hm : 0xDC00 ≤ m ∧ m ≤ 0xDFFF) (hfirst : HexQuad n first) (hsecond : HexQuad m second) :
      Escape (Char.ofNat (0x10000 + (n - 0xD800) * 0x400 + (m - 0xDC00)))
        ('u' :: first ++ '\\' :: 'u' :: second)

/-- The characters between the quotes of a string, and those that the string consists of. -/
inductive StringBody : List Char → List Char → Prop
  | nil : StringBody [] []
  /-- A character that stands for itself. -/
  | plain {c : Char} {cs t : List Char} (hcontrol : 0x20 ≤ c.toNat) (hquote : c ≠ '"')
      (hbackslash : c ≠ '\\') (h : StringBody cs t) : StringBody (c :: cs) (c :: t)
  | escaped {c : Char} {cs e t : List Char} (he : Escape c e) (h : StringBody cs t) :
      StringBody (c :: cs) ('\\' :: e ++ t)

/-- A string in quotes. -/
inductive Quoted (text : String) : List Char → Prop
  | mk {t : List Char} (h : StringBody text.toList t) : Quoted text ('"' :: t ++ ['"'])

/-! ### Numbers -/

/-- The characters of some bytes that are below 128. -/
def asciiChars (bytes : List UInt8) : List Char := bytes.map (fun b => Char.ofNat b.toNat)

/-- Some digits, at least one. -/
def AreDigits (digits : List UInt8) : Prop := digits ≠ [] ∧ ∀ d ∈ digits, isDigit d = true

/-- The exponent of a numeral. -/
structure ExponentText where
  /-- The letter in front, in either case. -/
  mark : UInt8
  /-- The sign, if there is one, and whether it is a minus sign. -/
  sign : Option Bool
  digits : List UInt8

/-- A numeral in its parts. -/
structure NumeralText where
  isNegative : Bool
  digits : List UInt8
  /-- The digits after the point. -/
  fraction : Option (List UInt8)
  exponent : Option ExponentText

/-- Whether an exponent has a minus sign. -/
def ExponentText.isBelow (e : ExponentText) : Bool := e.sign.getD false

/-- The byte of a sign, if there is one. -/
def signBytes : Option Bool → List UInt8
  | none => []
  | some isMinus => [if isMinus then 0x2D else 0x2B]

/-- The bytes of an exponent. -/
def ExponentText.bytes (e : ExponentText) : List UInt8 := e.mark :: (signBytes e.sign ++ e.digits)

/-- An exponent has digits. -/
structure ExponentText.IsProper (e : ExponentText) : Prop where
  mark : isExponentMark e.mark = true
  digits : AreDigits e.digits

namespace NumeralText

/-- The bytes of a fraction and an exponent, each of which may be left out. -/
def tailBytes (fraction : Option (List UInt8)) (exponent : Option ExponentText) : List UInt8 :=
  (fraction.elim [] fun digits => 0x2E :: digits) ++ exponent.elim [] ExponentText.bytes

/-- The bytes of a numeral. -/
def bytes (p : NumeralText) : List UInt8 :=
  (if p.isNegative then [0x2D] else []) ++ (p.digits ++ tailBytes p.fraction p.exponent)

/-- Each part has digits, and a zero that comes first is the only digit before the point. -/
structure IsProper (p : NumeralText) : Prop where
  digits : AreDigits p.digits
  leading : p.digits.head? = some 0x30 → p.digits = [0x30]
  fraction : ∀ digits ∈ p.fraction, AreDigits digits
  exponent : ∀ e ∈ p.exponent, e.IsProper

/-- The double for a significand and a power of ten, if it is in range. -/
def scaled? (isNegative : Bool) (significand : Nat) (exponent : Int) : Option JsonNumber :=
  ((Numeral.toDouble significand).scaleByTen? exponent).map (.double isNegative)

/-- The double for a significand with an exponent. One with too many digits leaves a zero as it is
and takes every other number out of the range, which is zero on the side of the small ones. -/
def raised? (isNegative : Bool) (significand : Nat) (start : Int) (e : ExponentText) :
    Option JsonNumber :=
  match (Numeral.exponentDigits 0 e.digits).1 with
  | some n => scaled? isNegative significand (if e.isBelow then start - n else start + n)
  | none =>
    if significand = 0 ∨ e.isBelow then some (.double isNegative Binary64.zero) else none

/-- The number of a numeral that is no whole one, with or without an exponent. -/
def ended? (isNegative : Bool) (significand : Nat) (start : Int) :
    Option ExponentText → Option JsonNumber
  | none => scaled? isNegative significand start
  | some e => raised? isNegative significand start e

/-- The number that a numeral stands for, if it is in range. -/
def value? (p : NumeralText) : Option JsonNumber :=
  let (whole, left) := Numeral.absorb 0 p.digits
  match p.fraction with
  | none =>
    if p.exponent.isNone ∧ left = 0 then some (Numeral.whole p.isNegative whole)
    else ended? p.isNegative whole left p.exponent
  | some digits =>
    let (significand, more) := Numeral.absorb whole digits
    ended? p.isNegative significand (left - (digits.length - more : Nat)) p.exponent

end NumeralText

/-- A numeral whose number is in range. -/
inductive IsNumeral (n : JsonNumber) : List Char → Prop
  | mk {p : NumeralText} (proper : p.IsProper) (value : p.value? = some n) :
      IsNumeral n (asciiChars p.bytes)

/-! ### Values -/

section Lists

variable {α : Type}

/-- White space around a text. -/
inductive Padded (P : α → List Char → Prop) (v : α) : List Char → Prop
  | mk {before t after : List Char} (hbefore : IsBlank before) (h : P v t)
      (hafter : IsBlank after) : Padded P v (before ++ t ++ after)

/-- Some texts, at least one, with commas between them. -/
inductive Separated (P : α → List Char → Prop) : List α → List Char → Prop
  | one {v : α} {t : List Char} (h : Padded P v t) : Separated P [v] t
  | more {v : α} {vs : List α} {t u : List Char} (h : Padded P v t) (hs : Separated P vs u) :
      Separated P (v :: vs) (t ++ ',' :: u)

/-- A list of texts, which may be empty. -/
inductive Listing (P : α → List Char → Prop) : List α → List Char → Prop
  | empty {t : List Char} (h : IsBlank t) : Listing P [] t
  | separated {vs : List α} {t : List Char} (h : Separated P vs t) : Listing P vs t

/-- A key, a colon and a text. -/
inductive Member (P : α → List Char → Prop) : String × α → List Char → Prop
  | mk {key : String} {v : α} {k before after t : List Char} (hkey : Quoted key k)
      (hbefore : IsBlank before) (hafter : IsBlank after) (h : P v t) :
      Member P (key, v) (k ++ before ++ ':' :: after ++ t)

/-- A list between brackets. -/
inductive ArrayOf (P : α → List Char → Prop) (vs : List α) : List Char → Prop
  | mk {t : List Char} (h : Listing P vs t) : ArrayOf P vs ('[' :: t ++ [']'])

/-- A list of members between braces. -/
inductive ObjectOf (P : α → List Char → Prop) (members : List (String × α)) : List Char → Prop
  | mk {t : List Char} (h : Listing (Member P) members t) :
      ObjectOf P members ('\x7b' :: t ++ ['\x7d'])

end Lists

/-- White space behind white space is white space. -/
theorem IsBlank.append {t u : List Char} (ht : IsBlank t) (hu : IsBlank u) : IsBlank (t ++ u) :=
  List.forall_mem_append.mpr ⟨ht, hu⟩

section Lists

variable {α : Type} {P Q : α → List Char → Prop} {v : α} {vs : List α} {b t : List Char}

/-- More white space in front. -/
theorem Padded.blank_append (hb : IsBlank b) (h : Padded P v t) : Padded P v (b ++ t) := by
  obtain ⟨hbefore, h, hafter⟩ := h
  rw [← List.append_assoc, ← List.append_assoc]
  exact .mk (hb.append hbefore) h hafter

/-- The first of some texts with commas between them may have more white space in front. -/
theorem Separated.blank_append (hb : IsBlank b) (h : Separated P vs t) :
    Separated P vs (b ++ t) := by
  cases h with
  | one h => exact .one (h.blank_append hb)
  | more h hs =>
    rw [← List.append_assoc]
    exact .more (h.blank_append hb) hs

/-! A list is of texts of another kind if each of its values is. -/

/-- A text with white space around it is of another kind if the text itself is. -/
theorem Padded.imp (h : Padded P v t) (himp : ∀ t, P v t → Q v t) : Padded Q v t := by
  obtain ⟨hbefore, h, hafter⟩ := h
  exact .mk hbefore (himp _ h) hafter

/-- The same for texts with commas between them, each taken by itself. -/
theorem Separated.imp (h : Separated P vs t) (himp : ∀ v ∈ vs, ∀ t, P v t → Q v t) :
    Separated Q vs t := by
  induction h with
  | one h => exact .one (h.imp (himp _ (List.mem_singleton_self _)))
  | more h _ ih =>
    obtain ⟨hv, hvs⟩ := List.forall_mem_cons.mp himp
    exact .more (h.imp hv) (ih hvs)

/-- The same for a list, which may be empty. -/
theorem Listing.imp (h : Listing P vs t) (himp : ∀ v ∈ vs, ∀ t, P v t → Q v t) :
    Listing Q vs t := by
  cases h with
  | empty h => exact .empty h
  | separated h => exact .separated (h.imp himp)

/-- The same for the value of a member, whose key stays as it is. -/
theorem Member.imp {m : String × α} (h : Member P m t) (himp : ∀ t, P m.2 t → Q m.2 t) :
    Member Q m t := by
  obtain ⟨hkey, hbefore, hafter, h⟩ := h
  exact .mk hkey hbefore hafter (himp _ h)

/-- The same for the items of an array. -/
theorem ArrayOf.imp (h : ArrayOf P vs t) (himp : ∀ v ∈ vs, ∀ t, P v t → Q v t) :
    ArrayOf Q vs t := by
  obtain ⟨h⟩ := h
  exact .mk (h.imp himp)

/-- The same for the values of an object. -/
theorem ObjectOf.imp {members : List (String × α)} (h : ObjectOf P members t)
    (himp : ∀ m ∈ members, ∀ t, P m.2 t → Q m.2 t) : ObjectOf Q members t := by
  obtain ⟨h⟩ := h
  exact .mk (h.imp fun m hm _ hmember => hmember.imp (himp m hm))

/-! Every value of a list has a text in it. -/

/-- Each of the values between commas has a text of its own. -/
theorem Separated.exists_of_mem (h : Separated P vs t) : ∀ v ∈ vs, ∃ u, P v u := by
  have hpadded {v : α} {t : List Char} (h : Padded P v t) : ∃ u, P v u := by
    obtain ⟨-, h, -⟩ := h
    exact ⟨_, h⟩
  induction h with
  | one h => simpa using hpadded h
  | more h _ ih => exact List.forall_mem_cons.mpr ⟨hpadded h, ih⟩

/-- Each of the values in a list has a text of its own. -/
theorem Listing.exists_of_mem (h : Listing P vs t) : ∀ v ∈ vs, ∃ u, P v u := by
  cases h with
  | empty => simp
  | separated h => exact h.exists_of_mem

/-- Each item of an array has a text of its own. -/
theorem ArrayOf.exists_of_mem (h : ArrayOf P vs t) : ∀ v ∈ vs, ∃ u, P v u := by
  obtain ⟨h⟩ := h
  exact h.exists_of_mem

/-- Each value of an object has a text of its own. -/
theorem ObjectOf.exists_of_mem {members : List (String × α)} (h : ObjectOf P members t) :
    ∀ m ∈ members, ∃ u, P m.2 u := by
  obtain ⟨h⟩ := h
  intro m hm
  obtain ⟨_, -, -, -, h⟩ := h.exists_of_mem m hm
  exact ⟨_, h⟩

end Lists

/-- A value that is no array and no object. -/
inductive Scalar : Json → List Char → Prop
  | null : Scalar .null ['n', 'u', 'l', 'l']
  | true : Scalar (.bool true) ['t', 'r', 'u', 'e']
  | false : Scalar (.bool false) ['f', 'a', 'l', 's', 'e']
  | number {n : JsonNumber} {t : List Char} (h : IsNumeral n t) : Scalar (.number n) t
  | string {text : String} {t : List Char} (h : Quoted text t) : Scalar (.string text) t

/-- A value in which at most `room` arrays and objects stand inside one another. -/
def ValueWithin : Nat → Json → List Char → Prop
  | 0, v, t => Scalar v t
  | room + 1, v, t =>
    Scalar v t ∨
      (∃ items, v = .array items ∧ ArrayOf (ValueWithin room) items t) ∨
      ∃ members, v = .object members ∧ ObjectOf (ValueWithin room) members t

/-- A value, without white space around it. -/
def Spelled (v : Json) (t : List Char) : Prop := ∃ room, ValueWithin room v t

/-! ### Depth -/

mutual

/-- How many arrays and objects of a value stand inside one another. -/
def depth : Json → Nat
  | .array items => depthOfItems items + 1
  | .object members => depthOfMembers members + 1
  | _ => 0

/-- The depth of the deepest item. -/
def depthOfItems : List Json → Nat
  | [] => 0
  | v :: rest => max v.depth (depthOfItems rest)

/-- The depth of the deepest member. -/
def depthOfMembers : List (String × Json) → Nat
  | [] => 0
  | (_, v) :: rest => max v.depth (depthOfMembers rest)

end

/-- Items nest within a bound exactly if each of them does. -/
theorem depthOfItems_le_iff {items : List Json} {n : Nat} :
    depthOfItems items ≤ n ↔ ∀ v ∈ items, v.depth ≤ n := by
  induction items with
  | nil => simp [depthOfItems]
  | cons v rest ih => rw [depthOfItems, Nat.max_le, ih, List.forall_mem_cons]

/-- Members nest within a bound exactly if the value of each does. -/
theorem depthOfMembers_le_iff {members : List (String × Json)} {n : Nat} :
    depthOfMembers members ≤ n ↔ ∀ m ∈ members, m.2.depth ≤ n := by
  induction members with
  | nil => simp [depthOfMembers]
  | cons m rest ih => rw [depthOfMembers, Nat.max_le, ih, List.forall_mem_cons]

/-- A scalar does not nest. -/
theorem Scalar.depth_eq {v : Json} {t : List Char} (h : Scalar v t) : v.depth = 0 := by
  cases h <;> rfl

/-- A value fits the room that its text leaves for arrays and objects. -/
theorem ValueWithin.depth_le {room : Nat} {v : Json} {t : List Char} (h : ValueWithin room v t) :
    v.depth ≤ room := by
  induction room generalizing v t with
  | zero => exact Nat.le_of_eq h.depth_eq
  | succ room ih =>
    obtain h | ⟨items, rfl, h⟩ | ⟨members, rfl, h⟩ := h
    · exact h.depth_eq ▸ Nat.zero_le _
    · refine Nat.succ_le_succ (depthOfItems_le_iff.mpr fun v hv => ?_)
      obtain ⟨u, hu⟩ := h.exists_of_mem v hv
      exact ih hu
    · refine Nat.succ_le_succ (depthOfMembers_le_iff.mpr fun m hm => ?_)
      obtain ⟨u, hu⟩ := h.exists_of_mem m hm
      exact ih hu

/-- A scalar needs no room to nest in. -/
theorem ValueWithin.of_scalar {v : Json} {t : List Char} (h : Scalar v t) (room : Nat) :
    ValueWithin room v t := by
  cases room with
  | zero => exact h
  | succ room => exact .inl h

/-- A text of a value fits every room that the value fits. -/
theorem ValueWithin.of_depth_le {room other : Nat} {v : Json} {t : List Char}
    (h : ValueWithin room v t) (hdepth : v.depth ≤ other) : ValueWithin other v t := by
  induction room generalizing v t other with
  | zero => exact .of_scalar h other
  | succ room ih =>
    obtain h | ⟨items, rfl, h⟩ | ⟨members, rfl, h⟩ := h
    · exact .of_scalar h other
    · obtain ⟨other, rfl⟩ := Nat.exists_eq_add_of_le' (Nat.le_trans (Nat.le_add_left ..) hdepth)
      have hitems := depthOfItems_le_iff.mp (Nat.le_of_succ_le_succ hdepth)
      exact .inr (.inl ⟨items, rfl, h.imp fun v hv _ hvt => ih hvt (hitems v hv)⟩)
    · obtain ⟨other, rfl⟩ := Nat.exists_eq_add_of_le' (Nat.le_trans (Nat.le_add_left ..) hdepth)
      have hmembers := depthOfMembers_le_iff.mp (Nat.le_of_succ_le_succ hdepth)
      exact .inr (.inr ⟨members, rfl, h.imp fun m hm _ hmt => ih hmt (hmembers m hm)⟩)

/-- An object takes one more room than its members. -/
theorem valueWithin_object_iff {room : Nat} {members : List (String × Json)} {t : List Char} :
    ValueWithin (room + 1) (.object members) t ↔ ObjectOf (ValueWithin room) members t := by
  constructor
  · rintro (h | ⟨_, heq, -⟩ | ⟨_, heq, h⟩)
    · cases h
    · cases heq
    · obtain rfl := Json.object.inj heq
      exact h
  · exact fun h => .inr (.inr ⟨members, rfl, h⟩)

/-- The room that a value takes is its depth. -/
theorem valueWithin_iff {room : Nat} {v : Json} {t : List Char} :
    ValueWithin room v t ↔ Spelled v t ∧ v.depth ≤ room :=
  ⟨fun h => ⟨⟨room, h⟩, h.depth_le⟩, fun ⟨⟨_, h⟩, hdepth⟩ => h.of_depth_le hdepth⟩

/-- An array is spelled by texts that spell its items. -/
theorem Spelled.array {items : List Json} {t : List Char} (h : ArrayOf Spelled items t) :
    Spelled (.array items) t := by
  have hitems := depthOfItems_le_iff.mp (Nat.le_refl (depthOfItems items))
  exact ⟨_ + 1, .inr (.inl ⟨items, rfl, h.imp fun v hv t ht =>
    valueWithin_iff.mpr ⟨ht, hitems v hv⟩⟩)⟩

/-- An object is spelled by texts that spell its values. -/
theorem Spelled.object {members : List (String × Json)} {t : List Char}
    (h : ObjectOf Spelled members t) : Spelled (.object members) t := by
  have hmembers := depthOfMembers_le_iff.mp (Nat.le_refl (depthOfMembers members))
  exact ⟨_ + 1, .inr (.inr ⟨members, rfl, h.imp fun m hm t ht =>
    valueWithin_iff.mpr ⟨ht, hmembers m hm⟩⟩)⟩

/-- The grammar of values: a scalar, an array of values or an object of values. -/
theorem spelled_iff {v : Json} {t : List Char} :
    Spelled v t ↔ Scalar v t ∨ (∃ items, v = .array items ∧ ArrayOf Spelled items t) ∨
      ∃ members, v = .object members ∧ ObjectOf Spelled members t := by
  constructor
  · rintro ⟨_ | room, h⟩
    · exact .inl h
    · obtain h | ⟨items, rfl, h⟩ | ⟨members, rfl, h⟩ := h
      · exact .inl h
      · exact .inr (.inl ⟨items, rfl, h.imp fun _ _ _ ht => ⟨room, ht⟩⟩)
      · exact .inr (.inr ⟨members, rfl, h.imp fun _ _ _ ht => ⟨room, ht⟩⟩)
  · rintro (h | ⟨items, rfl, h⟩ | ⟨members, rfl, h⟩)
    · exact ⟨0, h⟩
    · exact .array h
    · exact .object h

/-- Only a string in quotes is a text of a string. -/
theorem spelled_string_iff {text : String} {t : List Char} :
    Spelled (.string text) t ↔ Quoted text t := by
  constructor
  · intro h
    obtain h | ⟨_, heq, -⟩ | ⟨_, heq, -⟩ := spelled_iff.mp h
    · cases h with
      | string h => exact h
    · cases heq
    · cases heq
  · exact fun h => ⟨0, .string h⟩

/-- A whole text. -/
def Document (v : Json) (t : List Char) : Prop := Padded Spelled v t

/-- The documents of a string are its texts in quotes with white space around them. -/
theorem document_string_iff {text : String} {t : List Char} :
    Document (.string text) t ↔ Padded Quoted text t := by
  constructor
  · rintro ⟨hbefore, h, hafter⟩
    exact .mk hbefore (spelled_string_iff.mp h) hafter
  · rintro ⟨hbefore, h, hafter⟩
    exact .mk hbefore (spelled_string_iff.mpr h) hafter

end Phrasebook.Json
