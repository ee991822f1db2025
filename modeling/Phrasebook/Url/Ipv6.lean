/-!
# IPv6 addresses in URLs

Eight groups of up to four digits in base 16, of which a run of zeros may be left out once as
`::`, and of which the last two may be written as an IPv4 address. Written out, the longest run
of at least two zeros is left out, the first of equals.
-/

namespace Phrasebook

/-- An IPv6 address, as its eight groups. -/
structure Ipv6 where
  groups : List Nat
  length_groups : groups.length = 8
  deriving DecidableEq

namespace Ipv6

/-- The groups before and behind the double colon, if there is one. -/
structure Draft where
  front : List Nat
  back : Option (List Nat)
  deriving DecidableEq

/-- Appends a group. -/
def Draft.push (d : Draft) (group : Nat) : Draft :=
  match d.back with
  | none => { d with front := d.front ++ [group] }
  | some back => { d with back := some (back ++ [group]) }

/-- The number of groups so far. The double colon stands for one at least. -/
def Draft.size (d : Draft) : Nat :=
  match d.back with
  | none => d.front.length
  | some back => d.front.length + 1 + back.length

/-- The address, if the groups make up one. -/
def Draft.toAddress? (d : Draft) : Option Ipv6 :=
  let groups :=
    match d.back with
    | none => d.front
    | some back => d.front ++ List.replicate (8 - (d.front.length + back.length)) 0 ++ back
  if h : groups.length = 8 ∧ d.size ≤ 8 then some ⟨groups, h.1⟩ else none

/-- The value of a digit in base 16. -/
def hexValue? (c : Char) : Option Nat :=
  if '0' ≤ c ∧ c ≤ '9' then some (c.toNat - '0'.toNat)
  else if 'a' ≤ c ∧ c ≤ 'f' then some (c.toNat - 'a'.toNat + 10)
  else if 'A' ≤ c ∧ c ≤ 'F' then some (c.toNat - 'A'.toNat + 10)
  else none

/-- A decimal number up to 255, without zeros in front. -/
def byte? (s : List Char) : Option Nat :=
  if s = [] ∨ ¬ s.all Char.isDigit ∨ (s.head? = some '0' ∧ 1 < s.length) then none
  else
    let n := s.foldl (fun n c => n * 10 + (c.toNat - '0'.toNat)) 0
    if n ≤ 255 then some n else none

/-- The two groups that an IPv4 address at the end stands for. -/
def tail? (s : List Char) : Option (Nat × Nat) :=
  match (s.splitOn '.').map byte? with
  | [some a, some b, some c, some d] => some (a * 256 + b, c * 256 + d)
  | _ => none

/-- A group of up to four digits and the text behind it. -/
def group (s : List Char) : Nat × List Char :=
  let digits := (s.take 4).takeWhile (fun c => (hexValue? c).isSome)
  (digits.foldl (fun n c => n * 16 + (hexValue? c).getD 0) 0, s.drop digits.length)

/-- Behind a group there is no more text than there was. -/
theorem length_group_le (s : List Char) : (group s).2.length ≤ s.length := by
  simp [group]

/-- Reads groups up to the end. -/
def readGroups (d : Draft) (s : List Char) : Option Draft :=
  match s with
  | [] => some d
  | c :: rest =>
    if 8 ≤ d.size then none
    else if c = ':' then
      if d.back.isSome then none else readGroups { d with back := some [] } rest
    else
      match h : group (c :: rest) with
      | (n, []) => some (d.push n)
      | (n, mark :: after) =>
        if mark = '.' then
          if 6 < d.size then none
          else (tail? (c :: rest)).map (fun (a, b) => (d.push a).push b)
        else if mark = ':' ∧ after ≠ [] then
          have : after.length < (c :: rest).length := by
            have := length_group_le (c :: rest)
            simp only [h, List.length_cons] at this ⊢
            omega
          readGroups (d.push n) after
        else none
termination_by s.length
decreasing_by all_goals grind

/-- The address that the text between the brackets gives. -/
def ofText? (s : List Char) : Option Ipv6 :=
  let start : Option (Draft × List Char) :=
    match s with
    | ':' :: ':' :: rest => some (⟨[], some []⟩, rest)
    | ':' :: _ => none
    | s => if s.length < 2 then none else some (⟨[], none⟩, s)
  start.bind (fun (d, s) => (readGroups d s).bind Draft.toAddress?)

/-- The length of the run of zeros at the front. -/
def zeroRun (groups : List Nat) : Nat := (groups.takeWhile (· = 0)).length

/-- Start and length of the longest run of zeros, the first of equals. -/
def longestRun (groups : List Nat) : Nat × Nat :=
  (List.range groups.length).foldl
    (fun best i =>
      let run := zeroRun (groups.drop i)
      if best.2 < run then (i, run) else best)
    (0, 0)

/-- Groups in base 16 with colons between them. -/
def renderGroups (groups : List Nat) : String :=
  ":".intercalate (groups.map (fun n => String.ofList (Nat.toDigits 16 n)))

/-- An address without its brackets. -/
def render (a : Ipv6) : String :=
  let (start, length) := longestRun a.groups
  if length < 2 then renderGroups a.groups
  else renderGroups (a.groups.take start) ++ "::" ++ renderGroups (a.groups.drop (start + length))

end Ipv6

end Phrasebook
