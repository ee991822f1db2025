/-!
# IPv4 addresses in URLs

A host whose last label is a number has to be an address. Up to four numbers, in decimal, octal
or hexadecimal, are joined by dots; the last one fills all bytes that the others leave.
-/

namespace Phrasebook

/-- An IPv4 address, as a number of 32 bits. -/
abbrev Ipv4 := BitVec 32

namespace Ipv4

/-- The value of a digit in a base up to 16. -/
def digit? (base : Nat) (c : Char) : Option Nat :=
  let v :=
    if '0' ≤ c ∧ c ≤ '9' then c.toNat - '0'.toNat
    else if 'a' ≤ c ∧ c ≤ 'f' then c.toNat - 'a'.toNat + 10
    else if 'A' ≤ c ∧ c ≤ 'F' then c.toNat - 'A'.toNat + 10
    else base
  if v < base then some v else none

/-- A number from its digits. -/
def digits? (base : Nat) (s : List Char) : Option Nat :=
  s.foldlM (fun n c => (digit? base c).map (n * base + ·)) 0

/-- A number with a mark of its base: `0x` for 16 and a further `0` for 8. A mark alone is zero. -/
def number? : List Char → Option Nat
  | [] => none
  | '0' :: 'x' :: rest => digits? 16 rest
  | '0' :: 'X' :: rest => digits? 16 rest
  | '0' :: c :: rest => digits? 8 (c :: rest)
  | s => digits? 10 s

/-- The labels of a host, without an empty one at its end. -/
def labels (host : List Char) : List (List Char) :=
  let parts := host.splitOn '.'
  if parts.getLast? = some [] then parts.dropLast else parts

/-- Whether a host reads as an address: its last label is a number or has digits alone. -/
def endsInNumber (host : List Char) : Bool :=
  match (labels host).getLast? with
  | none => false
  | some last => (last ≠ [] && last.all Char.isDigit) || (number? last).isSome

/-- The address that some numbers make up. -/
def ofNumbers? (numbers : List Nat) : Option Ipv4 :=
  match numbers.getLast? with
  | none => none
  | some last =>
    let front := numbers.dropLast
    let room := Nat.pow 256 (4 - front.length)
    if 3 < front.length ∨ front.any (255 < ·) ∨ room ≤ last then none
    else some (BitVec.ofNat 32 (front.foldl (· * 256 + ·) 0 * room + last))

/-- The address that a host gives. -/
def ofHost? (host : List Char) : Option Ipv4 := ((labels host).mapM number?).bind ofNumbers?

/-- The four bytes of an address. -/
def bytes (a : Ipv4) : List Nat :=
  [a.toNat / 16777216, a.toNat / 65536 % 256, a.toNat / 256 % 256, a.toNat % 256]

/-- An address as four decimal numbers. -/
def render (a : Ipv4) : String := ".".intercalate (a.bytes.map toString)

end Ipv4

end Phrasebook
