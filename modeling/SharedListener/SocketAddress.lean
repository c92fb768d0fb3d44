/-!
# Socket addresses

The text of an IP address and the number of a service on it, in both directions.

IPv4 octets are decimal without leading zeros.  IPv6 groups are hexadecimal; one run
of zero groups may be left out, the last two groups may be written as an IPv4 address,
and a zone may follow.  A service number may have leading zeros.

An address is written in the form of RFC 5952: lower case, and the first of the
longest runs of at least two zero groups left out.  Addresses that stand for an IPv4
address keep its dotted form, and a zone is written only if it is not zero.
-/

namespace SharedListener

/-- An IP address and the number of a service on it. -/
inductive SocketAddress where
  | v4 (octets : Vector UInt8 4) (service : UInt16)
  | v6 (groups : Vector UInt16 8) (zone : UInt32) (service : UInt16)
deriving DecidableEq, Repr

namespace SocketAddress

/-! ### Reading -/

/-- The value of a digit, if it is less than `base`. -/
def digitValue? (base : Nat) (c : Char) : Option Nat :=
  let value? :=
    if '0' ≤ c ∧ c ≤ '9' then some (c.toNat - '0'.toNat)
    else if 'a' ≤ c ∧ c ≤ 'f' then some (c.toNat - 'a'.toNat + 10)
    else if 'A' ≤ c ∧ c ≤ 'F' then some (c.toNat - 'A'.toNat + 10)
    else none
  value?.filter (· < base)

/-- How a number may be written. -/
structure NumberShape where
  base : Nat
  /-- The greatest number of digits, if there is one. -/
  maxDigits : Option Nat
  /-- Whether a number of several digits may begin with a zero. -/
  leadingZeros : Bool
  /-- All numbers are less than this. -/
  bound : Nat

/-- A part of an IPv4 address. -/
def octetShape : NumberShape := ⟨10, some 3, false, 256⟩

/-- A part of an IPv6 address. -/
def groupShape : NumberShape := ⟨16, some 4, true, 65536⟩

/-- The number of a service. -/
def serviceShape : NumberShape := ⟨10, none, true, 65536⟩

/-- The number of a zone. -/
def zoneShape : NumberShape := ⟨10, none, true, 4294967296⟩

/-- Takes a number off the head of a text. -/
def readNumber? (shape : NumberShape) (text : List Char) : Option (Nat × List Char) :=
  let isDigit c := (digitValue? shape.base c).isSome
  let digits := text.takeWhile isDigit
  let value := digits.foldl
    (fun number c => number * shape.base + (digitValue? shape.base c).getD 0) 0
  if digits.isEmpty || shape.maxDigits.any (· < digits.length) ||
      (!shape.leadingZeros && 1 < digits.length && digits.head? = some '0') ||
      shape.bound ≤ value then
    none
  else
    some (value, text.dropWhile isDigit)

/-- Takes the character `c` off the head of a text. -/
def readChar? (c : Char) : List Char → Option (List Char)
  | [] => none
  | head :: rest => if head = c then some rest else none

/-- Takes an IPv4 address off the head of a text. -/
def readV4? (text : List Char) : Option (Vector UInt8 4 × List Char) := do
  let (a, rest) ← readNumber? octetShape text
  let (b, rest) ← readNumber? octetShape (← readChar? '.' rest)
  let (c, rest) ← readNumber? octetShape (← readChar? '.' rest)
  let (d, rest) ← readNumber? octetShape (← readChar? '.' rest)
  return (#v[a.toUInt8, b.toUInt8, c.toUInt8, d.toUInt8], rest)

/-- A group by its two octets. -/
def groupOf (high low : UInt8) : UInt16 :=
  high.toUInt16 * 256 + low.toUInt16

/-- The two groups that an IPv4 address stands for. -/
def groupsOfV4 (octets : Vector UInt8 4) : List UInt16 :=
  [groupOf octets[0] octets[1], groupOf octets[2] octets[3]]

/-- Groups at the head of a text: the groups, whether the last two were written as an IPv4 address,
and the text behind them. -/
structure GroupsRead where
  groups : List UInt16
  dotted : Bool
  rest : List Char

/-- Takes up to `left` groups with colons between them, after the groups `done`. -/
def readGroups (done : List UInt16) : Nat → List Char → GroupsRead
  | 0, text => ⟨done, false, text⟩
  | left + 1, text =>
    let part? := if done.isEmpty then some text else readChar? ':' text
    match part? with
    | none => ⟨done, false, text⟩
    | some part =>
      match (if 1 ≤ left then readV4? part else none) with
      | some (octets, rest) => ⟨done ++ groupsOfV4 octets, true, rest⟩
      | none =>
        match readNumber? groupShape part with
        | some (group, rest) => readGroups (done ++ [group.toUInt16]) left rest
        | none => ⟨done, false, text⟩

/-- Eight groups as an address; groups that are not there are zero. -/
def ofGroups (groups : List UInt16) : Vector UInt16 8 :=
  Vector.ofFn fun i => groups[i]?.getD 0

/-- Takes an IPv6 address off the head of a text. -/
def readV6? (text : List Char) : Option (Vector UInt16 8 × List Char) :=
  let head := readGroups [] 8 text
  if head.groups.length = 8 then
    some (ofGroups head.groups, head.rest)
  else if head.dotted then
    none
  else do
    let rest ← readChar? ':' (← readChar? ':' head.rest)
    let tail := readGroups [] (7 - head.groups.length) rest
    let omitted := 8 - head.groups.length - tail.groups.length
    return (ofGroups (head.groups ++ List.replicate omitted 0 ++ tail.groups), tail.rest)

/-- Takes a zone off the head of a text; zone zero need not be written. -/
def readZone? (text : List Char) : Option (UInt32 × List Char) :=
  match readChar? '%' text with
  | none => some (0, text)
  | some rest => (readNumber? zoneShape rest).map fun (zone, rest) => (zone.toUInt32, rest)

/-- Reads a colon and a service number, which have to be all of a text. -/
def readService? (text : List Char) : Option UInt16 := do
  let (service, rest) ← readNumber? serviceShape (← readChar? ':' text)
  if rest.isEmpty then some service.toUInt16 else none

/-- The address that a text writes. -/
def ofText? (text : String) : Option SocketAddress :=
  match readV4? text.toList with
  | some (octets, rest) => (readService? rest).map (v4 octets)
  | none => do
    let (groups, rest) ← readV6? (← readChar? '[' text.toList)
    let (zone, rest) ← readZone? rest
    let service ← readService? (← readChar? ']' rest)
    return .v6 groups zone service

/-! ### Writing -/

/-- An IPv4 address. -/
def v4Text (octets : Vector UInt8 4) : String :=
  ".".intercalate (octets.toList.map toString)

/-- A group in lower-case hexadecimal. -/
def groupText (group : UInt16) : String :=
  String.ofList (Nat.toDigits 16 group.toNat)

/-- Groups with colons between them. -/
def groupsText (groups : List UInt16) : String :=
  ":".intercalate (groups.map groupText)

/-- How many zeros a list begins with. -/
def leadingZeros (groups : List UInt16) : Nat :=
  (groups.takeWhile (· == 0)).length

/-- Where the first of the longest runs of zeros begins, and its length. -/
def longestZeros (groups : List UInt16) : Nat × Nat :=
  (List.range groups.length).foldl
    (fun best start =>
      let length := leadingZeros (groups.drop start)
      if best.2 < length then (start, length) else best)
    (0, 0)

/-- The IPv4 address that an IPv6 address stands for, if it stands for one. -/
def mappedV4? (groups : Vector UInt16 8) : Option (Vector UInt8 4) :=
  if groups.toList.take 6 = [0, 0, 0, 0, 0, 0xFFFF] then
    some #v[(groups[6] / 256).toUInt8, groups[6].toUInt8, (groups[7] / 256).toUInt8,
      groups[7].toUInt8]
  else
    none

/-- An IPv6 address. -/
def v6Text (groups : Vector UInt16 8) : String :=
  match mappedV4? groups with
  | some octets => "::ffff:" ++ v4Text octets
  | none =>
    let groups := groups.toList
    let (start, length) := longestZeros groups
    if 1 < length then
      groupsText (groups.take start) ++ "::" ++ groupsText (groups.drop (start + length))
    else
      groupsText groups

/-- The text of an address. -/
def text : SocketAddress → String
  | v4 octets service => v4Text octets ++ ":" ++ toString service
  | v6 groups zone service =>
    "[" ++ v6Text groups ++ (if zone = 0 then "" else "%" ++ toString zone) ++ "]:" ++
      toString service

end SocketAddress

end SharedListener
