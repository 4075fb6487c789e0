import HybridSearch.Text.Ascii
import HybridSearch.Text.Split
import HybridSearch.Url.Error

/-!
# Addresses as hosts

A host whose last part is a number is an address of four bytes. Its parts are decimal, octal after a
zero or hexadecimal after `0x`. The last one stands for all the bytes that the parts before it
leave.

An address of sixteen bytes is eight groups of up to four hexadecimal digits. The last two groups
may be written as four decimal bytes, and one row of zero groups may be left out between two colons.

## Main definitions

* `Ipv4`, `Ipv4.toChars`.
* `Ipv4.isNumeric` — whether a host must be an address of four bytes.
* `Ipv4.parse?`.
* `Ipv6`, `Ipv6.toChars` — the longest row of zero groups is left out, the first of them if there
  are several; one group alone is written.
* `Ipv6.parse?`.
-/

namespace HybridSearch

/-! ### Four bytes -/

structure Ipv4 where
  value : UInt32
  deriving DecidableEq, Repr

namespace Ipv4

/-- The number that digits spell in a base. -/
def ofDigits? (base : Nat) (digits : List Char) : Option Nat :=
  digits.foldlM (fun value c =>
    (Text.hexValue? c).bind fun digit =>
      if digit < base then some (value * base + digit) else none) 0

/-- The number of a part. A zero, or `0x`, may be all of it. -/
def number? : List Char → Option Nat
  | [] => none
  | '0' :: c :: rest => if c = 'x' || c = 'X' then ofDigits? 16 rest else ofDigits? 8 (c :: rest)
  | part => ofDigits? 10 part

/-- The parts of a host, which may end with a dot. -/
def parts (host : List Char) : List (List Char) :=
  match (Text.pieces (· = '.') host).reverse with
  | [] :: last :: rest => (last :: rest).reverse
  | parts => parts.reverse

def isNumeric (host : List Char) : Bool :=
  (parts host).getLast?.any fun part =>
    (!part.isEmpty && part.all Char.isDigit) || (number? part).isSome

/-- The value of an address whose numbers are given, the last one first. -/
def value? : List Nat → Option Nat
  | [] => none
  | last :: before =>
    if before.length < 4 && before.all (· < 256) && last < Nat.pow 256 (4 - before.length) then
      some (before.reverse.foldl (fun value byte => value * 256 + byte) 0 *
        Nat.pow 256 (4 - before.length) + last)
    else none

def parse? (host : List Char) : Option Ipv4 :=
  (((parts host).mapM number?).bind fun numbers => value? numbers.reverse).map
    fun value => ⟨UInt32.ofNat value⟩

def toChars (address : Ipv4) : List Char :=
  let byte (shift : UInt32) : List Char := (toString ((address.value >>> shift) % 256)).toList
  byte 24 ++ '.' :: byte 16 ++ '.' :: byte 8 ++ '.' :: byte 0

end Ipv4

/-! ### Sixteen bytes -/

structure Ipv6 where
  groups : List Nat
  length_groups : groups.length = 8
  deriving DecidableEq, Repr

namespace Ipv6

def group? (digits : List Char) : Option Nat :=
  if digits.isEmpty || 4 < digits.length then none
  else
    digits.foldlM (fun value c => (Text.hexValue? c).map fun digit => value * 16 + digit) 0

/-- A decimal byte without a zero in front. -/
def byte? (digits : List Char) : Option Nat :=
  if digits.isEmpty || !digits.all Char.isDigit || 3 < digits.length then none
  else if 1 < digits.length && digits.head? = some '0' then none
  else
    let value := digits.foldl (fun value c => value * 10 + (c.toNat - '0'.toNat)) 0
    if value < 256 then some value else none

/-- The two groups of four decimal bytes. -/
def bytePairs? (text : List Char) : Option (List Nat) :=
  match (Text.pieces (· = '.') text).mapM byte? with
  | some [a, b, c, d] => some [a * 256 + b, c * 256 + d]
  | _ => none

/-- The groups between colons. Only the last of them can be four bytes. -/
def groupsOf? : List (List Char) → Option (List Nat)
  | [] => some []
  | [last] => if last.contains '.' then bytePairs? last else (group? last).map ([·])
  | digits :: rest =>
    match group? digits, groupsOf? rest with
    | some group, some groups => some (group :: groups)
    | _, _ => none

/-- The groups of a text, of which an empty one has none. -/
def groups? (text : List Char) : Option (List Nat) :=
  if text.isEmpty then some [] else groupsOf? (Text.pieces (· = ':') text)

/-- The text before the first two colons that stand together, and the text after them. -/
def cutGap : List Char → Option (List Char × List Char)
  | ':' :: ':' :: rest => some ([], rest)
  | c :: rest => (cutGap rest).map fun (before, after) => (c :: before, after)
  | [] => none

def ofGroups? (groups : List Nat) : Option Ipv6 :=
  if h : groups.length = 8 then some ⟨groups, h⟩ else none

/-- The groups on both sides of a gap, which stands for at least one. -/
def parse? (text : List Char) : Option Ipv6 :=
  match cutGap text with
  | none => (groups? text).bind ofGroups?
  | some (before, after) =>
    match groups? before, groups? after with
    | some first, some last =>
      if before.contains '.' || 7 < first.length + last.length then none
      else ofGroups? (first ++ List.replicate (8 - (first.length + last.length)) 0 ++ last)
    | _, _ => none

/-- How many zeros a list begins with. -/
def zeros (groups : List Nat) : Nat := (groups.takeWhile (· = 0)).length

/-- The place and the length of the longest row of zeros from a place on; the first one wins. -/
def longestGap (place : Nat) : List Nat → Nat × Nat
  | [] => (place, 0)
  | group :: rest =>
    let here := zeros (group :: rest)
    let later := longestGap (place + 1) rest
    if later.2 ≤ here then (place, here) else later

def joinGroups : List Nat → List Char
  | [] => []
  | [group] => Text.hexOfNat group
  | group :: rest => Text.hexOfNat group ++ ':' :: joinGroups rest

def toChars (address : Ipv6) : List Char :=
  let (place, length) := longestGap 0 address.groups
  if length < 2 then joinGroups address.groups
  else
    joinGroups (address.groups.take place) ++ [':', ':'] ++
      joinGroups (address.groups.drop (place + length))

end Ipv6

end HybridSearch
