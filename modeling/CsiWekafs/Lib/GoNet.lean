import Mathlib.Data.List.Basic
import Mathlib.Tactic.Common

namespace GoNet

def hexValue (c : Char) : Option Nat :=
  if '0' ≤ c ∧ c ≤ '9' then some (c.toNat - '0'.toNat)
  else if 'a' ≤ c ∧ c ≤ 'f' then some (c.toNat - 'a'.toNat + 10)
  else if 'A' ≤ c ∧ c ≤ 'F' then some (c.toNat - 'A'.toNat + 10)
  else none

def isHex (c : Char) : Bool := (hexValue c).isSome

def valueOf (base : Nat) (digits : List Char) : Nat :=
  digits.foldl (fun n c => n * base + (hexValue c).getD 0) 0

/-- A number below 256 without leading zeros. -/
def octet (s : List Char) : Option Nat :=
  if s ≠ [] ∧ s.all Char.isDigit ∧ (s.length = 1 ∨ s.head? ≠ some '0') ∧ valueOf 10 s ≤ 255 then
    some (valueOf 10 s)
  else none

def parseIPv4Fields (s : List Char) : Option (List Nat) :=
  match s.splitOn '.' with
  | [a, b, c, d] => [a, b, c, d].mapM octet
  | _ => none

/-- Two groups of 16 bits from four bytes. -/
def groupsOf (fields : List Nat) : List Nat :=
  [fields.getD 0 0 * 256 + fields.getD 1 0, fields.getD 2 0 * 256 + fields.getD 3 0]

/-- The groups of an IPv6 address and the place of its ellipsis. The last two groups may be written as
an IPv4 address. -/
def parseGroups : Nat → List Nat → Option Nat → List Char → Option (List Nat × Option Nat)
  | 0, groups, ellipsis, s => if s = [] then some (groups, ellipsis) else none
  | n + 1, groups, ellipsis, s =>
    let digits := s.takeWhile isHex
    let groups' := groups ++ [valueOf 16 digits]
    if digits = [] ∨ 4 < digits.length then none
    else match s.dropWhile isHex with
      | [] => some (groups', ellipsis)
      | '.' :: _ =>
        if ellipsis = none ∧ groups.length ≠ 6 then none
        else if 6 < groups.length then none
        else (parseIPv4Fields s).map fun fields => (groups ++ groupsOf fields, ellipsis)
      | ':' :: [] => none
      | ':' :: ':' :: s =>
        if ellipsis.isSome then none
        else if s = [] then some (groups', some groups'.length)
        else parseGroups n groups' (some groups'.length) s
      | ':' :: s => parseGroups n groups' ellipsis s
      | _ => none

/-- The ellipsis stands for one group of zeros at least. -/
def expand : List Nat × Option Nat → Option (List Nat)
  | (groups, none) => if groups.length = 8 then some groups else none
  | (groups, some i) =>
    if groups.length < 8 then
      some (groups.take i ++ List.replicate (8 - groups.length) 0 ++ groups.drop i)
    else none

def parseIPv6 (s : List Char) : Option (List Nat) :=
  match s with
  | ':' :: ':' :: [] => some (List.replicate 8 0)
  | ':' :: ':' :: s => (parseGroups 8 [] (some 0) s).bind expand
  | s => (parseGroups 8 [] none s).bind expand

/-- The eight groups of an address. An address with a zone is none. -/
def parseIP (s : List Char) : Option (List Nat) :=
  match s.find? fun c => c = '.' || c = ':' || c = '%' with
  | some '.' => (parseIPv4Fields s).map fun fields => [0, 0, 0, 0, 0, 0xffff] ++ groupsOf fields
  | some ':' => if '%' ∈ s then none else parseIPv6 s
  | _ => none

/-- The address is one of IPv4, possibly mapped. -/
def isTo4 (groups : List Nat) : Bool := groups.take 6 = [0, 0, 0, 0, 0, 0xffff]

example : parseIP "10.0.0.1".toList = some [0, 0, 0, 0, 0, 0xffff, 2560, 1] := by decide

example : parseIP "fe80::1:0".toList = some [0xfe80, 0, 0, 0, 0, 0, 1, 0] := by decide

example : parseIP "10.0.0.01".toList = none := by decide

end GoNet
