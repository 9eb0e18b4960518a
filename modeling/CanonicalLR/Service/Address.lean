import CanonicalLR.Text.Cut
import CanonicalLR.Text.Percent

/-! # Network addresses

An address of version 4 has four numbers below 256 between points. An address of version 6 has eight
groups of up to four hexadecimal digits between colons; a double colon stands for one run of groups
that are left out, an address of version 4 for the last two groups, and a zone may follow behind a
percent sign. An address of a future version names its version.
-/
namespace CanonicalLR.Address

def isHex (c : Char) : Bool := (Text.hexValue? c).isSome

/-- A number from 0 to 255, without leading zeros. -/
def isOctet (cs : List Char) : Bool :=
  cs.all Char.isDigit && cs.length ≤ 3 && match cs with
    | [] => false
    | ['0'] => true
    | '0' :: _ => false
    | cs => cs.foldl (fun n c => 10 * n + (c.toNat - 0x30)) 0 ≤ 255

def isVersion4 (cs : List Char) : Bool :=
  (Text.pieces '.' cs).length = 4 && (Text.pieces '.' cs).all isOctet

def isGroup (cs : List Char) : Bool := !cs.isEmpty && cs.length ≤ 4 && cs.all isHex

/-- The number of the groups on one side of a double colon. -/
def countGroups? (groups : List (List Char)) : Option Nat :=
  if groups = [[]] then some 0
  else if groups.all isGroup then some groups.length
  else none

/-- The double colon shows as an empty group that is neither the first nor the last. -/
def areGroups (groups : List (List Char)) : Bool :=
  let inner := (groups.drop 1).dropLast
  match inner.count [] with
  | 0 => groups.length = 8 && groups.all isGroup
  | 1 =>
    let gap := 1 + inner.findIdx List.isEmpty
    match countGroups? (groups.take gap), countGroups? (groups.drop (gap + 1)) with
    | some before, some behind => before + behind ≤ 7
    | _, _ => false
  | _ => false

def isZone (cs : List Char) : Bool := !cs.isEmpty && !cs.contains '%'

def isVersion6 (cs : List Char) : Bool :=
  let (address, zone) := Text.cut '%' cs
  let groups := Text.pieces ':' address
  let last := groups.getLast?.getD []
  (!cs.contains '%' || isZone zone) && 3 ≤ groups.length &&
    if last.contains '.' then isVersion4 last && areGroups (groups.dropLast ++ [['0'], ['0']])
    else areGroups groups

/-- The version and the address have at least one character each. -/
def isFuture (cs : List Char) : Bool :=
  match cs with
  | 'v' :: rest =>
    match rest.takeWhile isHex, rest.dropWhile isHex with
    | _ :: _, '.' :: _ :: _ => true
    | _, _ => false
  | _ => false

end CanonicalLR.Address
