import CanonicalLR.Text.Unit

/-! # Encodings of JSON texts

A JSON text begins with a character of ASCII, so its first bytes tell its encoding: UTF-8 has no zero
byte among them, and the other encodings have theirs at different places. The bytes of a text are
decoded accordingly; bytes that do not make up whole units have no text.
-/
namespace CanonicalLR.Json

inductive ByteOrder where
  | big
  | little
deriving DecidableEq

inductive Encoding where
  | utf8
  | utf16 (order : ByteOrder)
  | utf32 (order : ByteOrder)
deriving DecidableEq

/-- The first four bytes decide, or both bytes of a text that has only two. -/
def Encoding.ofBytes : List Nat → Encoding
  | [a, b] => if a = 0 then .utf16 .big else if b = 0 then .utf16 .little else .utf8
  | a :: b :: c :: d :: _ =>
    if a = 0 then if b = 0 then .utf32 .big else .utf16 .big
    else if b = 0 then if c = 0 ∧ d = 0 then .utf32 .little else .utf16 .little
    else .utf8
  | _ => .utf8

def ByteOrder.join (order : ByteOrder) (a b : Nat) : Nat :=
  match order with
  | .big => 0x100 * a + b
  | .little => 0x100 * b + a

/-- The numbers that pairs of bytes stand for. -/
def units (order : ByteOrder) : List Nat → Option (List Nat)
  | [] => some []
  | [_] => none
  | a :: b :: rest => (units order rest).map (order.join a b :: ·)

/-- The numbers that pairs of units stand for. -/
def joinUnits (order : ByteOrder) : List Nat → Option (List Nat)
  | [] => some []
  | [_] => none
  | a :: b :: rest =>
    let n := match order with
      | .big => 0x10000 * a + b
      | .little => 0x10000 * b + a
    (joinUnits order rest).map (n :: ·)

def readCodePoints (numbers : List Nat) : Option (List Char) :=
  if numbers.all (· ≤ 0x10FFFF) then some (numbers.map Text.unitChar) else none

/-- The text that the bytes of `s` stand for. -/
def decoded? (s : String) : Option String :=
  let bytes := s.toUTF8.toList.map UInt8.toNat
  match Encoding.ofBytes bytes with
  | .utf8 => some s
  | .utf16 order => (units order bytes).map fun numbers => String.ofList (Text.ofUnits numbers)
  | .utf32 order =>
    (((units order bytes).bind (joinUnits order)).bind readCodePoints).map String.ofList

end CanonicalLR.Json
