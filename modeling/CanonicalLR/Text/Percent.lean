import CanonicalLR.Text.Quoted

/-! # Percent escapes

An escape is a percent sign with the two hexadecimal digits of a byte. Encoding escapes the bytes of
every character that is not kept; decoding resolves all escapes, and a percent sign that begins none
stands for itself. A byte beyond ASCII is decoded to the character of the same number.
-/
namespace CanonicalLR.Text

def hexValue? (c : Char) : Option Nat :=
  if c.isDigit then some (c.toNat - 0x30)
  else if 'a' ≤ c && c ≤ 'f' then some (c.toNat - 0x57)
  else if 'A' ≤ c && c ≤ 'F' then some (c.toNat - 0x37)
  else none

def percentDecode : List Char → List Char
  | '%' :: a :: b :: rest =>
    match hexValue? a, hexValue? b with
    | some high, some low => Char.ofNat (16 * high + low) :: percentDecode rest
    | _, _ => '%' :: percentDecode (a :: b :: rest)
  | c :: rest => c :: percentDecode rest
  | [] => []

/-- Letters, digits and four marks never need an escape. -/
def isUnreserved (c : Char) : Bool :=
  c.isAlphanum || c == '_' || c == '.' || c == '-' || c == '~'

def percentEncode (kept : List Char) (cs : List Char) : List Char :=
  cs.flatMap fun c =>
    if isUnreserved c || kept.contains c then [c]
    else (String.utf8EncodeChar c).flatMap fun byte => '%' :: (hex 2 byte.toNat).map Char.toUpper

end CanonicalLR.Text
