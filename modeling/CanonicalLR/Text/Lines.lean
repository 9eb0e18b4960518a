/-! # Lines of a text

A line ends at a line feed, a carriage return, the pair of both, or at one of the further line
boundaries of the Unicode standard. A text that ends with a line boundary has no empty last line.
-/
namespace CanonicalLR.Text

def isLineBreak (c : Char) : Bool :=
  let n := c.toNat
  (0x0A ≤ n && n ≤ 0x0D) || (0x1C ≤ n && n ≤ 0x1E) || n == 0x85 || n == 0x2028 || n == 0x2029

def lines : List Char → List (List Char)
  | [] => []
  | '\r' :: '\n' :: rest => [] :: lines rest
  | c :: rest =>
    if isLineBreak c then [] :: lines rest
    else match lines rest with
      | [] => [[c]]
      | l :: ls => (c :: l) :: ls

end CanonicalLR.Text
