/-! # UTF-16 units

A unit is a number below 2^16. A high surrogate followed by a low one stands for one character beyond
the units; `unitChar` reads a surrogate that stands alone as U+FFFD.
-/
namespace CanonicalLR.Text

def isHighSurrogate (n : Nat) : Bool := 0xD800 ≤ n && n ≤ 0xDBFF

def isLowSurrogate (n : Nat) : Bool := 0xDC00 ≤ n && n ≤ 0xDFFF

def unitChar (n : Nat) : Char :=
  if isHighSurrogate n || isLowSurrogate n then '\uFFFD' else Char.ofNat n

def pairChar (high low : Nat) : Char :=
  Char.ofNat (0x10000 + (high - 0xD800) * 0x400 + (low - 0xDC00))

def ofUnits : List Nat → List Char
  | [] => []
  | [n] => [unitChar n]
  | high :: low :: rest =>
    if isHighSurrogate high && isLowSurrogate low then pairChar high low :: ofUnits rest
    else unitChar high :: ofUnits (low :: rest)

end CanonicalLR.Text
