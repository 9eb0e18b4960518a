import CanonicalLR.HostName.Composition
import CanonicalLR.HostName.Folding
import CanonicalLR.HostName.Punycode
import CanonicalLR.HostName.Restriction
import CanonicalLR.Text.Quoted

/-! # Labels of host names

A label has an ASCII form of 1 to 63 characters. A label in ASCII is its own form; any other is prepared
first, that is folded, composed and checked, and written in Punycode behind `xn--` if it is still not in
ASCII. `plainForm` goes back, and only from a form that `asciiForm` gives.
-/
namespace CanonicalLR

inductive LabelError where
  | emptyOrLong
  | longLast
  | tagged
  | prohibited (code : Nat)
  | mixedDirections
  | weakEnds
  | punycode (e : Punycode.PunycodeError)
  | noReturn (label back : List Char)
deriving DecidableEq

namespace LabelError

def quotedCode (code : Nat) : String :=
  if code.isValidChar then Text.quoted (Char.ofNat code).toString
  else String.ofList ("'\\u".toList ++ Text.hex 4 code ++ ['\''])

def message : LabelError → String
  | emptyOrLong => "label empty or too long"
  | longLast => "label too long"
  | tagged => "Label starts with ACE prefix"
  | prohibited code => s!"Invalid character {quotedCode code}"
  | mixedDirections => "Violation of BIDI requirement 2"
  | weakEnds => "Violation of BIDI requirement 3"
  | punycode e => s!"decoding with 'punycode' codec failed (UnicodeError: {e.message})"
  | noReturn label back =>
    let quote (cs : List Char) : String := Text.quoted (String.ofList cs)
    s!"('IDNA does not round-trip', b{quote label}, b{quote back})"

end LabelError

namespace Label

/-- The beginning of a label in Punycode. -/
def tag : List Char := "xn--".toList

def isAscii (codes : List Nat) : Bool := codes.all (· < 0x80)

/-- If one character is written from right to left, so are the first and the last, and none is written
from left to right. -/
def checkDirection (codes : List Nat) : Except LabelError Unit :=
  if codes.any HostName.isRightToLeft then
    if codes.any HostName.isLeftToRight then .error .mixedDirections
    else if codes.head?.all HostName.isRightToLeft && codes.getLast?.all HostName.isRightToLeft then .ok ()
    else .error .weakEnds
  else .ok ()

def prepared (codes : List Nat) : Except LabelError (List Nat) := do
  let codes := HostName.compose (HostName.reorder (codes.flatMap HostName.fold))
  match codes.find? HostName.isProhibited with
  | some code => throw (.prohibited code)
  | none =>
    checkDirection codes
    return codes

def sized (cs : List Char) : Except LabelError (List Char) :=
  if cs.isEmpty || 64 ≤ cs.length then .error .emptyOrLong else .ok cs

def asciiForm (codes : List Nat) : Except LabelError (List Char) := do
  if isAscii codes then sized (codes.map Char.ofNat)
  else
    let codes ← prepared codes
    if isAscii codes then sized (codes.map Char.ofNat)
    else if (tag.map Char.toNat).isPrefixOf codes then throw .tagged
    else sized (tag ++ Punycode.encode codes)

def plainForm (label : List Char) : Except LabelError (List Char) := do
  if tag.isPrefixOf label then
    let codes ← (Punycode.decode (label.drop tag.length)).mapError .punycode
    let back ← asciiForm codes
    if label = back then return codes.map Char.ofNat else throw (.noReturn label back)
  else return label

theorem length_of_sized {cs form : List Char} (h : sized cs = .ok form) :
    0 < form.length ∧ form.length < 64 := by
  unfold sized at h
  split at h
  · cases h
  · rename_i hsize
    cases h
    simp only [Bool.or_eq_true, List.isEmpty_iff, decide_eq_true_eq, not_or, Nat.not_le] at hsize
    exact ⟨List.length_pos_iff.mpr hsize.1, hsize.2⟩

end Label

end CanonicalLR
