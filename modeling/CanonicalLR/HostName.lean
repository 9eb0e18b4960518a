import CanonicalLR.HostName.Label

/-! # Host names

A host name is a row of labels with points between them, and perhaps one behind the last. `encode`
writes a name in ASCII and checks its labels; `decode` shows the characters of the labels in Punycode.
-/
namespace CanonicalLR

inductive HostNameError where
  | encoding (e : LabelError)
  | decoding (e : LabelError)
deriving DecidableEq

def HostNameError.message : HostNameError → String
  | encoding e => s!"encoding with 'idna' codec failed (UnicodeError: {e.message})"
  | decoding (.noReturn label back) => (LabelError.noReturn label back).message
  | decoding e => s!"decoding with 'idna' codec failed (UnicodeError: {e.message})"

namespace HostName

/-- The points that separate the labels of a host name. -/
def isPoint (c : Char) : Bool := c == '.' || c == '\u3002' || c == '\uFF0E' || c == '\uFF61'

def labels (cs : List Char) : List (List Char) :=
  Text.pieces '.' (cs.map fun c => if isPoint c then '.' else c)

/-- Applies `f` to all labels but an empty one at the end. -/
def mapLabels (f : List Char → Except LabelError (List Char)) (cs : List Char) :
    Except LabelError (List Char) := do
  let parts := labels cs
  if parts.getLast? = some [] then
    return ['.'].intercalate ((← parts.dropLast.mapM f) ++ [[]])
  else return ['.'].intercalate (← parts.mapM f)

/-- In a name in ASCII, the last label may be empty and all other labels have from 1 to 63 characters. -/
def checkAscii (cs : List Char) : Except LabelError Unit := do
  let parts := Text.pieces '.' cs
  let _ ← parts.dropLast.mapM Label.sized
  if 64 ≤ (parts.getLast?.getD []).length then throw .longLast

def encode (cs : List Char) : Except HostNameError (List Char) :=
  Except.mapError .encoding <|
    if Label.isAscii (cs.map Char.toNat) then (checkAscii cs).map fun _ => cs
    else mapLabels (fun label => Label.asciiForm (label.map Char.toNat)) cs

/-- The name is in ASCII. -/
def decode (cs : List Char) : Except HostNameError (List Char) :=
  (mapLabels Label.plainForm cs).mapError .decoding

end HostName

end CanonicalLR
