/-! # Capital and small letters

`capitalized` writes a text in capital letters as far as these are in ASCII. A few letters beyond ASCII
have capital forms of this kind, some of them two or three letters long; all other letters beyond ASCII
stay as they are. `small` gives the small form of a character as far as that is in ASCII.
-/
namespace CanonicalLR.Text

/-- The letters beyond ASCII whose capital form is in ASCII. -/
def foreignCapitals : List (Char × String) := [
  ('\u00DF', "SS"), ('\u0131', "I"), ('\u017F', "S"), ('\uFB00', "FF"), ('\uFB01', "FI"), ('\uFB02', "FL"),
  ('\uFB03', "FFI"), ('\uFB04', "FFL"), ('\uFB05', "ST"), ('\uFB06', "ST")]

def capitals (c : Char) : List Char :=
  match foreignCapitals.lookup c with
  | some form => form.toList
  | none => [c.toUpper]

def capitalized (s : String) : String :=
  String.ofList (s.toList.flatMap capitals)

/-- The Kelvin sign is the only character beyond ASCII with a small form in ASCII. -/
def small (c : Char) : Char := if c = '\u212A' then 'k' else c.toLower

end CanonicalLR.Text
