import CanonicalLR.Text.Blank
import CanonicalLR.Text.Cut
import CanonicalLR.Text.Percent

/-! # Tables of code points

A table is written as a text of entries between white space, with all numbers hexadecimal. The entry
`A=B.C` takes the code point A to the code points B and C. An entry for a range is written with the
first and the last code point, `A-D=B`, and `A-D/2=B` is for every second one of the range. A table
without targets is a set of code points.
-/
namespace CanonicalLR.CodeTable

structure Entry where
  first : Nat
  last : Nat
  step : Nat
  target : List Nat

def hexNumber (cs : List Char) : Nat :=
  cs.foldl (fun n c => 16 * n + (Text.hexValue? c).getD 0) 0

namespace Entry

def ofText (cs : List Char) : Entry :=
  let (source, target) := Text.cut '=' cs
  let (range, step) := Text.cut '/' source
  let (first, last) := Text.cut '-' range
  {
    first := hexNumber first
    last := hexNumber (if last.isEmpty then first else last)
    step := if step.isEmpty then 1 else hexNumber step
    target := if target.isEmpty then [] else (Text.pieces '.' target).map hexNumber }

def covers (e : Entry) (code : Nat) : Bool := e.first ≤ code && code ≤ e.last

def codes (e : Entry) : List Nat :=
  List.range' e.first ((e.last - e.first) / e.step + 1) e.step

/-- The target moves along with the range. -/
def moving (e : Entry) : List (Nat × List Nat) :=
  e.codes.map fun code => (code, e.target.map (· + (code - e.first)))

theorem first_mem_codes (e : Entry) : e.first ∈ e.codes := by
  simp [codes, List.range'_succ]

theorem moving_first (e : Entry) : (e.first, e.target) ∈ e.moving :=
  List.mem_map.mpr ⟨e.first, e.first_mem_codes, by simp⟩

end Entry

def entries (table : String) : List Entry := (Text.words table.toList).map Entry.ofText

end CanonicalLR.CodeTable
