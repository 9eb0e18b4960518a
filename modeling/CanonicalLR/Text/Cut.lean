/-! # Cutting a text at a character

`cut` gives the text before the first occurrence of a character and the text behind it, `cutLast` does
so at the last occurrence, and `pieces` cuts at every one. `append_cut` says that a cut loses nothing
but the character.
-/
namespace CanonicalLR.Text

/-- Nothing is behind a character that does not occur. -/
def cut (c : Char) (cs : List Char) : List Char × List Char :=
  (cs.takeWhile (· ≠ c), (cs.dropWhile (· ≠ c)).drop 1)

/-- Nothing is before a character that does not occur. -/
def cutLast (c : Char) (cs : List Char) : List Char × List Char :=
  ((cut c cs.reverse).2.reverse, (cut c cs.reverse).1.reverse)

def pieces (c : Char) : List Char → List (List Char)
  | [] => [[]]
  | d :: rest =>
    if d = c then [] :: pieces c rest
    else match pieces c rest with
      | [] => [[d]]
      | p :: ps => (d :: p) :: ps

theorem append_cut {c : Char} {cs : List Char} (h : c ∈ cs) :
    (cut c cs).1 ++ c :: (cut c cs).2 = cs := by
  induction cs with
  | nil => cases h
  | cons d rest ih =>
    by_cases hd : d = c
    · subst hd
      simp [cut]
    · have hrest : c ∈ rest := by
        rcases List.mem_cons.mp h with hc | hc
        · exact absurd hc.symm hd
        · exact hc
      simpa [cut, hd] using ih hrest

end CanonicalLR.Text
