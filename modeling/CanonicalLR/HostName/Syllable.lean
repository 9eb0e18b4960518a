/-! # Korean syllables

The Unicode standard has a character for every syllable of a leading letter, a vowel and perhaps a
trailing letter, in this order. `parts` takes a syllable apart into its letters and `joined?` puts two
parts together. `joined?_parts` says that an open syllable is what its letters give.
-/
namespace CanonicalLR.Syllable

def first : Nat := 0xAC00

def isSyllable (code : Nat) : Bool := first ≤ code && code < first + 11172

/-- The number before the first trailing letter stands for none. -/
def parts (code : Nat) : List Nat :=
  let n := code - first
  [0x1100 + n / 588, 0x1161 + n % 588 / 28] ++ if n % 28 = 0 then [] else [0x11A7 + n % 28]

def isLeading (code : Nat) : Bool := 0x1100 ≤ code && code < 0x1100 + 19

def isVowel (code : Nat) : Bool := 0x1161 ≤ code && code < 0x1161 + 21

def isTrailing (code : Nat) : Bool := 0x11A7 < code && code < 0x11A7 + 28

/-- A syllable is open if it has no trailing letter. -/
def isOpen (code : Nat) : Bool := isSyllable code && (code - first) % 28 = 0

def joined? (a b : Nat) : Option Nat :=
  if isLeading a && isVowel b then some (first + ((a - 0x1100) * 21 + (b - 0x1161)) * 28)
  else if isOpen a && isTrailing b then some (a + (b - 0x11A7))
  else none

theorem joined?_parts {code : Nat} (h : isOpen code = true) :
    ∃ a b, parts code = [a, b] ∧ joined? a b = some code := by
  obtain ⟨n, rfl, hn, hopen⟩ : ∃ n, code = first + n ∧ n < 11172 ∧ n % 28 = 0 := by
    unfold isOpen isSyllable at h
    simp only [Bool.and_eq_true, decide_eq_true_eq] at h
    exact ⟨code - first, by omega, by omega, h.2⟩
  refine ⟨0x1100 + n / 588, 0x1161 + n % 588 / 28, ?_, ?_⟩
  · unfold parts
    simp only [Nat.add_sub_cancel_left, if_pos hopen, List.append_nil]
  · have hlead : isLeading (0x1100 + n / 588) = true := by
      unfold isLeading
      rw [Bool.and_eq_true, decide_eq_true_eq, decide_eq_true_eq]
      omega
    have hvowel : isVowel (0x1161 + n % 588 / 28) = true := by
      unfold isVowel
      rw [Bool.and_eq_true, decide_eq_true_eq, decide_eq_true_eq]
      omega
    unfold joined?
    rw [hlead, hvowel, Bool.and_self, if_pos rfl, Nat.add_sub_cancel_left, Nat.add_sub_cancel_left]
    congr 1
    omega

end CanonicalLR.Syllable
