import CanonicalLR.Collection.Distinct
import CanonicalLR.Collection.Sorted
import CanonicalLR.Text.Cut

/-! # Punycode

Punycode writes any text in ASCII. The ASCII characters of the text come first, then a hyphen if there
are any, then a number for each other character, which says how far it is from the one before: all code
points and all places are counted through in ascending order. The numbers have digits to the base 36,
least significant first, and a threshold for each place tells the last digit. The thresholds adapt to
the numbers seen. `decodeNumber_encodeNumber` says that a number is read back as it was written.
-/
namespace CanonicalLR.Punycode

inductive PunycodeError where
  | incomplete
  | badDigit (c : Char)
  | outOfRange (code : Nat)
deriving DecidableEq

def PunycodeError.message : PunycodeError → String
  | incomplete => "incomplete punicode string"
  | badDigit c => s!"Invalid extended code point '{c}'"
  | outOfRange code => s!"Invalid character U+{String.ofList (Nat.toDigits 16 code)}"

def limit : Nat := 0x80

def digitChar (digit : Nat) : Char :=
  if digit < 26 then Char.ofNat (0x61 + digit) else Char.ofNat (0x30 + (digit - 26))

def digit? (c : Char) : Option Nat :=
  if 'a' ≤ c && c ≤ 'z' then some (c.toNat - 0x61)
  else if 'A' ≤ c && c ≤ 'Z' then some (c.toNat - 0x41)
  else if c.isDigit then some (c.toNat - 0x30 + 26)
  else none

theorem digit?_digitChar {digit : Nat} (h : digit < 36) : digit? (digitChar digit) = some digit := by
  have hall : ∀ d < 36, digit? (digitChar d) = some d := by decide
  exact hall digit h

/-- A digit below the threshold of its place is the last one. -/
def threshold (place bias : Nat) : Nat := min 26 (max 1 (36 * (place + 1) - bias))

theorem threshold_pos (place bias : Nat) : 0 < threshold place bias := by
  unfold threshold
  omega

theorem threshold_le (place bias : Nat) : threshold place bias ≤ 26 := Nat.min_le_left _ _

def scaled (delta divisions : Nat) : Nat :=
  if 455 < delta then scaled (delta / 35) (divisions + 36) else divisions + 36 * delta / (delta + 38)
termination_by delta
decreasing_by exact Nat.div_lt_self (by omega) (by omega)

/-- The bias behind a number, where `count` characters are placed then. -/
def adapt (delta : Nat) (isFirst : Bool) (count : Nat) : Nat :=
  let damped := if isFirst then delta / 700 else delta / 2
  scaled (damped + damped / count) 0

def encodeNumber (bias place n : Nat) : List Char :=
  let t := threshold place bias
  if n < t then [digitChar n]
  else digitChar (t + (n - t) % (36 - t)) :: encodeNumber bias (place + 1) ((n - t) / (36 - t))
termination_by n
decreasing_by
  have hpos := threshold_pos place bias
  exact Nat.lt_of_le_of_lt (Nat.div_le_self _ _) (by omega)

/-- The distances found so far, last first, and the part of the next one that is known. -/
structure Sweep where
  pending : Nat
  distances : List Nat

/-- Counts through the text for one code point. -/
def Sweep.step (target : Nat) (s : Sweep) (code : Nat) : Sweep :=
  if code < target then { s with pending := s.pending + 1 }
  else if code = target then ⟨0, s.pending :: s.distances⟩
  else s

/-- `before` characters are in ASCII, and all code points below `next` are done. -/
def distances (codes : List Nat) (before next : Nat) (s : Sweep) : List Nat → List Nat
  | [] => s.distances.reverse
  | target :: rest =>
    let start := s.pending + (target - next) * (before + s.distances.length + 1)
    let swept := codes.foldl (Sweep.step target) { s with pending := start }
    distances codes before (target + 1) { swept with pending := swept.pending + 1 } rest

def encodeNumbers (bias : Nat) (isFirst : Bool) (count : Nat) : List Nat → List Char
  | [] => []
  | n :: rest =>
    encodeNumber bias 0 n ++ encodeNumbers (adapt n isFirst (count + 1)) false (count + 1) rest

def encode (codes : List Nat) : List Char :=
  let basic := codes.filter (· < limit)
  let targets := sort (· ≤ ·) (Distinct.ofList (codes.filter (limit ≤ ·)))
  let numbers := distances codes basic.length limit ⟨0, []⟩ targets
  (if basic.isEmpty then [] else basic.map Char.ofNat ++ ['-']) ++
    encodeNumbers 72 true basic.length numbers

/-- Reads one number; `weight` is the value of its next digit. -/
def decodeNumber (bias place weight sum : Nat) : List Char → Except PunycodeError (Nat × List Char)
  | [] => .error .incomplete
  | c :: rest =>
    match digit? c with
    | none => .error (.badDigit c.toUpper)
    | some digit =>
      let t := threshold place bias
      if digit < t then .ok (sum + digit * weight, rest)
      else decodeNumber bias (place + 1) (weight * (36 - t)) (sum + digit * weight) rest

/-- A written number is read back, whatever follows it. -/
theorem decodeNumber_encodeNumber (bias place n weight sum : Nat) (rest : List Char) :
    decodeNumber bias place weight sum (encodeNumber bias place n ++ rest) =
      .ok (sum + n * weight, rest) := by
  induction n using Nat.strongRecOn generalizing place weight sum with
  | ind n ih =>
    have hpos := threshold_pos place bias
    have hle := threshold_le place bias
    rw [encodeNumber]
    by_cases hn : n < threshold place bias
    · have hdigit : n < 36 := by omega
      simp only [if_pos hn, List.singleton_append, decodeNumber, digit?_digitChar hdigit]
    · have hrest : (n - threshold place bias) / (36 - threshold place bias) < n :=
        Nat.lt_of_le_of_lt (Nat.div_le_self _ _) (by omega)
      have hmod : (n - threshold place bias) % (36 - threshold place bias) <
          36 - threshold place bias := Nat.mod_lt _ (by omega)
      have hdigit : threshold place bias +
          (n - threshold place bias) % (36 - threshold place bias) < 36 := by omega
      have hlast : ¬ threshold place bias +
          (n - threshold place bias) % (36 - threshold place bias) < threshold place bias := by omega
      simp only [if_neg hn, if_neg hlast, List.cons_append, decodeNumber, digit?_digitChar hdigit,
        ih _ hrest]
      have hsum := Nat.mod_add_div (n - threshold place bias) (36 - threshold place bias)
      generalize (n - threshold place bias) % (36 - threshold place bias) = low at hsum ⊢
      generalize (n - threshold place bias) / (36 - threshold place bias) = high at hsum ⊢
      have hvalue : n = threshold place bias + low + high * (36 - threshold place bias) := by
        rw [Nat.mul_comm] at hsum
        omega
      generalize threshold place bias = t at hvalue ⊢
      rw [hvalue, Nat.add_mul (t + low), Nat.mul_right_comm, Nat.mul_assoc, Nat.add_assoc,
        Nat.mul_comm weight (36 - t)]
theorem decodeNumber_length {bias place weight sum : Nat} {cs : List Char} {r : Nat × List Char}
    (h : decodeNumber bias place weight sum cs = .ok r) : r.2.length < cs.length := by
  induction cs generalizing place weight sum with
  | nil => cases h
  | cons c rest ih =>
    unfold decodeNumber at h
    split at h
    · cases h
    · dsimp only at h
      split at h
      · cases h
        exact Nat.lt_succ_self _
      · exact Nat.lt_succ_of_lt (ih h)

/-- Places characters one by one; `next` and `place` say where the last one stands in the count. -/
def decodeFrom (bias next place : Nat) (isFirst : Bool) (placed : List Nat) :
    List Char → Except PunycodeError (List Nat)
  | [] => .ok placed
  | c :: rest =>
    match h : decodeNumber bias 0 1 0 (c :: rest) with
    | .error e => .error e
    | .ok (distance, left) =>
      let count := placed.length + 1
      let code := next + (place + distance) / count
      let spot := (place + distance) % count
      if 0x10FFFF < code then .error (.outOfRange code)
      else decodeFrom (adapt distance isFirst count) code (spot + 1) false
        (placed.take spot ++ code :: placed.drop spot) left
termination_by cs => cs.length
decreasing_by
  have hlength := decodeNumber_length h
  simpa using hlength

def decode (cs : List Char) : Except PunycodeError (List Nat) :=
  let (basic, numbers) := Text.cutLast '-' cs
  decodeFrom 72 limit 0 true (basic.map Char.toNat) numbers

end CanonicalLR.Punycode
