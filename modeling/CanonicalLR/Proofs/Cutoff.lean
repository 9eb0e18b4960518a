import CanonicalLR.Proofs.Limit
import CanonicalLR.Proofs.Traced
import CanonicalLR.Proofs.Unguarded

/-! # A limit only cuts runs off

As long as it has recorded fewer steps than the limit allows, a run is the one without a limit. A pass that ends the
run records its verdict, the verdict of the guard together with the reduction that it stops, and a fault not at all.
So a verdict is reached within `N` steps, or within `N + 1` if it is one of the guard, exactly if the pass that gives
it begins with fewer than `N` steps, and otherwise the limit rejects after `N` moves.
-/
namespace CanonicalLR

/-- The run has ended within a limit of `N` steps. A fault is not recorded, and a verdict of the guard is recorded
together with its reduction, in one pass. -/
def Run.EndsWithin (N : Nat) (r : Run) : Prop :=
  match r.ending with
  | none => False
  | some (.failed _) => r.steps.length < N
  | some (.rejected (.cycle _ _) _) => r.steps.length ≤ N ∨ r.steps.length = N + 1 ∧ 1 ≤ N
  | some (.rejected _ _) => r.steps.length ≤ N
  | some (.accepted _) => r.steps.length ≤ N

theorem Run.EndsWithin.ended {r : Run} {N : Nat} (h : r.EndsWithin N) : r.ending.isSome = true := by
  cases hending : r.ending with
  | none =>
    rw [EndsWithin, hending] at h
    cases h
  | some e => rfl

namespace Machine

open CanonicalLR.Configuration

variable {g : Grammar} {t : Table} {m : Machine} {r r' : Run} {tokens : List String} {n N : Nat}

def unlimited (g : Grammar) (t : Table) : Machine := ⟨g, t, none⟩

def limited (g : Grammar) (t : Table) (N : Nat) : Machine := ⟨g, t, some N⟩

theorem pass_limited_of_lt (h : r.steps.length < N) : (limited g t N).pass r = (unlimited g t).pass r :=
  if_neg (by omega)

theorem pass_limited_of_le (h : N ≤ r.steps.length) : (limited g t N).pass r = r.reject (.stepLimit N) :=
  if_pos (by omega)

theorem advance_limited (h : n ≤ N) :
    (limited g t N).advance n (.start tokens) = (unlimited g t).advance n (.start tokens) := by
  induction n with
  | zero => rfl
  | succ n ih =>
    rw [advance_succ, advance_succ, ih (Nat.le_of_succ_le h)]
    split
    · rfl
    · next hunderway =>
      apply pass_limited_of_lt
      rwa [length_steps_of_underway (by simpa using hunderway)]

/-- The run under the limit is the one without, or is rejected behind the first moves of it. -/
theorem run_limited (g : Grammar) (t : Table) (N : Nat) (tokens : List String) :
    (limited g t N).run tokens =
      if ((unlimited g t).advance N (.start tokens)).ending.isSome then (unlimited g t).advance N (.start tokens)
      else ((unlimited g t).advance N (.start tokens)).reject (.stepLimit N) := by
  rw [run, show (limited g t N).passes = N + 1 from rfl, advance_succ, advance_limited (Nat.le_refl N)]
  split
  · rfl
  · next hunderway =>
    apply pass_limited_of_le
    rw [length_steps_of_underway (by simpa using hunderway)]

/-- The last pass gets ahead of the limit exactly if it begins with fewer steps. -/
theorem Pass.endsWithin_iff (h : m.Pass r r') (hlimit : m.limit = none) (hunderway : r.ending = none)
    (hended : r'.ending.isSome = true) : r'.EndsWithin N ↔ r.steps.length < N := by
  cases h with
  | stepLimit limit_eq =>
    rw [hlimit] at limit_eq
    cases limit_eq
  | shift =>
    rw [show (Run.shift r _ _ _).ending = none from hunderway] at hended
    cases hended
  | @reduce p target next =>
    rw [show (r.reduce p target next).ending = none from hunderway] at hended
    cases hended
  | @cycle p target next move_eq old =>
    have hlength : ((r.reduce p target next).reject (.cycle target (next.input.headD .endMarker))).steps.length =
        r.steps.length + 2 := by simp [Run.reject, Run.reduce, Run.record]
    rw [Run.EndsWithin, hlength]
    dsimp only [Run.reject]
    omega
  | accept move_eq =>
    have hlength : r.accept.steps.length = r.steps.length + 1 := List.length_append
    rw [Run.EndsWithin, hlength]
    exact Nat.succ_le_iff
  | @reject reason move_eq =>
    have hlength : (r.reject reason).steps.length = r.steps.length + 1 := List.length_append
    rw [Run.EndsWithin, hlength]
    cases reason with
    | cycle q x => exact absurd move_eq (move_ne_cycle _ q x)
    | noAction => exact Nat.succ_le_iff
    | earlyEnd => exact Nat.succ_le_iff
    | underflow => exact Nat.succ_le_iff
    | noGoto => exact Nat.succ_le_iff
    | stepLimit => exact Nat.succ_le_iff
  | fail move_eq => exact Iff.rfl

theorem ended_and_eq_of_endsWithin (h : ((unlimited g t).advance n (.start tokens)).EndsWithin N) :
    ((unlimited g t).advance N (.start tokens)).ending.isSome = true ∧
      (unlimited g t).advance N (.start tokens) = (unlimited g t).advance n (.start tokens) := by
  obtain ⟨k, -, hunderway, hlast⟩ := exists_last_pass h.ended
  have hended := h.ended
  rw [← advance_succ_of_underway hunderway] at hlast
  rw [hlast, advance_succ_of_underway hunderway, (pass_pass _ _).endsWithin_iff rfl hunderway
    (by rwa [← advance_succ_of_underway hunderway, ← hlast]), length_steps_of_underway hunderway] at h
  rw [hlast] at hended ⊢
  have hlater := advance_eq_of_le hended (Nat.succ_le_of_lt h)
  exact ⟨by rwa [hlater], hlater⟩

theorem endsWithin_of_ended (h : ((unlimited g t).advance N (.start tokens)).ending.isSome = true) :
    ((unlimited g t).advance N (.start tokens)).EndsWithin N := by
  obtain ⟨k, hk, hunderway, hlast⟩ := exists_last_pass h
  rw [hlast] at h ⊢
  rwa [(pass_pass _ _).endsWithin_iff rfl hunderway h, length_steps_of_underway hunderway]

/-- What a limit of `N` steps makes of a run: it lets a run be that ends within it, and rejects any other behind
its first `N` moves. -/
structure LimitOnlyCuts (g : Grammar) (t : Table) (tokens : List String) (N : Nat) : Prop where
  length_le : ((limited g t N).run tokens).steps.length ≤ N + 1
  first_steps : ∀ n ≥ N,
    ((limited g t N).run tokens).steps.take N = ((unlimited g t).advance n (.start tokens)).steps.take N
  same : ∀ n, ((unlimited g t).advance n (.start tokens)).EndsWithin N →
    (limited g t N).run tokens = (unlimited g t).advance n (.start tokens)
  cut : (∀ n, ¬ ((unlimited g t).advance n (.start tokens)).EndsWithin N) →
    ∃ moves s, ((limited g t N).run tokens).steps = moves ++ [s] ∧ moves.length = N ∧
      (∀ s ∈ moves, (∃ x target, s.event = .shift x target) ∨ ∃ p target, s.event = .reduce p target) ∧
      s.event = .reject (.stepLimit N) ∧
      ((limited g t N).run tokens).ending = some (.rejected (.stepLimit N) (moves.countP Step.isShift)) ∧
      ((limited g t N).run tokens).message = s!"step limit of {N} exceeded"
  accepts : ∀ tree, ((limited g t N).run tokens).ending = some (.accepted tree) →
    (∃ n, (unlimited g t).advance n (.start tokens) = (limited g t N).run tokens) ∧
      ∀ M ≥ N, (limited g t M).run tokens = (limited g t N).run tokens

theorem limit_only_cuts (g : Grammar) (t : Table) (tokens : List String) (N : Nat) :
    LimitOnlyCuts g t tokens N where
  length_le := by
    have hle := length_steps_le (m := limited g t N) rfl tokens (limited g t N).passes
    rw [run]
    omega
  first_steps n hn := by
    rw [run_limited]
    split
    · next hended => rw [advance_eq_of_le hended hn]
    · next hended =>
      have hunderway : ((unlimited g t).advance N (.start tokens)).ending = none := by simpa using hended
      have hlength := length_steps_of_underway hunderway
      have hcut : (((unlimited g t).advance N (.start tokens)).reject (.stepLimit N)).steps.take N =
          ((unlimited g t).advance N (.start tokens)).steps := List.take_left' hlength
      rw [hcut, List.prefix_iff_eq_take.mp (isPrefix_steps hn), hlength]
  same n hends := by
    obtain ⟨hended, heq⟩ := ended_and_eq_of_endsWithin hends
    rw [run_limited, if_pos hended, heq]
  cut hnever := by
    have hunderway : ((unlimited g t).advance N (.start tokens)).ending = none := by
      by_contra hended
      exact hnever N (endsWithin_of_ended (Option.isSome_iff_ne_none.mpr hended))
    have htraced := traced_of_underway hunderway
    rw [run_limited, if_neg (by simp [hunderway])]
    refine ⟨_, _, rfl, length_steps_of_underway hunderway, htraced.event_cases, rfl, ?_, rfl⟩
    rw [← htraced.shifted_eq]
    rfl
  accepts tree haccepted := by
    have hended : ((unlimited g t).advance N (.start tokens)).ending.isSome = true := by
      by_contra hunderway
      rw [run_limited, if_neg hunderway] at haccepted
      cases haccepted
    have hrun : ∀ M ≥ N, (limited g t M).run tokens = (unlimited g t).advance N (.start tokens) := by
      intro M hM
      have hlater := advance_eq_of_le hended hM
      rw [run_limited, if_pos (by rwa [hlater]), hlater]
    refine ⟨⟨N, (hrun N (Nat.le_refl N)).symm⟩, fun M hM => ?_⟩
    rw [hrun M hM, hrun N (Nat.le_refl N)]

end Machine

end CanonicalLR
