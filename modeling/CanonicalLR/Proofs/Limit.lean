import CanonicalLR.Proofs.Guard

/-! # Runs under a limit

Every pass that does not end a run records one step. The limit is checked before each pass, so it ends a run that
has recorded as many steps, and the last pass records its rejection, or a reduction together with the rejection that
stops it. That makes one step more than the limit, and one step if the limit is zero or less.
-/
namespace CanonicalLR

namespace Machine

variable {m : Machine} {r r' : Run} {tokens : List String} {n : Nat} {limit : Int}

theorem Pass.length_steps_of_underway (h : m.Pass r r') (hunderway : r'.ending = none) :
    r'.steps.length = r.steps.length + 1 := by
  cases h with
  | shift => exact List.length_append
  | reduce => exact List.length_append
  | stepLimit => cases hunderway
  | cycle => cases hunderway
  | accept => cases hunderway
  | reject => cases hunderway
  | fail => cases hunderway

/-- A reduction that is stopped is recorded, and so is its rejection. -/
theorem Pass.length_steps_le (h : m.Pass r r') : r'.steps.length ≤ r.steps.length + 2 := by
  cases h <;> simp [Run.reject, Run.shift, Run.reduce, Run.accept, Run.fail, Run.record]

theorem Pass.isPrefix_steps (h : m.Pass r r') : r.steps <+: r'.steps := by
  cases h with
  | cycle => exact (List.prefix_append _ _).trans (List.prefix_append _ _)
  | fail => exact List.prefix_rfl
  | stepLimit => exact List.prefix_append _ _
  | shift => exact List.prefix_append _ _
  | reduce => exact List.prefix_append _ _
  | accept => exact List.prefix_append _ _
  | reject => exact List.prefix_append _ _

theorem isPrefix_steps {k : Nat} (hle : n ≤ k) : (m.advance n r).steps <+: (m.advance k r).steps := by
  induction hle with
  | refl => exact List.prefix_rfl
  | step _ ih =>
    rw [advance_succ]
    split
    · exact ih
    · exact ih.trans (pass_pass m _).isPrefix_steps

theorem length_steps_of_underway (h : (m.advance n (.start tokens)).ending = none) :
    (m.advance n (.start tokens)).steps.length = n := by
  induction n with
  | zero => rfl
  | succ n ih =>
    have hunderway := underway_of_succ h
    rw [advance_succ_of_underway hunderway] at h ⊢
    rw [(pass_pass m _).length_steps_of_underway h, ih hunderway]

theorem length_steps_le (hlimit : m.limit = some limit) (tokens : List String) (n : Nat) :
    ((m.advance n (.start tokens)).steps.length : Int) ≤ max 0 limit + 1 := by
  suffices h : ((m.advance n (.start tokens)).steps.length : Int) ≤ max 0 limit + 1 ∧
      ((m.advance n (.start tokens)).ending = none →
        ((m.advance n (.start tokens)).steps.length : Int) ≤ max 0 limit) from h.1
  apply advance_induction (fun r => (r.steps.length : Int) ≤ max 0 limit + 1 ∧
    (r.ending = none → (r.steps.length : Int) ≤ max 0 limit)) ?_ ?_ n
  · intro r hunderway h
    have hlength := h.2 hunderway
    rw [pass, hlimit]
    dsimp only
    split
    · constructor
      · simp only [Run.reject, Run.record, List.length_append, List.length_singleton]
        omega
      · intro hrejected
        cases hrejected
    · -- Below the limit there is room for both steps of a reduction that is stopped.
      have hle := (pass_step m r).length_steps_le
      refine ⟨by omega, ?_⟩
      intro hnext
      have heq := (pass_step m r).length_steps_of_underway hnext
      omega
  · exact ⟨show (0 : Int) ≤ max 0 limit + 1 by omega, fun _ => show (0 : Int) ≤ max 0 limit by omega⟩

end Machine

end CanonicalLR
