/-! # Repetition of a step until it changes nothing

`saturate step n x` applies `step` to `x` until the value stays as it is, at most `n` times. A caller
gives an `n` that its steps cannot exhaust; `step_saturate` says when the result is a fixed point.
-/
namespace CanonicalLR

variable {α : Type} [DecidableEq α]

def saturate (step : α → α) : Nat → α → α
  | 0, x => x
  | n + 1, x => if step x = x then x else saturate step n (step x)

/-- A step that raises a bounded measure whenever it changes the value comes to rest. -/
theorem step_saturate {step : α → α} (measure : α → Nat) (bound : Nat) (Kept : α → Prop)
    (hkept : ∀ x, Kept x → Kept (step x)) (hbound : ∀ x, Kept x → measure x ≤ bound)
    (hrise : ∀ x, Kept x → step x ≠ x → measure x < measure (step x))
    {n : Nat} {x : α} (hx : Kept x) (hn : bound < n + measure x) :
    step (saturate step n x) = saturate step n x := by
  induction n generalizing x with
  | zero => exact absurd (hbound x hx) (by omega)
  | succ n ih =>
    unfold saturate
    split
    · assumption
    · next h => exact ih (hkept x hx) (by have := hrise x hx h; omega)

theorem saturate_induction {step : α → α} {Kept : α → Prop} (hkept : ∀ x, Kept x → Kept (step x))
    (n : Nat) {x : α} (hx : Kept x) : Kept (saturate step n x) := by
  induction n generalizing x with
  | zero => exact hx
  | succ n ih =>
    unfold saturate
    split
    · exact hx
    · exact ih (hkept x hx)

end CanonicalLR
