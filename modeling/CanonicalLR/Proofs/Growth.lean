import CanonicalLR.Collection.Saturation
import Mathlib.Tactic.ByContra

/-! # Steps that only append

A step that keeps its list in front of the result changes the list only by making it longer. So its
repetition comes to rest as soon as the length has a bound, and a pass over many such steps that
changes nothing consists of steps that change nothing.
-/
namespace CanonicalLR

theorem step_saturate_of_prefix {α : Type} [DecidableEq α] {step : List α → List α} (bound : Nat)
    (Kept : List α → Prop) (hfront : ∀ xs, xs <+: step xs) (hkept : ∀ xs, Kept xs → Kept (step xs))
    (hbound : ∀ xs, Kept xs → xs.length ≤ bound) {n : Nat} {xs : List α} (hxs : Kept xs)
    (hn : bound < n + xs.length) : step (saturate step n xs) = saturate step n xs := by
  apply step_saturate List.length bound Kept hkept hbound ?_ hxs hn
  intro ys _ hys
  by_contra hlength
  exact hys ((hfront ys).eq_of_length_le (by omega)).symm

theorem getElem?_append_of_eq_some {α : Type} {xs : List α} {n : Nat} {x : α} (h : xs[n]? = some x)
    (ys : List α) : (xs ++ ys)[n]? = some x := by
  rw [List.getElem?_append_left (List.getElem?_eq_some_iff.mp h).1, h]

variable {α β : Type} {f : List α → β → List α}

theorem prefix_foldl (hfront : ∀ xs b, xs <+: f xs b) (xs : List α) (bs : List β) :
    xs <+: bs.foldl f xs := by
  induction bs generalizing xs with
  | nil => exact List.prefix_rfl
  | cons b bs ih => exact (hfront xs b).trans (ih (f xs b))

theorem step_eq_of_foldl_eq (hfront : ∀ xs b, xs <+: f xs b) {xs : List α} {bs : List β}
    (h : bs.foldl f xs = xs) : ∀ b ∈ bs, f xs b = xs := by
  induction bs with
  | nil => simp
  | cons b bs ih =>
    have hfirst : f xs b = xs := by
      have hle := (prefix_foldl hfront (f xs b) bs).length_le
      rw [← List.foldl_cons, h] at hle
      exact ((hfront xs b).eq_of_length_le hle).symm
    rw [List.foldl_cons, hfirst] at h
    intro c hc
    rcases List.mem_cons.mp hc with rfl | hc
    · exact hfirst
    · exact ih h c hc

end CanonicalLR
