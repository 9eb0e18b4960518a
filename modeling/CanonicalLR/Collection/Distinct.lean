/-! # Lists without repeats, in order of first appearance

`insert` appends an element unless it is there already, `extend` does so for a whole list, and
`ofList` removes the later repeats of a list. `mem_extend` and `nodup_extend` say that nothing is
lost, nothing is added and no repeat arises; `append_of_extend` says that the old list stays in front.
-/
namespace CanonicalLR.Distinct

variable {α : Type} [DecidableEq α]

def insert (xs : List α) (x : α) : List α :=
  if x ∈ xs then xs else xs ++ [x]

def extend (xs ys : List α) : List α :=
  ys.foldl insert xs

def ofList (ys : List α) : List α :=
  extend [] ys

theorem mem_insert {xs : List α} {x y : α} : y ∈ insert xs x ↔ y ∈ xs ∨ y = x := by
  unfold insert
  split
  · next h =>
    constructor
    · exact Or.inl
    · rintro (hy | rfl)
      · exact hy
      · exact h
  · simp

theorem mem_extend {xs ys : List α} {y : α} : y ∈ extend xs ys ↔ y ∈ xs ∨ y ∈ ys := by
  induction ys generalizing xs with
  | nil => simp [extend]
  | cons z zs ih =>
    rw [show extend xs (z :: zs) = extend (insert xs z) zs from rfl, ih, mem_insert, List.mem_cons]
    exact or_assoc

theorem mem_ofList {ys : List α} {y : α} : y ∈ ofList ys ↔ y ∈ ys := by
  simp [ofList, mem_extend]

theorem nodup_insert {xs : List α} (h : xs.Nodup) (x : α) : (insert xs x).Nodup := by
  unfold insert
  split
  · exact h
  · next hx =>
    rw [List.nodup_append]
    exact ⟨h, by simp, fun a ha b hb hab => hx (by simp_all)⟩

theorem nodup_extend {xs : List α} (h : xs.Nodup) (ys : List α) : (extend xs ys).Nodup := by
  induction ys generalizing xs with
  | nil => exact h
  | cons z zs ih => exact ih (nodup_insert h z)

theorem nodup_ofList (ys : List α) : (ofList ys).Nodup :=
  nodup_extend List.nodup_nil ys

theorem append_of_extend (xs ys : List α) : ∃ new, extend xs ys = xs ++ new := by
  induction ys generalizing xs with
  | nil => exact ⟨[], by simp [extend]⟩
  | cons z zs ih =>
    obtain ⟨new, hnew⟩ := ih (insert xs z)
    rw [show extend xs (z :: zs) = extend (insert xs z) zs from rfl, hnew]
    unfold insert
    split
    · exact ⟨new, rfl⟩
    · exact ⟨z :: new, by simp⟩

end CanonicalLR.Distinct
