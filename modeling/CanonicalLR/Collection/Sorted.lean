/-! # Stable sorting by insertion

Elements that the order does not separate keep their places. `sort_perm` says that the result is a
rearrangement, and `pairwise_sort` that it is in order.
-/
namespace CanonicalLR

variable {α : Type}

def insertSorted (le : α → α → Bool) (a : α) : List α → List α
  | [] => [a]
  | b :: rest => if le a b then a :: b :: rest else b :: insertSorted le a rest

def sort (le : α → α → Bool) : List α → List α
  | [] => []
  | a :: rest => insertSorted le a (sort le rest)

theorem insertSorted_perm (le : α → α → Bool) (a : α) (l : List α) :
    (insertSorted le a l).Perm (a :: l) := by
  induction l with
  | nil => exact .refl _
  | cons b rest ih =>
    unfold insertSorted
    split
    · exact .refl _
    · exact (ih.cons b).trans (.swap a b rest)

theorem sort_perm (le : α → α → Bool) (l : List α) : (sort le l).Perm l := by
  induction l with
  | nil => exact .refl _
  | cons a rest ih => exact (insertSorted_perm le a _).trans (ih.cons a)

theorem mem_sort {le : α → α → Bool} {l : List α} {a : α} : a ∈ sort le l ↔ a ∈ l :=
  (sort_perm le l).mem_iff

theorem mem_insertSorted {le : α → α → Bool} {a b : α} {l : List α} :
    b ∈ insertSorted le a l ↔ b = a ∨ b ∈ l := by
  rw [(insertSorted_perm le a l).mem_iff, List.mem_cons]

theorem pairwise_insertSorted {le : α → α → Bool} (htotal : ∀ a b, le a b = true ∨ le b a = true)
    (htrans : ∀ a b c, le a b = true → le b c = true → le a c = true) {l : List α}
    (h : l.Pairwise fun a b => le a b = true) (a : α) :
    (insertSorted le a l).Pairwise fun a b => le a b = true := by
  induction l with
  | nil => simp [insertSorted]
  | cons b rest ih =>
    obtain ⟨hb, hrest⟩ := List.pairwise_cons.mp h
    unfold insertSorted
    split
    · next hab =>
      refine List.pairwise_cons.mpr ⟨?_, h⟩
      intro c hc
      rcases List.mem_cons.mp hc with rfl | hc
      · exact hab
      · exact htrans a b c hab (hb c hc)
    · next hab =>
      refine List.pairwise_cons.mpr ⟨?_, ih hrest⟩
      intro c hc
      rcases mem_insertSorted.mp hc with rfl | hc
      · exact (htotal c b).resolve_left hab
      · exact hb c hc

theorem pairwise_sort {le : α → α → Bool} (htotal : ∀ a b, le a b = true ∨ le b a = true)
    (htrans : ∀ a b c, le a b = true → le b c = true → le a c = true) (l : List α) :
    (sort le l).Pairwise fun a b => le a b = true := by
  induction l with
  | nil => exact List.Pairwise.nil
  | cons a rest ih => exact pairwise_insertSorted htotal htrans ih a

end CanonicalLR
