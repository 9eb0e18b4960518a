import CanonicalLR.Proofs.Stack

/-! # The item sets that GOTO reaches

All of them are regular, and GOTO depends on what is in a set only, not on the order. A closure adds no
kernel items, so that the kernel of such a set is what the closure was given, and its closure is the set
again, in the same order.
-/
namespace CanonicalLR

namespace Distinct

variable {α : Type} [DecidableEq α]

theorem filter_extend_of_forall_not {keep : α → Bool} (xs : List α) {ys : List α} (h : ∀ y ∈ ys, keep y = false) :
    (extend xs ys).filter keep = xs.filter keep := by
  induction ys generalizing xs with
  | nil => rfl
  | cons y ys ih =>
    rw [show extend xs (y :: ys) = extend (insert xs y) ys from rfl,
      ih _ fun z hz => h z (List.mem_cons_of_mem y hz), insert]
    split
    · rfl
    · simp [h y List.mem_cons_self]

theorem extend_eq_append_of_nodup (xs ys : List α) (h : (xs ++ ys).Nodup) : extend xs ys = xs ++ ys := by
  induction ys generalizing xs with
  | nil => simp [extend]
  | cons y ys ih =>
    have hy : y ∉ xs := by
      intro hy
      exact (List.nodup_append.mp h).2.2 y hy y List.mem_cons_self rfl
    rw [show extend xs (y :: ys) = extend (insert xs y) ys from rfl, insert, if_neg hy, ih _ (by simpa using h)]
    simp

theorem ofList_of_nodup {ys : List α} (h : ys.Nodup) : ofList ys = ys :=
  extend_eq_append_of_nodup [] ys h

theorem extend_concat (xs ys : List α) (y : α) : extend xs (ys ++ [y]) = insert (extend xs ys) y := by
  simp [extend]

end Distinct

namespace Grammar

variable {g : Grammar} {a : Automaton} {s : State} {items I J : ItemSet} {i : Item} {X : Symbol}

/-- The item sets that GOTO reaches from the first one, without the empty set. -/
inductive Collected (g : Grammar) : ItemSet → Prop
  | start : Collected g (g.closure [g.startItem])
  | goto {items : ItemSet} (collected : Collected g items) (X : Symbol) (ne_nil : g.goto items X ≠ []) :
      Collected g (g.goto items X)

theorem mem_nextSymbols_of_goto_ne_nil (h : g.goto items X ≠ []) : X ∈ items.nextSymbols := by
  have hgiven : ∀ i ∈ items.advanceOver X, X ∈ items.nextSymbols := by
    intro i hi
    obtain ⟨j, hj, hnext, -⟩ := ItemSet.mem_advanceOver.mp hi
    exact ItemSet.mem_nextSymbols.mpr ⟨j, hj, hnext⟩
  have hall : ∀ i ∈ g.closure (items.advanceOver X), X ∈ items.nextSymbols :=
    closure_induction hgiven fun _ hX _ _ => hX
  obtain ⟨i, hi⟩ := List.exists_mem_of_ne_nil _ h
  exact hall i hi

theorem goto_ne_nil (h : X ∈ items.nextSymbols) : g.goto items X ≠ [] := by
  obtain ⟨i, hi, hnext⟩ := ItemSet.mem_nextSymbols.mp h
  exact List.ne_nil_of_mem (mem_closure_of_mem (ItemSet.mem_advanceOver.mpr ⟨i, hi, hnext, rfl⟩))

theorem Collected.regular (hg : g.WellFormed) (h : g.Collected items) : g.Regular items := by
  induction h with
  | start => exact regular_start hg
  | goto collected X ne_nil ih => exact ih.goto hg (mem_nextSymbols_of_goto_ne_nil ne_nil)

theorem toFinset_goto_eq (hg : g.WellFormed) (hI : ∀ i ∈ I, g.HasItem i) (hJ : ∀ i ∈ J, g.HasItem i)
    (h : I.toFinset = J.toFinset) : (g.goto I X).toFinset = (g.goto J X).toFinset := by
  have hmem : ∀ i, i ∈ I ↔ i ∈ J := by
    intro i
    rw [← List.mem_toFinset, h, List.mem_toFinset]
  ext i
  rw [List.mem_toFinset, List.mem_toFinset]
  exact ⟨mem_goto_of_subset hg (fun i hi => (hJ i hi).admits) (fun i => (hmem i).mp) i,
    mem_goto_of_subset hg (fun i hi => (hI i hi).admits) (fun i => (hmem i).mpr) i⟩

theorem isKernel_eq_false_of_mem_predictions (hg : g.WellFormed) {j : Item} (hi : g.HasItem i)
    (hj : j ∈ g.predictor.predictions i) : decide (0 < j.dot ∨ j.production.id = 0) = false := by
  obtain ⟨-, -, -, -, -, hdot, -⟩ := mem_predictions.mp hj
  have hid := Automaton.Path.id_ne_zero_of_mem_predictions hg hi hj
  simp [hdot, hid]

/-- The passes of a closure add no kernel items. -/
theorem kernel_closure (hg : g.WellFormed) (hitems : ∀ i ∈ items, g.HasItem i) :
    (g.closure items).kernel = ItemSet.kernel (Distinct.ofList items) := by
  have hkept : ∀ found : ItemSet,
      (∀ i ∈ found, g.HasItem i) ∧ found.kernel = ItemSet.kernel (Distinct.ofList items) →
        (∀ i ∈ g.predictor.closurePass found, g.HasItem i) ∧
          (g.predictor.closurePass found).kernel = ItemSet.kernel (Distinct.ofList items) := by
    rintro found ⟨hfound, hkernel⟩
    constructor
    · intro j hj
      rcases Predictor.mem_closurePass.mp hj with hj | ⟨i, hi, hj⟩
      · exact hfound j hj
      · exact (hfound i hi).of_mem_predictions hg hj
    · rw [← hkernel]
      apply Distinct.filter_extend_of_forall_not
      intro j hj
      obtain ⟨i, hi, hj⟩ := List.mem_flatMap.mp hj
      simpa using isKernel_eq_false_of_mem_predictions hg (hfound i hi) hj
  exact (saturate_induction hkept _ ⟨fun i hi => hitems i (Distinct.mem_ofList.mp hi), rfl⟩).2

theorem closure_kernel_closure (hg : g.WellFormed) (hitems : ∀ i ∈ items, g.HasItem i) (hnodup : items.Nodup)
    (hkernel : ∀ i ∈ items, 0 < i.dot ∨ i.production.id = 0) :
    g.closure (g.closure items).kernel = g.closure items := by
  rw [kernel_closure hg hitems, Distinct.ofList_of_nodup hnodup]
  congr 1
  rw [ItemSet.kernel, List.filter_eq_self]
  intro i hi
  simpa using hkernel i hi

theorem nodup_advanceOver (h : items.Nodup) (X : Symbol) : (items.advanceOver X).Nodup := by
  apply (h.filter _).map
  intro i j hij
  obtain ⟨p, dot, x⟩ := i
  obtain ⟨q, dot', y⟩ := j
  simpa [Item.advance] using hij

theorem Collected.closure_kernel (hg : g.WellFormed) (h : g.Collected items) :
    g.closure items.kernel = items := by
  cases h with
  | start =>
    apply closure_kernel_closure hg ?_ (List.nodup_singleton _)
    · intro i hi
      rw [List.mem_singleton.mp hi]
      exact Or.inr rfl
    · intro i hi
      rw [List.mem_singleton.mp hi]
      exact hasItem_startItem g
  | @goto items collected X ne_nil =>
    have hregular := collected.regular hg
    apply closure_kernel_closure hg (hasItem_of_mem_advanceOver hregular.hasItem)
      (nodup_advanceOver hregular.nodup X)
    intro i hi
    obtain ⟨j, -, -, rfl⟩ := ItemSet.mem_advanceOver.mp hi
    exact Or.inl (Nat.succ_pos _)

/-- A closure adds no items of production 0. -/
theorem mem_of_mem_closure_of_id_eq_zero (hg : g.WellFormed) (hitems : ∀ i ∈ items, g.HasItem i)
    (hi : i ∈ g.closure items) (hid : i.production.id = 0) : i ∈ items := by
  rcases mem_closure_cases hi with hi | ⟨k, hk, hpredicted⟩
  · exact hi
  · have hk' : g.HasItem k := closure_induction hitems (fun _ hi _ hj => hi.of_mem_predictions hg hj) k hk
    exact absurd hid (Automaton.Path.id_ne_zero_of_mem_predictions hg hk' hpredicted)

/-- No GOTO leads back to the first set. -/
theorem startItem_not_mem_goto (hg : g.WellFormed) (hitems : ∀ i ∈ items, g.HasItem i) :
    g.startItem ∉ g.goto items X := by
  intro hmem
  have hgiven := mem_of_mem_closure_of_id_eq_zero hg (hasItem_of_mem_advanceOver hitems) hmem rfl
  obtain ⟨j, -, -, hstart⟩ := ItemSet.mem_advanceOver.mp hgiven
  cases congrArg Item.dot hstart

theorem Collected.exists_target (hg : g.WellFormed) (ha : g.IsCanonical a) (h : g.Collected items)
    (hs : s ∈ a.states) (heq : s.items.toFinset = items.toFinset) (hne : g.goto items X ≠ []) :
    ∃ t ∈ a.states, a.target? s.id X = some t.id ∧ t.items.toFinset = (g.goto items X).toFinset := by
  have hX : X ∈ s.items.nextSymbols := by
    obtain ⟨i, hi, hnext⟩ := ItemSet.mem_nextSymbols.mp (mem_nextSymbols_of_goto_ne_nil hne)
    rw [← List.mem_toFinset, ← heq, List.mem_toFinset] at hi
    exact ItemSet.mem_nextSymbols.mpr ⟨i, hi, hnext⟩
  obtain ⟨t, ht, htarget⟩ := ha.exists_target hs hX
  refine ⟨t, ht, htarget, ?_⟩
  rw [← toFinset_goto_eq hg (ha.regular s hs).hasItem (h.regular hg).hasItem heq]
  ext i
  rw [List.mem_toFinset, List.mem_toFinset]
  exact ha.mem_goto hs ht htarget

theorem Collected.exists_state (hg : g.WellFormed) (ha : g.IsCanonical a) (h : g.Collected items) :
    ∃ s ∈ a.states, s.items.toFinset = items.toFinset := by
  induction h with
  | start => exact ⟨_, ha.start_mem, rfl⟩
  | goto collected X ne_nil ih =>
    obtain ⟨s, hs, heq⟩ := ih
    obtain ⟨t, ht, -, heq'⟩ := collected.exists_target hg ha hs heq ne_nil
    exact ⟨t, ht, heq'⟩

end Grammar

end CanonicalLR
