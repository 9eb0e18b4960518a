import CanonicalLR.Automaton.Construction
import CanonicalLR.Proofs.Signature
import Mathlib.Data.Finset.Powerset

/-! # The item sets that closure and GOTO can reach

A regular set has items of the grammar only, without repeats, holds the predictions of its items and
treats the copies of a rule alike. The first set is regular and GOTO keeps regularity; on regular sets
the signature decides equality, and there are no more of them than sets of items.
-/
namespace CanonicalLR.Grammar

variable {g : Grammar} {items : ItemSet} {X : Symbol}

structure Regular (g : Grammar) (items : ItemSet) : Prop where
  ne_nil : items ≠ []
  nodup : items.Nodup
  hasItem : ∀ i ∈ items, g.HasItem i
  closed : ∀ i ∈ items, ∀ j ∈ g.predictor.predictions i, j ∈ items
  twins : g.TwinClosed items

/-- Predictions hold every copy of a rule, so a closure needs it of the given items only. -/
theorem twinClosed_closure (hg : g.WellFormed) (hitems : ∀ i ∈ items, g.HasItem i)
    (twins : g.TwinClosed items) : g.TwinClosed (g.closure items) := by
  intro i hi j hj hcore
  rcases mem_closure_cases hi with hi | ⟨k, hk, hi⟩
  · exact mem_closure_of_mem (twins i hi j hj hcore)
  · apply mem_closure_of_mem_predictions hg (fun i hi => (hitems i hi).admits) hk
    obtain ⟨Y, hnext, hY, -, hlhs, hdot, hfollows⟩ := mem_predictions.mp hi
    obtain ⟨hlhs', -, hdot', hlookahead⟩ := Item.core_eq_iff.mp hcore
    exact mem_predictions.mpr ⟨Y, hnext, hY, hj.production_mem, hlhs' ▸ hlhs, hdot' ▸ hdot,
      hlookahead ▸ hfollows⟩

theorem regular_closure (hg : g.WellFormed) (hne : items ≠ []) (hitems : ∀ i ∈ items, g.HasItem i)
    (twins : g.TwinClosed items) : g.Regular (g.closure items) where
  ne_nil := by
    obtain ⟨i, hi⟩ := List.exists_mem_of_ne_nil items hne
    exact List.ne_nil_of_mem (mem_closure_of_mem hi)
  nodup := nodup_closure hg fun i hi => (hitems i hi).admits
  hasItem := closure_induction hitems fun _ hi _ hj => hi.of_mem_predictions hg hj
  closed _ hi _ hj := mem_closure_of_mem_predictions hg (fun i hi => (hitems i hi).admits) hi hj
  twins := twinClosed_closure hg hitems twins

/-- The fresh start symbol has one production only. -/
theorem twinClosed_startItem (hg : g.WellFormed) : g.TwinClosed [g.startItem] := by
  intro i hi j hj hcore
  rw [List.mem_singleton.mp hi] at hcore
  have hlhs : j.production.lhs = g.augmentedStart := congrArg (fun c => c.1.lhs) hcore.symm
  have hproduction := eq_augmentedProduction_of_lhs_eq hg hj.production_mem hlhs
  exact List.mem_singleton.mpr (Item.eq_of_core_eq hproduction hcore.symm)

theorem regular_start (hg : g.WellFormed) : g.Regular (g.closure [g.startItem]) :=
  regular_closure hg (List.cons_ne_nil _ _) (List.forall_mem_singleton.mpr (hasItem_startItem g))
    (twinClosed_startItem hg)

theorem twinClosed_advanceOver (hitems : ∀ i ∈ items, g.HasItem i) (twins : g.TwinClosed items) :
    g.TwinClosed (items.advanceOver X) := by
  intro k hk j hj hcore
  obtain ⟨i, hi, hnext, rfl⟩ := ItemSet.mem_advanceOver.mp hk
  obtain ⟨hlhs, hrhs, hdot, hlookahead⟩ := Item.core_eq_iff.mp hcore
  change i.production.rhs = j.production.rhs at hrhs
  have hback : g.HasItem { j with dot := i.dot } :=
    ⟨hj.production_mem, hrhs ▸ (hitems i hi).dot_le, hj.lookahead_mem⟩
  have hmem : ({ j with dot := i.dot } : Item) ∈ items :=
    twins i hi _ hback (Item.core_eq_iff.mpr ⟨hlhs, hrhs, rfl, hlookahead⟩)
  refine ItemSet.mem_advanceOver.mpr ⟨_, hmem, ?_, ?_⟩
  · rw [← hnext, Item.next?, Item.next?, hrhs]
  · exact Item.eq_of_core_eq rfl (Item.core_eq_iff.mpr ⟨rfl, rfl, hdot.symm, rfl⟩)

theorem hasItem_of_mem_advanceOver (hitems : ∀ i ∈ items, g.HasItem i) :
    ∀ i ∈ items.advanceOver X, g.HasItem i := by
  intro i hi
  obtain ⟨j, hj, hnext, rfl⟩ := ItemSet.mem_advanceOver.mp hi
  exact (hitems j hj).advance hnext

theorem Regular.goto (hg : g.WellFormed) (h : g.Regular items) (hX : X ∈ items.nextSymbols) :
    g.Regular (g.goto items X) := by
  apply regular_closure hg
  · obtain ⟨i, hi, hnext⟩ := ItemSet.mem_nextSymbols.mp hX
    exact List.ne_nil_of_mem (ItemSet.mem_advanceOver.mpr ⟨i, hi, hnext, rfl⟩)
  · exact hasItem_of_mem_advanceOver h.hasItem
  · exact twinClosed_advanceOver h.hasItem h.twins

theorem Regular.mem_iff_of_signature_eq (hg : g.WellFormed) {I J : ItemSet} (hI : g.Regular I)
    (hJ : g.Regular J) (h : I.signature = J.signature) (i : Item) : i ∈ I ↔ i ∈ J :=
  Grammar.mem_iff_of_signature_eq hg hI.hasItem hJ.hasItem hI.ne_nil hJ.ne_nil hI.twins hJ.twins h i

/-- All items over the productions and terminals of the grammar. -/
def allItems (g : Grammar) : List Item :=
  g.productions.flatMap fun p =>
    (List.range (p.rhs.length + 1)).flatMap fun dot => g.terminals.map fun a => ⟨p, dot, a⟩

theorem mem_allItems {i : Item} : i ∈ g.allItems ↔ g.HasItem i := by
  simp only [allItems, List.mem_flatMap, List.mem_range, List.mem_map]
  constructor
  · rintro ⟨p, hp, dot, hdot, a, ha, rfl⟩
    exact ⟨hp, Nat.lt_succ_iff.mp hdot, ha⟩
  · intro h
    exact ⟨i.production, h.production_mem, i.dot, Nat.lt_succ_iff.mpr h.dot_le, i.lookahead,
      h.lookahead_mem, rfl⟩

theorem length_allItems (g : Grammar) : g.allItems.length = g.itemCount := by
  unfold allItems itemCount
  generalize g.terminals = terminals
  induction g.productions with
  | nil => rfl
  | cons p ps ih =>
    rw [List.flatMap_cons, List.length_append, ih, List.foldr_cons]
    simp [List.length_flatMap]

/-- Regular sets with different signatures differ as sets of items. -/
theorem length_le_card_of_regular {sets : List SignedSet} (hregular : ∀ set ∈ sets, g.Regular set.items)
    (hdistinct : (sets.map SignedSet.signature).Nodup) : sets.length ≤ g.allItems.toFinset.powerset.card := by
  classical
  have hnodup : (sets.map fun set => set.items.toFinset).Nodup := by
    rw [List.Nodup, List.pairwise_map] at hdistinct ⊢
    apply hdistinct.imp_of_mem
    intro I J hI hJ hne heq
    apply hne
    rw [I.signature_eq, J.signature_eq]
    apply signature_eq_of_mem_iff (hregular I hI).nodup (hregular J hJ).nodup
    intro i
    rw [← List.mem_toFinset, heq, List.mem_toFinset]
  have hsubset : (sets.map fun set => set.items.toFinset).toFinset ⊆ g.allItems.toFinset.powerset := by
    intro s hs
    obtain ⟨set, hset, rfl⟩ := List.mem_map.mp (List.mem_toFinset.mp hs)
    rw [Finset.mem_powerset]
    intro i hi
    rw [List.mem_toFinset] at hi ⊢
    exact mem_allItems.mpr ((hregular set hset).hasItem i hi)
  calc sets.length
    _ = (sets.map fun set => set.items.toFinset).toFinset.card := by
      rw [List.toFinset_card_of_nodup hnodup, List.length_map]
    _ ≤ g.allItems.toFinset.powerset.card := Finset.card_le_card hsubset

theorem length_le_of_regular {sets : List SignedSet} (hregular : ∀ set ∈ sets, g.Regular set.items)
    (hdistinct : (sets.map SignedSet.signature).Nodup) : sets.length ≤ 2 ^ g.itemCount :=
  calc sets.length
    _ ≤ g.allItems.toFinset.powerset.card := length_le_card_of_regular hregular hdistinct
    _ = 2 ^ g.allItems.toFinset.card := Finset.card_powerset _
    _ ≤ 2 ^ g.allItems.length := Nat.pow_le_pow_right (by decide) (List.toFinset_card_le _)
    _ = 2 ^ g.itemCount := by rw [length_allItems]

end CanonicalLR.Grammar
