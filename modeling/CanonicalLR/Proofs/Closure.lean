import CanonicalLR.ItemSet
import CanonicalLR.Proofs.First

/-! # Closure is the least closed set

Over items of the grammar with terminal lookaheads the passes of the closure come to rest: what they
add is a production at dot 0 with a terminal of the grammar or with a lookahead given before. So the
closure holds the predictions of all its items, and nothing else beside the items it was given.
-/
namespace CanonicalLR

namespace Item

theorem next?_eq_some_iff {i : Item} {X : Symbol} :
    i.next? = some X ↔ ∃ h : i.dot < i.production.rhs.length, i.production.rhs[i.dot] = X :=
  List.getElem?_eq_some_iff

theorem mem_rhs_of_next? {i : Item} {X : Symbol} (h : i.next? = some X) : X ∈ i.production.rhs :=
  List.mem_of_getElem? h

theorem rhs_eq_of_next? {i : Item} {X : Symbol} (h : i.next? = some X) :
    i.production.rhs = i.production.rhs.take i.dot ++ X :: i.production.rhs.drop (i.dot + 1) := by
  obtain ⟨hlt, rfl⟩ := next?_eq_some_iff.mp h
  rw [← List.drop_eq_getElem_cons hlt, List.take_append_drop]

end Item

namespace ItemSet

theorem mem_advanceOver {items : ItemSet} {X : Symbol} {j : Item} :
    j ∈ items.advanceOver X ↔ ∃ i ∈ items, i.next? = some X ∧ j = i.advance := by
  simp only [advanceOver, List.mem_map, List.mem_filter, decide_eq_true_eq]
  constructor
  · rintro ⟨i, ⟨hi, hnext⟩, rfl⟩
    exact ⟨i, hi, hnext, rfl⟩
  · rintro ⟨i, hi, hnext, rfl⟩
    exact ⟨i, ⟨hi, hnext⟩, rfl⟩

theorem mem_nextSymbols {items : ItemSet} {X : Symbol} :
    X ∈ items.nextSymbols ↔ ∃ i ∈ items, i.next? = some X := by
  simp [nextSymbols, Distinct.mem_ofList]

end ItemSet

theorem Predictor.mem_lookaheads {P : Predictor} {i : Item} {a : Symbol} :
    a ∈ P.lookaheads i ↔
      a ∈ P.facts.ofSequence (i.production.rhs.drop (i.dot + 1) ++ [i.lookahead]) ∧ a ≠ .epsilon := by
  simp only [lookaheads, List.mem_append, List.mem_filter, decide_eq_true_eq]
  constructor
  · rintro (⟨-, h⟩ | ⟨h, -⟩) <;> exact h
  · intro h
    by_cases ha : a ∈ P.terminals
    · exact Or.inl ⟨ha, h⟩
    · exact Or.inr ⟨h, ha⟩

namespace Grammar

variable {g : Grammar} {items more : ItemSet} {i j : Item} {a X : Symbol}

/-- The item has a production of the grammar and a terminal, known or not, as its lookahead. -/
def Admits (g : Grammar) (i : Item) : Prop :=
  i.production ∈ g.productions ∧ i.lookahead.isTerminal = true

/-- The terminal can follow the symbol after the dot, before the lookahead does. -/
def Follows (g : Grammar) (i : Item) (a : Symbol) : Prop :=
  a ∈ g.first (i.production.rhs.drop (i.dot + 1) ++ [i.lookahead]) ∧ a ≠ .epsilon

theorem mem_predictions : j ∈ g.predictor.predictions i ↔
    ∃ X, i.next? = some X ∧ X.isNonterminal = true ∧ j.production ∈ g.productions ∧
      j.production.lhs = X ∧ j.dot = 0 ∧ g.Follows i j.lookahead := by
  rw [Predictor.mem_predictions]
  simp only [Predictor.productionsFor, List.mem_filter, decide_eq_true_eq, Predictor.mem_lookaheads,
    and_assoc]
  rfl

theorem Follows.mem_writtenTerminals_or_eq (hg : g.WellFormed) (hi : g.Admits i) (h : g.Follows i a) :
    a ∈ g.writtenTerminals ∨ a = i.lookahead := by
  obtain ⟨hfirst, hne⟩ := h
  have hdrop : ∀ X ∈ i.production.rhs.drop (i.dot + 1), X.isNonterminal = true ∨ X ∈ g.writtenTerminals :=
    fun X hX => rhs_nonterminal_or_writtenTerminal hg hi.1 X (List.mem_of_mem_drop hX)
  have hepsilon : ∀ X ∈ i.production.rhs.drop (i.dot + 1), X ≠ .epsilon :=
    fun X hX => rhs_ne_epsilon hg hi.1 X (List.mem_of_mem_drop hX)
  rcases (FirstFacts.mem_ofSequence_append hepsilon).mp hfirst with ⟨hfirst, -⟩ | ⟨-, hfirst⟩
  · rcases List.mem_cons.mp
      (mem_firstRange_of_mem_ofSequence (factsInRange_firstFacts hg) hdrop hfirst) with ha | ha
    · exact absurd ha hne
    · exact Or.inl ha
  · have hlookahead : i.lookahead.isNonterminal = false := by
      rw [Symbol.eq_terminal_of_isTerminal hi.2]
      rfl
    exact Or.inr ((FirstFacts.mem_ofSequence_cons_of_not_isNonterminal hlookahead).mp hfirst)

theorem Admits.of_mem_predictions (hg : g.WellFormed) (hi : g.Admits i)
    (hj : j ∈ g.predictor.predictions i) : g.Admits j := by
  obtain ⟨X, -, -, hp, -, -, hfollows⟩ := mem_predictions.mp hj
  refine ⟨hp, ?_⟩
  rcases hfollows.mem_writtenTerminals_or_eq hg hi with ha | ha
  · exact isTerminal_of_mem_terminals (List.mem_append_left _ ha)
  · rw [ha]
    exact hi.2

/-- What the passes of a closure keep. -/
structure Closing (g : Grammar) (items found : ItemSet) : Prop where
  nodup : found.Nodup
  admits : ∀ i ∈ found, g.Admits i
  given_or_new : ∀ i ∈ found, i ∈ items ∨ i.dot = 0 ∧ i.lookahead ∈ g.terminals ++ items.map Item.lookahead

theorem Closing.ofList (hitems : ∀ i ∈ items, g.Admits i) : g.Closing items (Distinct.ofList items) where
  nodup := Distinct.nodup_ofList items
  admits i hi := hitems i (Distinct.mem_ofList.mp hi)
  given_or_new _ hi := Or.inl (Distinct.mem_ofList.mp hi)

theorem Closing.closurePass (hg : g.WellFormed) {found : ItemSet} (h : g.Closing items found) :
    g.Closing items (g.predictor.closurePass found) where
  nodup := Distinct.nodup_extend h.nodup _
  admits j hj := by
    rcases Predictor.mem_closurePass.mp hj with hj | ⟨i, hi, hj⟩
    · exact h.admits j hj
    · exact (h.admits i hi).of_mem_predictions hg hj
  given_or_new j hj := by
    rcases Predictor.mem_closurePass.mp hj with hj | ⟨i, hi, hj⟩
    · exact h.given_or_new j hj
    · obtain ⟨X, -, -, hp, -, hdot, hfollows⟩ := mem_predictions.mp hj
      refine Or.inr ⟨hdot, ?_⟩
      rcases hfollows.mem_writtenTerminals_or_eq hg (h.admits i hi) with ha | ha
      · exact List.mem_append_left _ (List.mem_append_left _ ha)
      · rw [ha]
        rcases h.given_or_new i hi with hgiven | ⟨-, hlookahead⟩
        · exact List.mem_append_right _ (List.mem_map_of_mem hgiven)
        · exact hlookahead

theorem Closing.length_le {found : ItemSet} (h : g.Closing items found) :
    found.length ≤ (Distinct.ofList items).length +
      g.productions.length * (g.terminals.length + items.length) := by
  let new := (g.productions ×ˢ (g.terminals ++ items.map Item.lookahead)).map
    fun (p, a) => (⟨p, 0, a⟩ : Item)
  have hsubset : found ⊆ Distinct.ofList items ++ new := by
    rintro ⟨p, dot, a⟩ hi
    rw [List.mem_append]
    rcases h.given_or_new _ hi with hgiven | ⟨hdot, ha⟩
    · exact Or.inl (Distinct.mem_ofList.mpr hgiven)
    · cases hdot
      exact Or.inr (List.mem_map.mpr ⟨(p, a), List.mem_product.mpr ⟨(h.admits _ hi).1, ha⟩, rfl⟩)
  have hlength := (h.nodup.subperm hsubset).length_le
  simpa [new, List.length_product] using hlength

theorem prefix_closurePass (P : Predictor) (found : ItemSet) : found <+: P.closurePass found := by
  obtain ⟨new, hnew⟩ := Distinct.append_of_extend found (found.flatMap P.predictions)
  exact ⟨new, hnew.symm⟩

theorem closing_closure (hg : g.WellFormed) (hitems : ∀ i ∈ items, g.Admits i) :
    g.Closing items (g.closure items) :=
  saturate_induction (fun _ h => h.closurePass hg) _ (.ofList hitems)

theorem closurePass_closure (hg : g.WellFormed) (hitems : ∀ i ∈ items, g.Admits i) :
    g.predictor.closurePass (g.closure items) = g.closure items := by
  apply step_saturate_of_prefix _ (g.Closing items) (prefix_closurePass g.predictor)
    (fun _ h => h.closurePass hg) (fun _ h => h.length_le) (.ofList hitems)
  change _ < g.productions.length * (g.terminals.length + items.length) + 1 + _
  omega

theorem nodup_closure (hg : g.WellFormed) (hitems : ∀ i ∈ items, g.Admits i) : (g.closure items).Nodup :=
  (closing_closure hg hitems).nodup

theorem mem_closure_of_mem (h : i ∈ items) : i ∈ g.closure items := by
  have hkept : ∀ found, i ∈ found → i ∈ g.predictor.closurePass found :=
    fun found hi => Predictor.mem_closurePass.mpr (Or.inl hi)
  exact saturate_induction hkept _ (Distinct.mem_ofList.mpr h)

theorem mem_closure_of_mem_predictions (hg : g.WellFormed) (hitems : ∀ i ∈ items, g.Admits i)
    (hi : i ∈ g.closure items) (hj : j ∈ g.predictor.predictions i) : j ∈ g.closure items := by
  rw [← closurePass_closure hg hitems]
  exact Predictor.mem_closurePass.mpr (Or.inr ⟨i, hi, hj⟩)

theorem admits_of_mem_advanceOver (hitems : ∀ i ∈ items, g.Admits i) : ∀ i ∈ items.advanceOver X, g.Admits i := by
  intro i hi
  obtain ⟨j, hj, -, rfl⟩ := ItemSet.mem_advanceOver.mp hi
  exact hitems j hj

theorem closure_induction {K : Item → Prop} (hitems : ∀ i ∈ items, K i)
    (hpredictions : ∀ i, K i → ∀ j ∈ g.predictor.predictions i, K j) : ∀ i ∈ g.closure items, K i := by
  have hkept : ∀ found : ItemSet, (∀ i ∈ found, K i) → ∀ i ∈ g.predictor.closurePass found, K i := by
    intro found hfound j hj
    rcases Predictor.mem_closurePass.mp hj with hj | ⟨i, hi, hj⟩
    · exact hfound j hj
    · exact hpredictions i (hfound i hi) j hj
  exact saturate_induction hkept _ fun i hi => hitems i (Distinct.mem_ofList.mp hi)

theorem mem_closure_of_subset (hg : g.WellFormed) (hmore : ∀ i ∈ more, g.Admits i)
    (h : ∀ i ∈ items, i ∈ g.closure more) : ∀ i ∈ g.closure items, i ∈ g.closure more :=
  closure_induction h fun _ hi _ hj => mem_closure_of_mem_predictions hg hmore hi hj

/-- GOTO depends on what is in the set only. -/
theorem mem_goto_of_subset (hg : g.WellFormed) (hmore : ∀ i ∈ more, g.Admits i) (h : ∀ i ∈ items, i ∈ more) :
    ∀ i ∈ g.goto items X, i ∈ g.goto more X := by
  apply mem_closure_of_subset hg (admits_of_mem_advanceOver hmore)
  intro i hi
  obtain ⟨j, hj, hnext, rfl⟩ := ItemSet.mem_advanceOver.mp hi
  exact mem_closure_of_mem (ItemSet.mem_advanceOver.mpr ⟨j, h j hj, hnext, rfl⟩)

/-- An item that was not given is predicted by another item of the closure. -/
theorem mem_closure_cases (hj : j ∈ g.closure items) :
    j ∈ items ∨ ∃ i ∈ g.closure items, j ∈ g.predictor.predictions i := by
  have hkept : ∀ found : ItemSet,
      (∀ j ∈ found, j ∈ items ∨ ∃ i ∈ found, j ∈ g.predictor.predictions i) →
        ∀ j ∈ g.predictor.closurePass found,
          j ∈ items ∨ ∃ i ∈ g.predictor.closurePass found, j ∈ g.predictor.predictions i := by
    intro found hfound j hj
    have hold : ∀ i ∈ found, i ∈ g.predictor.closurePass found :=
      fun i hi => Predictor.mem_closurePass.mpr (Or.inl hi)
    rcases Predictor.mem_closurePass.mp hj with hj | ⟨i, hi, hj⟩
    · rcases hfound j hj with hj | ⟨i, hi, hj⟩
      · exact Or.inl hj
      · exact Or.inr ⟨i, hold i hi, hj⟩
    · exact Or.inr ⟨i, hold i hi, hj⟩
  exact saturate_induction hkept _ (fun j hj => Or.inl (Distinct.mem_ofList.mp hj)) j hj

/-- Items over the productions and terminals of the grammar. -/
structure HasItem (g : Grammar) (i : Item) : Prop where
  production_mem : i.production ∈ g.productions
  dot_le : i.dot ≤ i.production.rhs.length
  lookahead_mem : i.lookahead ∈ g.terminals

theorem HasItem.admits (h : g.HasItem i) : g.Admits i :=
  ⟨h.production_mem, isTerminal_of_mem_terminals h.lookahead_mem⟩

theorem HasItem.of_mem_predictions (hg : g.WellFormed) (hi : g.HasItem i)
    (hj : j ∈ g.predictor.predictions i) : g.HasItem j := by
  obtain ⟨X, -, -, hp, -, hdot, hfollows⟩ := mem_predictions.mp hj
  refine ⟨hp, by omega, ?_⟩
  rcases hfollows.mem_writtenTerminals_or_eq hg hi.admits with ha | ha
  · exact List.mem_append_left _ ha
  · rw [ha]
    exact hi.lookahead_mem

theorem HasItem.advance {X : Symbol} (h : g.HasItem i) (hnext : i.next? = some X) : g.HasItem i.advance where
  production_mem := h.production_mem
  dot_le := (Item.next?_eq_some_iff.mp hnext).1
  lookahead_mem := h.lookahead_mem

theorem hasItem_startItem (g : Grammar) : g.HasItem ⟨g.augmentedProduction, 0, .endMarker⟩ where
  production_mem := augmentedProduction_mem g
  dot_le := Nat.zero_le _
  lookahead_mem := List.mem_append_right _ List.mem_cons_self

end Grammar

end CanonicalLR
