import CanonicalLR.Proofs.Discovery

/-! # The same rules in another order

Another order of the rules gives the productions other numbers, and nothing else. So items are compared by their
cores: the rule, the dot and the lookahead. FIRST facts, closures and GOTO of the two grammars agree up to the
numbers, and so every state of the one automaton has exactly one state of the other with the same cores, as often
as the rules are written.
-/
namespace CanonicalLR

namespace ItemSet

variable {I J : ItemSet} {X : Symbol}

/-- Every item of the first set has its core in the second one. -/
def CoveredBy (I J : ItemSet) : Prop := ∀ i ∈ I, ∃ j ∈ J, j.core = i.core

/-- The sets have the same cores. -/
structure Alike (I J : ItemSet) : Prop where
  covered : I.CoveredBy J
  covers : J.CoveredBy I

theorem Alike.symm (h : I.Alike J) : J.Alike I := ⟨h.covers, h.covered⟩

theorem CoveredBy.trans {K : ItemSet} (h : I.CoveredBy J) (h' : J.CoveredBy K) : I.CoveredBy K := by
  intro i hi
  obtain ⟨j, hj, hji⟩ := h i hi
  obtain ⟨k, hk, hkj⟩ := h' j hj
  exact ⟨k, hk, hkj.trans hji⟩

theorem Alike.trans {K : ItemSet} (h : I.Alike J) (h' : J.Alike K) : I.Alike K :=
  ⟨h.covered.trans h'.covered, h'.covers.trans h.covers⟩

theorem alike_of_mem_iff (h : ∀ i, i ∈ I ↔ i ∈ J) : I.Alike J :=
  ⟨fun i hi => ⟨i, (h i).mp hi, rfl⟩, fun i hi => ⟨i, (h i).mpr hi, rfl⟩⟩

end ItemSet

namespace Item

variable {i j : Item} {X : Symbol}

theorem rhs_eq_of_core_eq (h : i.core = j.core) : i.production.rhs = j.production.rhs :=
  congrArg (fun c => c.1.rhs) h

theorem dot_eq_of_core_eq (h : i.core = j.core) : i.dot = j.dot := congrArg (fun c => c.2.1) h

theorem lookahead_eq_of_core_eq (h : i.core = j.core) : i.lookahead = j.lookahead := congrArg (fun c => c.2.2) h

theorem next?_eq_of_core_eq (h : i.core = j.core) : i.next? = j.next? := by
  rw [next?, next?, rhs_eq_of_core_eq h, dot_eq_of_core_eq h]

theorem core_advance_eq (h : i.core = j.core) : i.advance.core = j.advance.core := by
  have hrule : i.production.rule = j.production.rule := congrArg Prod.fst h
  simp only [core, advance, hrule, dot_eq_of_core_eq h, lookahead_eq_of_core_eq h]

end Item

theorem ItemSet.CoveredBy.advanceOver {I J : ItemSet} (h : I.CoveredBy J) (X : Symbol) :
    (I.advanceOver X).CoveredBy (J.advanceOver X) := by
  intro k hk
  obtain ⟨i, hi, hnext, rfl⟩ := ItemSet.mem_advanceOver.mp hk
  obtain ⟨j, hj, hcore⟩ := h i hi
  exact ⟨j.advance, ItemSet.mem_advanceOver.mpr ⟨j, hj, (Item.next?_eq_of_core_eq hcore).trans hnext, rfl⟩,
    Item.core_advance_eq hcore⟩

theorem ItemSet.CoveredBy.mem_nextSymbols {I J : ItemSet} (h : I.CoveredBy J) {X : Symbol} (hX : X ∈ I.nextSymbols) :
    X ∈ J.nextSymbols := by
  obtain ⟨i, hi, hnext⟩ := ItemSet.mem_nextSymbols.mp hX
  obtain ⟨j, hj, hcore⟩ := h i hi
  exact ItemSet.mem_nextSymbols.mpr ⟨j, hj, (Item.next?_eq_of_core_eq hcore).trans hnext⟩

namespace Grammar

variable {g g' : Grammar} {I J : ItemSet} {i j : Item} {p : Production} {X a : Symbol}

/-- The second grammar has the rules of the first one in another order, and the same start symbol. -/
structure Reorders (g g' : Grammar) : Prop where
  rules_perm : g.rules.Perm g'.rules
  start_eq : g.start = g'.start

namespace Reorders

theorem symm (h : g.Reorders g') : g'.Reorders g := ⟨h.rules_perm.symm, h.start_eq.symm⟩

variable (h : g.Reorders g')
include h

theorem augmentedProduction_eq : g.augmentedProduction = g'.augmentedProduction := by
  rw [augmentedProduction, augmentedProduction, augmentedStart, augmentedStart, h.start_eq]

theorem startItem_eq : g.startItem = g'.startItem := by
  rw [startItem, startItem, h.augmentedProduction_eq]

theorem map_rule_perm : (g.productions.map Production.rule).Perm (g'.productions.map Production.rule) := by
  rw [map_rule_productions, map_rule_productions, h.augmentedProduction_eq]
  exact h.rules_perm.cons _

theorem exists_production (hp : p ∈ g.productions) : ∃ q ∈ g'.productions, q.rule = p.rule :=
  List.mem_map.mp (h.map_rule_perm.mem_iff.mp (List.mem_map_of_mem hp))

theorem mem_writtenTerminals (ha : a ∈ g.writtenTerminals) : a ∈ g'.writtenTerminals := by
  rw [writtenTerminals, Distinct.mem_ofList, List.mem_flatMap] at ha ⊢
  obtain ⟨rule, hrule, ha⟩ := ha
  exact ⟨rule, h.rules_perm.mem_iff.mp hrule, ha⟩

theorem mem_terminals (ha : a ∈ g.terminals) : a ∈ g'.terminals := by
  rw [terminals, List.mem_append] at ha ⊢
  exact ha.imp_left h.mem_writtenTerminals

theorem hasItem (hi : g.HasItem i) (hj : j.production ∈ g'.productions) (hcore : j.core = i.core) : g'.HasItem j where
  production_mem := hj
  dot_le := by
    rw [Item.dot_eq_of_core_eq hcore, Item.rhs_eq_of_core_eq hcore]
    exact hi.dot_le
  lookahead_mem := by
    rw [Item.lookahead_eq_of_core_eq hcore]
    exact h.mem_terminals hi.lookahead_mem

/-- The facts of the one grammar respect the productions of the other. -/
theorem mem_firstFacts (hg' : g'.WellFormed) : ∀ fact ∈ g.firstFacts, fact ∈ g'.firstFacts := by
  have hrespects : g.Respects g'.firstFacts := by
    intro p hp x hx
    obtain ⟨q, hq, hrule⟩ := h.exists_production hp
    obtain ⟨hlhs, hrhs⟩ := Rule.mk.inj hrule
    rw [← hlhs]
    rw [← hrhs] at hx
    exact respects_firstFacts hg' q hq x hx
  exact hrespects.mem_of_mem_firstFacts

theorem follows (hg' : g'.WellFormed) (hcore : j.core = i.core) (hfollows : g.Follows i a) : g'.Follows j a := by
  refine ⟨?_, hfollows.2⟩
  rw [Item.rhs_eq_of_core_eq hcore, Item.dot_eq_of_core_eq hcore, Item.lookahead_eq_of_core_eq hcore]
  exact FirstFacts.mem_ofSequence_of_subset (h.mem_firstFacts hg') hfollows.1

theorem exists_prediction (hg' : g'.WellFormed) (hcore : j.core = i.core) {k : Item}
    (hk : k ∈ g.predictor.predictions i) : ∃ l ∈ g'.predictor.predictions j, l.core = k.core := by
  obtain ⟨X, hnext, hX, hp, hlhs, hdot, hfollows⟩ := mem_predictions.mp hk
  obtain ⟨q, hq, hrule⟩ := h.exists_production hp
  refine ⟨⟨q, 0, k.lookahead⟩, mem_predictions.mpr ⟨X, ?_, hX, hq, ?_, rfl, h.follows hg' hcore hfollows⟩, ?_⟩
  · rw [Item.next?_eq_of_core_eq hcore, hnext]
  · rw [← hlhs]
    exact congrArg Rule.lhs hrule
  · rw [Item.core, Item.core, hrule, hdot]

theorem coveredBy_closure (hg' : g'.WellFormed) (hJ : ∀ j ∈ J, g'.HasItem j) (hcovered : I.CoveredBy J) :
    (g.closure I).CoveredBy (g'.closure J) := by
  apply closure_induction
  · intro i hi
    obtain ⟨j, hj, hcore⟩ := hcovered i hi
    exact ⟨j, mem_closure_of_mem hj, hcore⟩
  · rintro i ⟨j, hj, hcore⟩ k hk
    obtain ⟨l, hl, hcore'⟩ := h.exists_prediction hg' hcore hk
    exact ⟨l, mem_closure_of_mem_predictions hg' (fun j hj => (hJ j hj).admits) hj hl, hcore'⟩

theorem coveredBy_goto (hg' : g'.WellFormed) (hJ : ∀ j ∈ J, g'.HasItem j) (hcovered : I.CoveredBy J) (X : Symbol) :
    (g.goto I X).CoveredBy (g'.goto J X) :=
  h.coveredBy_closure hg' (hasItem_of_mem_advanceOver hJ) (hcovered.advanceOver X)

theorem alike_goto (hg : g.WellFormed) (hg' : g'.WellFormed) (hI : ∀ i ∈ I, g.HasItem i) (hJ : ∀ j ∈ J, g'.HasItem j)
    (halike : I.Alike J) (X : Symbol) : (g.goto I X).Alike (g'.goto J X) :=
  ⟨h.coveredBy_goto hg' hJ halike.covered X, h.symm.coveredBy_goto hg hI halike.covers X⟩

theorem alike_start (hg : g.WellFormed) (hg' : g'.WellFormed) :
    (g.closure [g.startItem]).Alike (g'.closure [g'.startItem]) := by
  have hstart : ∀ {f : Grammar}, ∀ i ∈ [f.startItem], f.HasItem i := by
    intro f i hi
    rw [List.mem_singleton.mp hi]
    exact hasItem_startItem f
  constructor
  · exact h.coveredBy_closure hg' hstart (h.startItem_eq ▸ fun i hi => ⟨i, hi, rfl⟩)
  · exact h.symm.coveredBy_closure hg hstart (h.startItem_eq ▸ fun i hi => ⟨i, hi, rfl⟩)

theorem exists_collected (hg : g.WellFormed) (hg' : g'.WellFormed) (hI : g.Collected I) :
    ∃ J, g'.Collected J ∧ I.Alike J := by
  induction hI with
  | start => exact ⟨_, .start, h.alike_start hg hg'⟩
  | @goto I hI X ne_nil ih =>
    obtain ⟨J, hJ, halike⟩ := ih
    have hgoto := h.alike_goto hg hg' (hI.regular hg).hasItem (hJ.regular hg').hasItem halike X
    refine ⟨g'.goto J X, .goto hJ X ?_, hgoto⟩
    obtain ⟨i, hi⟩ := List.exists_mem_of_ne_nil _ ne_nil
    obtain ⟨j, hj, -⟩ := hgoto.covered i hi
    exact List.ne_nil_of_mem hj

end Reorders

theorem mem_of_alike (hI : g.Regular I) (hJ : g.Regular J) (halike : I.Alike J) : ∀ i, i ∈ I ↔ i ∈ J := by
  intro i
  constructor
  · intro hi
    obtain ⟨j, hj, hcore⟩ := halike.covered i hi
    exact hJ.twins j hj i (hI.hasItem i hi) hcore
  · intro hi
    obtain ⟨j, hj, hcore⟩ := halike.covers i hi
    exact hI.twins j hj i (hJ.hasItem i hi) hcore

/-- A core is in a regular set as often as its rule is written. -/
theorem Regular.count_core (hI : g.Regular I) (hi : i ∈ I) :
    (I.map Item.core).count i.core = (g.productions.map Production.rule).count i.production.rule := by
  have hperm : (I.filter fun j => j.core = i.core).Perm
      ((g.productions.filter fun p => p.rule = i.production.rule).map fun p => ⟨p, i.dot, i.lookahead⟩) := by
    rw [List.perm_ext_iff_of_nodup (hI.nodup.filter _)
      (((nodup_productions g).filter _).map fun p q hpq => congrArg Item.production hpq)]
    intro j
    simp only [List.mem_filter, List.mem_map, decide_eq_true_eq]
    constructor
    · rintro ⟨hj, hcore⟩
      refine ⟨j.production, ⟨(hI.hasItem j hj).production_mem, congrArg Prod.fst hcore⟩, ?_⟩
      rw [← Item.dot_eq_of_core_eq hcore, ← Item.lookahead_eq_of_core_eq hcore]
    · rintro ⟨p, ⟨hp, hrule⟩, rfl⟩
      have hitem := hI.hasItem i hi
      have hrhs : p.rhs = i.production.rhs := congrArg Rule.rhs hrule
      have hcore : (⟨p, i.dot, i.lookahead⟩ : Item).core = i.core := by rw [Item.core, Item.core, hrule]
      exact ⟨hI.twins i hi _ ⟨hp, hrhs ▸ hitem.dot_le, hitem.lookahead_mem⟩ hcore.symm, hcore⟩
  calc (I.map Item.core).count i.core
    _ = (I.filter fun j => j.core = i.core).length := by
      rw [List.count, List.countP_map, List.countP_eq_length_filter]
      simp only [Function.comp_def, beq_eq_decide]
    _ = (g.productions.filter fun p => p.rule = i.production.rule).length := by
      rw [hperm.length_eq, List.length_map]
    _ = (g.productions.map Production.rule).count i.production.rule := by
      rw [List.count, List.countP_map, List.countP_eq_length_filter]
      simp only [Function.comp_def, beq_eq_decide]

/-- Alike regular sets have the same cores, each of them as often. -/
theorem Reorders.map_core_perm (h : g.Reorders g') (hI : g.Regular I) (hJ : g'.Regular J) (halike : I.Alike J) :
    (I.map Item.core).Perm (J.map Item.core) := by
  rw [List.perm_iff_count]
  intro c
  by_cases hc : c ∈ I.map Item.core
  · obtain ⟨i, hi, rfl⟩ := List.mem_map.mp hc
    obtain ⟨j, hj, hcore⟩ := halike.covered i hi
    have hrule : j.production.rule = i.production.rule := congrArg Prod.fst hcore
    rw [hI.count_core hi, ← hcore, hJ.count_core hj, hrule]
    exact h.map_rule_perm.count_eq _
  · have hc' : c ∉ J.map Item.core := by
      intro hmem
      obtain ⟨j, hj, rfl⟩ := List.mem_map.mp hmem
      obtain ⟨i, hi, hcore⟩ := halike.covers j hj
      exact hc (List.mem_map.mpr ⟨i, hi, hcore⟩)
    rw [List.count_eq_zero_of_not_mem hc, List.count_eq_zero_of_not_mem hc']

end Grammar

end CanonicalLR
