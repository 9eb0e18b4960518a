import CanonicalLR.Proofs.Rest

/-! # Rules out of reach

The construction starts from the start symbol and only ever turns to the productions of a nonterminal that stands on a
right side it has come to. So rules may be added for nonterminals that it cannot reach: the FIRST sets of the others
stay, and so do the predictions of their items, in the same order, since the terminals of the added rules come after
the old ones and follow nothing. Then closure and GOTO give the same lists.
-/
namespace CanonicalLR.Grammar

variable {g : Grammar} {added : List Rule} {A X x a : Symbol} {p : Production} {i j : Item} {items : ItemSet}

/-- The grammar with further rules behind its own. -/
def extend (g : Grammar) (added : List Rule) : Grammar := ⟨g.start, g.rules ++ added⟩

/-- The least set of symbols that holds the start symbol and, with the left side of a rule, the nonterminals of its
right side. -/
inductive Reaches (g : Grammar) : Symbol → Prop
  | start : g.Reaches g.start
  | rule {rule : Rule} {X : Symbol} (lhs_reached : g.Reaches rule.lhs) (mem : rule ∈ g.rules) (rhs_mem : X ∈ rule.rhs)
      (nonterminal : X.isNonterminal = true) : g.Reaches X

theorem Reaches.mem_of_closed (symbols : List Symbol) (hstart : g.start ∈ symbols)
    (hclosed : ∀ rule ∈ g.rules, rule.lhs ∈ symbols → ∀ X ∈ rule.rhs, X.isNonterminal = true → X ∈ symbols)
    (h : g.Reaches X) : X ∈ symbols := by
  induction h with
  | start => exact hstart
  | rule lhs_reached mem rhs_mem nonterminal ih => exact hclosed _ mem ih _ rhs_mem nonterminal

/-- The fresh start symbol reaches the start symbol, and nothing reaches it. -/
def Live (g : Grammar) (X : Symbol) : Prop := X = g.augmentedStart ∨ g.Reaches X

theorem Live.of_mem_rhs (hg : g.WellFormed) (hp : p ∈ g.productions) (hlive : g.Live p.lhs) (hX : X ∈ p.rhs)
    (hnonterminal : X.isNonterminal = true) : g.Live X := by
  by_cases hid : p.id = 0
  · rw [eq_augmentedProduction_of_id_eq_zero hp hid] at hX
    rw [List.mem_singleton.mp hX]
    exact Or.inr .start
  · rcases hlive with hlhs | hreached
    · exact absurd (hlhs ▸ lhs_written hg hp hid) (not_isWritten_augmentedStart g)
    · exact Or.inr (.rule hreached (mem_rules_of_id_ne_zero hp hid) hX hnonterminal)

/-- The grammar does not reach the left sides of the added rules, not even with their help. -/
structure Inert (g : Grammar) (added : List Rule) : Prop where
  wellFormed : g.WellFormed
  extended : (g.extend added).WellFormed
  unreached : ∀ rule ∈ added, ¬ (g.extend added).Reaches rule.lhs

/-- The productions of the added rules. -/
def addedProductions (g : Grammar) (added : List Rule) : List Production :=
  (added.zipIdx (1 + g.rules.length)).map fun (rule, id) => ⟨id, rule.lhs, rule.rhs⟩

theorem productions_extend (g : Grammar) (added : List Rule) :
    (g.extend added).productions = g.productions ++ g.addedProductions added := by
  simp only [productions, extend, addedProductions, List.zipIdx_append, List.map_append, List.cons_append]
  rfl

theorem exists_writtenTerminals_extend (g : Grammar) (added : List Rule) :
    ∃ new, (g.extend added).writtenTerminals = g.writtenTerminals ++ new := by
  obtain ⟨new, hnew⟩ := Distinct.append_of_extend g.writtenTerminals
    (added.flatMap fun rule => rule.rhs.filter Symbol.isTerminal)
  refine ⟨new, ?_⟩
  rw [← hnew]
  simp only [writtenTerminals, extend, List.flatMap_append, Distinct.ofList, Distinct.extend, List.foldl_append]

theorem mem_terminals_extend (h : a ∈ g.terminals) : a ∈ (g.extend added).terminals := by
  obtain ⟨new, hnew⟩ := g.exists_writtenTerminals_extend added
  rw [terminals, List.mem_append] at h ⊢
  rw [hnew]
  exact h.imp_left (List.mem_append_left new)

namespace Inert

theorem not_live (h : g.Inert added) (hp : p ∈ g.addedProductions added) : ¬ (g.extend added).Live p.lhs := by
  obtain ⟨⟨rule, id⟩, hmem, rfl⟩ := List.mem_map.mp hp
  have hrule : rule ∈ added := List.fst_mem_of_mem_zipIdx hmem
  rintro (hlhs | hreached)
  · apply not_isWritten_augmentedStart (g.extend added)
    rw [← hlhs]
    exact (h.extended.lhs_written rule (List.mem_append_right g.rules hrule)).1
  · exact h.unreached rule hrule hreached

theorem mem_productions_iff (h : g.Inert added) (hlive : (g.extend added).Live p.lhs) :
    p ∈ (g.extend added).productions ↔ p ∈ g.productions := by
  rw [productions_extend, List.mem_append, or_iff_left]
  exact fun hp => h.not_live hp hlive

theorem productionsFor_eq (h : g.Inert added) (hlive : (g.extend added).Live A) :
    (g.extend added).productionsFor A = g.productionsFor A := by
  have hnone : (g.addedProductions added).filter (·.lhs = A) = [] := by
    rw [List.filter_eq_nil_iff]
    intro p hp hlhs
    exact h.not_live hp (of_decide_eq_true hlhs ▸ hlive)
  rw [productionsFor, productions_extend, List.filter_append, hnone, List.append_nil]
  rfl

theorem mem_productions_extend (hp : p ∈ g.productions) : p ∈ (g.extend added).productions := by
  rw [productions_extend]
  exact List.mem_append_left _ hp

theorem mem_firstFacts_extend (h : g.Inert added) : ∀ fact ∈ g.firstFacts, fact ∈ (g.extend added).firstFacts :=
  Respects.mem_of_mem_firstFacts fun p hp => respects_firstFacts h.extended p (mem_productions_extend hp)

/-- The facts about what is not reached bound the rest of the facts, so that no more is asked of the others than
before. -/
theorem mem_firstFacts_iff (h : g.Inert added) (hlive : (g.extend added).Live A) :
    (A, x) ∈ (g.extend added).firstFacts ↔ (A, x) ∈ g.firstFacts := by
  classical
  let bound := g.firstFacts ++ (g.extend added).firstFacts.filter fun fact => ¬ (g.extend added).Live fact.1
  have hbound : ∀ {B y}, (B, y) ∈ bound ↔
      (B, y) ∈ g.firstFacts ∨ (B, y) ∈ (g.extend added).firstFacts ∧ ¬ (g.extend added).Live B := by
    simp [bound]
  have hrespects : (g.extend added).Respects bound := by
    intro p hp y hy
    by_cases hlhs : (g.extend added).Live p.lhs
    · have hold := (h.mem_productions_iff hlhs).mp hp
      refine hbound.mpr (Or.inl (mem_firstFacts_of_mem_ofSequence h.wellFormed hold ?_))
      apply FirstFacts.mem_ofSequence_of_subset_on ?_ hy
      intro X hX hnonterminal z hz
      exact (hbound.mp hz).resolve_right fun hnew => hnew.2 (hlhs.of_mem_rhs h.extended hp hX hnonterminal)
    · refine hbound.mpr (Or.inr ⟨mem_firstFacts_of_mem_ofSequence h.extended hp ?_, hlhs⟩)
      apply FirstFacts.mem_ofSequence_of_subset ?_ hy
      rintro ⟨B, z⟩ hz
      exact (hbound.mp hz).elim (h.mem_firstFacts_extend _) And.left
  constructor
  · intro hfact
    exact (hbound.mp (hrespects.mem_of_mem_firstFacts _ hfact)).resolve_right fun hnew => hnew.2 hlive
  · exact h.mem_firstFacts_extend _

theorem mem_ofSequence_iff (h : g.Inert added) {symbols : List Symbol}
    (hlive : ∀ X ∈ symbols, X.isNonterminal = true → (g.extend added).Live X) :
    x ∈ (g.extend added).firstFacts.ofSequence symbols ↔ x ∈ g.firstFacts.ofSequence symbols := by
  constructor
  · exact FirstFacts.mem_ofSequence_of_subset_on fun X hX hnonterminal _ hfact =>
      (h.mem_firstFacts_iff (hlive X hX hnonterminal)).mp hfact
  · exact FirstFacts.mem_ofSequence_of_subset h.mem_firstFacts_extend

end Inert

/-- The items that the construction comes to, with or without the added rules. -/
structure LiveItem (g : Grammar) (added : List Rule) (i : Item) : Prop where
  hasItem : g.HasItem i
  live : (g.extend added).Live i.production.lhs

theorem LiveItem.extended (h : g.LiveItem added i) : (g.extend added).HasItem i where
  production_mem := Inert.mem_productions_extend h.hasItem.production_mem
  dot_le := h.hasItem.dot_le
  lookahead_mem := mem_terminals_extend h.hasItem.lookahead_mem

theorem liveItem_startItem (g : Grammar) (added : List Rule) : g.LiveItem added g.startItem where
  hasItem := hasItem_startItem g
  live := Or.inl rfl

theorem LiveItem.advance (h : g.LiveItem added i) (hnext : i.next? = some X) : g.LiveItem added i.advance where
  hasItem := h.hasItem.advance hnext
  live := h.live

theorem LiveItem.of_mem_advanceOver (h : ∀ i ∈ items, g.LiveItem added i) :
    ∀ i ∈ items.advanceOver X, g.LiveItem added i := by
  intro i hi
  obtain ⟨j, hj, hnext, rfl⟩ := ItemSet.mem_advanceOver.mp hi
  exact (h j hj).advance hnext

theorem mem_lookaheads_iff : a ∈ g.predictor.lookaheads i ↔ g.Follows i a :=
  Predictor.mem_lookaheads

theorem Follows.mem_terminals (hg : g.WellFormed) (hi : g.HasItem i) (h : g.Follows i a) : a ∈ g.terminals := by
  rcases h.mem_writtenTerminals_or_eq hg hi.admits with ha | rfl
  · exact List.mem_append_left _ ha
  · exact hi.lookahead_mem

/-- What follows is listed in the order of the terminals. -/
theorem lookaheads_eq_filter (hg : g.WellFormed) (hi : g.HasItem i) :
    g.predictor.lookaheads i = g.terminals.filter (· ∈ g.predictor.lookaheads i) := by
  have hmem : ∀ a, a ∈ g.predictor.lookaheads i ↔
      a ∈ (g.firstFacts.ofSequence (i.production.rhs.drop (i.dot + 1) ++ [i.lookahead])).filter (· ≠ .epsilon) := by
    intro a
    rw [Predictor.mem_lookaheads, List.mem_filter, decide_eq_true_eq]
    rfl
  have hnone : ((g.firstFacts.ofSequence (i.production.rhs.drop (i.dot + 1) ++ [i.lookahead])).filter
      (· ≠ .epsilon)).filter (· ∉ g.terminals) = [] := by
    rw [List.filter_eq_nil_iff]
    intro a ha
    simpa using (mem_lookaheads_iff.mp ((hmem a).mpr ha)).mem_terminals hg hi
  simp only [hmem]
  rw [Predictor.lookaheads]
  exact (congrArg _ hnone).trans (List.append_nil _)

namespace Inert

variable (h : g.Inert added)

include h

theorem follows_iff (hi : g.LiveItem added i) : (g.extend added).Follows i a ↔ g.Follows i a := by
  apply and_congr_left'
  apply h.mem_ofSequence_iff
  intro X hX hnonterminal
  rcases List.mem_append.mp hX with hX | hX
  · exact hi.live.of_mem_rhs h.extended hi.extended.production_mem (List.mem_of_mem_drop hX) hnonterminal
  · have hterminal := isTerminal_of_mem_terminals hi.hasItem.lookahead_mem
    rw [List.mem_singleton.mp hX, Symbol.eq_terminal_of_isTerminal hterminal] at hnonterminal
    cases hnonterminal

/-- The new terminals stand before the end marker, but none of them follows. -/
theorem lookaheads_eq (hi : g.LiveItem added i) :
    (g.extend added).predictor.lookaheads i = g.predictor.lookaheads i := by
  have hmem : ∀ b, b ∈ (g.extend added).predictor.lookaheads i ↔ b ∈ g.predictor.lookaheads i := fun b => by
    rw [mem_lookaheads_iff, mem_lookaheads_iff, h.follows_iff hi]
  obtain ⟨new, hnew⟩ := g.exists_writtenTerminals_extend added
  have hnone : new.filter (· ∈ g.predictor.lookaheads i) = [] := by
    rw [List.filter_eq_nil_iff]
    intro b hb hfollows
    have hold := (mem_lookaheads_iff.mp (of_decide_eq_true hfollows)).mem_terminals h.wellFormed hi.hasItem
    have hwritten : b ∈ (g.extend added).writtenTerminals := hnew ▸ List.mem_append_right _ hb
    rcases List.mem_append.mp hold with hold | hold
    · have hnodup : (g.writtenTerminals ++ new).Nodup := hnew ▸ Distinct.nodup_ofList _
      exact (List.nodup_append.mp hnodup).2.2 b hold b hb rfl
    · exact (isWritten_of_mem_writtenTerminals h.extended hwritten).ne_endMarker (List.mem_singleton.mp hold)
  rw [lookaheads_eq_filter h.extended hi.extended, lookaheads_eq_filter h.wellFormed hi.hasItem]
  simp only [hmem]
  rw [terminals, terminals, hnew, List.filter_append, List.filter_append, hnone, List.append_nil, ← List.filter_append]

theorem predictions_eq (hi : g.LiveItem added i) :
    (g.extend added).predictor.predictions i = g.predictor.predictions i := by
  unfold Predictor.predictions
  cases hnext : i.next? with
  | none => rfl
  | some X =>
    cases hX : X.isNonterminal with
    | false => simp [hX]
    | true =>
      have hlive := hi.live.of_mem_rhs h.extended hi.extended.production_mem (Item.mem_rhs_of_next? hnext) hX
      have hproductions : (g.extend added).predictor.productionsFor X = g.predictor.productionsFor X :=
        h.productionsFor_eq hlive
      simp only [hX, if_true, h.lookaheads_eq hi, hproductions]

theorem liveItem_of_mem_predictions (hi : g.LiveItem added i) (hj : j ∈ g.predictor.predictions i) :
    g.LiveItem added j where
  hasItem := hi.hasItem.of_mem_predictions h.wellFormed hj
  live := by
    obtain ⟨X, hnext, hX, -, rfl, -⟩ := mem_predictions.mp hj
    exact hi.live.of_mem_rhs h.extended hi.extended.production_mem (Item.mem_rhs_of_next? hnext) hX

theorem liveItem_of_mem_closurePass (hitems : ∀ i ∈ items, g.LiveItem added i) :
    ∀ i ∈ g.predictor.closurePass items, g.LiveItem added i := by
  intro j hj
  rcases Predictor.mem_closurePass.mp hj with hj | ⟨i, hi, hj⟩
  · exact hitems j hj
  · exact h.liveItem_of_mem_predictions (hitems i hi) hj

theorem liveItem_of_mem_closure (hitems : ∀ i ∈ items, g.LiveItem added i) :
    ∀ i ∈ g.closure items, g.LiveItem added i :=
  closure_induction hitems fun _ hi _ hj => h.liveItem_of_mem_predictions hi hj

theorem closurePass_eq (hitems : ∀ i ∈ items, g.LiveItem added i) :
    (g.extend added).predictor.closurePass items = g.predictor.closurePass items := by
  unfold Predictor.closurePass
  rw [List.flatMap_congr fun i hi => h.predictions_eq (hitems i hi)]

/-- The passes are allowed in different numbers, but they come to rest after the same one. -/
theorem closure_eq (hitems : ∀ i ∈ items, g.LiveItem added i) : (g.extend added).closure items = g.closure items := by
  let Kept (found : ItemSet) : Prop := ∀ i ∈ found, g.LiveItem added i
  have hkept : ∀ found, Kept found → Kept (g.predictor.closurePass found) := fun _ => h.liveItem_of_mem_closurePass
  have hsame : ∀ found, Kept found → (g.extend added).predictor.closurePass found = g.predictor.closurePass found :=
    fun _ => h.closurePass_eq
  have hstart : Kept (Distinct.ofList items) := fun i hi => hitems i (Distinct.mem_ofList.mp hi)
  obtain ⟨n, hrests, hclosure⟩ := (closureRests h.wellFormed fun i hi => (hitems i hi).hasItem).rests
  obtain ⟨m, hrests', hclosure'⟩ := (closureRests h.extended fun i hi => (hitems i hi).extended).rests
  have hmn := (hrests'.congr Kept hkept hsame hstart).unique hrests
  rw [hclosure', hclosure, hmn, iterate_congr Kept hkept hsame hstart]

theorem goto_eq (hitems : ∀ i ∈ items, g.LiveItem added i) (X : Symbol) :
    (g.extend added).goto items X = g.goto items X :=
  h.closure_eq (LiveItem.of_mem_advanceOver hitems)

theorem liveItem_of_mem_goto (hitems : ∀ i ∈ items, g.LiveItem added i) (X : Symbol) :
    ∀ i ∈ g.goto items X, g.LiveItem added i :=
  h.liveItem_of_mem_closure (LiveItem.of_mem_advanceOver hitems)

end Inert

end CanonicalLR.Grammar
