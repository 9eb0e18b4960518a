import CanonicalLR.Proofs.Cells
import CanonicalLR.Proofs.Completeness
import CanonicalLR.Proofs.Reordering
import CanonicalLR.Proofs.Soundness
import CanonicalLR.Proofs.Spelling
import Mathlib.Algebra.Group.End
import Mathlib.Data.Fintype.EquivFin

/-! # Renumbered states

States of two grammars match when they have the same cores. When the one grammar has the rules of the other in
another order, every state has one match, and the numbers of the matches are a permutation. It carries the edges
and the filled cells, the shifts, the GOTO entries and the number of conflicts in each cell from the one automaton
and its tables to the other. Only the numbers of the productions are not carried, and with them the choice between
two reductions.
-/
namespace CanonicalLR

/-- Numbers that are related one to one are related by a permutation. -/
theorem exists_perm_of_relation (numbers : List Int) (R : Int → Int → Prop)
    (htotal : ∀ q ∈ numbers, ∃ q' ∈ numbers, R q q')
    (hinjective : ∀ q ∈ numbers, ∀ r ∈ numbers, ∀ q', R q q' → R r q' → q = r) :
    ∃ σ : Equiv.Perm Int, (∀ q ∈ numbers, R q (σ q)) ∧ ∀ q, σ q ∈ numbers ↔ q ∈ numbers := by
  have hmember : ∀ q : {q // q ∈ numbers}, ∃ q' : {q // q ∈ numbers}, R q q' := by
    intro q
    obtain ⟨q', hq', h⟩ := htotal q q.2
    exact ⟨⟨q', hq'⟩, h⟩
  choose f hf using hmember
  have hf' : Function.Injective f := by
    intro q r heq
    apply Subtype.ext
    exact hinjective q q.2 r r.2 (f q) (hf q) (heq ▸ hf r)
  -- A one-to-one map of finitely many numbers is onto, and the other numbers stay where they are.
  have hbijective : Function.Bijective f := Finite.injective_iff_bijective.mp hf'
  refine ⟨Equiv.Perm.ofSubtype (Equiv.ofBijective f hbijective), ?_, Equiv.Perm.ofSubtype_apply_mem_iff_mem _⟩
  intro q hq
  rw [Equiv.Perm.ofSubtype_apply_of_mem _ hq]
  exact hf ⟨q, hq⟩

/-- An item with the core, about a production of no particular number. -/
def Item.ofCore (c : Rule × Nat × Symbol) : Item := ⟨⟨0, c.1.lhs, c.1.rhs⟩, c.2.1, c.2.2⟩

theorem Item.text_ofCore (i : Item) : (ofCore i.core).text = i.text := rfl

theorem Item.isComplete_ofCore (i : Item) : (ofCore i.core).isComplete = i.isComplete := rfl

namespace ItemSet

variable {I J : ItemSet}

theorem map_text_perm (h : (I.map Item.core).Perm (J.map Item.core)) : (I.map Item.text).Perm (J.map Item.text) := by
  have htexts : ∀ K : ItemSet, K.map Item.text = (K.map Item.core).map fun c => (Item.ofCore c).text := by
    intro K
    rw [List.map_map]
    exact List.map_congr_left fun i _ => i.text_ofCore.symm
  rw [htexts, htexts]
  exact h.map _

theorem completeWith_eq (h : (I.map Item.core).Perm (J.map Item.core)) (X : Symbol) :
    I.completeWith X = J.completeWith X := by
  have hcount : ∀ K : ItemSet,
      K.completeWith X = (K.map Item.core).countP fun c => (Item.ofCore c).isComplete && c.2.2 = X := by
    intro K
    rw [List.countP_map]
    rfl
  rw [hcount, hcount]
  exact h.countP_eq _

end ItemSet

def Edge.renumber (σ : Int → Int) (e : Edge) : Edge := ⟨σ e.source, σ e.target, e.symbol⟩

def renumberCells (σ : Equiv.Perm Int) : Cell ≃ Cell := σ.prodCongr (Equiv.refl Symbol)

namespace Grammar

variable {g g' : Grammar} {s t : State} {q n : Int} {X : Symbol} {σ : Equiv.Perm Int}

theorem ids_automaton (g : Grammar) :
    g.automaton.states.map State.id = (List.range g.automaton.states.length).map Nat.cast := by
  have hids : g.automaton.states.map State.id = (g.exploration.sets.zipIdx.map Prod.snd).map Nat.cast := by
    rw [automaton, Exploration.toAutomaton, List.map_map, List.map_map]
    rfl
  rw [hids, List.zipIdx_map_snd, ← List.range_eq_range', automaton, Exploration.toAutomaton, List.length_map,
    List.length_zipIdx]

theorem eq_of_alike (hg : g.WellFormed) (hs : s ∈ g.automaton.states) (ht : t ∈ g.automaton.states)
    (halike : s.items.Alike t.items) : s = t := by
  have ha := isCanonical_automaton hg
  apply eq_of_toFinset_eq hg hs ht
  ext i
  rw [List.mem_toFinset, List.mem_toFinset]
  exact mem_of_alike (ha.regular s hs) (ha.regular t ht) halike i

/-- The states have the same cores as the states with the new numbers. -/
structure Matches (g g' : Grammar) (σ : Equiv.Perm Int) : Prop where
  covered : ∀ s ∈ g.automaton.states, ∃ s' ∈ g'.automaton.states, s'.id = σ s.id ∧ s.items.Alike s'.items
  covers : ∀ s' ∈ g'.automaton.states, ∃ s ∈ g.automaton.states, s'.id = σ s.id ∧ s.items.Alike s'.items

theorem Matches.symm (h : g.Matches g' σ) : g'.Matches g σ.symm where
  covered s hs := by
    obtain ⟨s', hs', hid, halike⟩ := h.covers s hs
    exact ⟨s', hs', by rw [hid, Equiv.symm_apply_apply], halike.symm⟩
  covers s hs := by
    obtain ⟨s', hs', hid, halike⟩ := h.covered s hs
    exact ⟨s', hs', by rw [hid, Equiv.symm_apply_apply], halike.symm⟩

/-- The numbers belong to states with the same cores. -/
def MatchesNumber (g g' : Grammar) (q q' : Int) : Prop :=
  ∃ s ∈ g.automaton.states, ∃ s' ∈ g'.automaton.states, s.id = q ∧ s'.id = q' ∧ s.items.Alike s'.items

namespace Reorders

variable (h : g.Reorders g') (hg : g.WellFormed) (hg' : g'.WellFormed)
include h hg hg'

theorem exists_alike_state (hs : s ∈ g.automaton.states) : ∃ s' ∈ g'.automaton.states, s.items.Alike s'.items := by
  obtain ⟨J, hJ, halike⟩ := h.exists_collected hg hg' (collected_of_mem_states hg hs)
  obtain ⟨s', hs', heq⟩ := hJ.exists_state hg' (isCanonical_automaton hg')
  refine ⟨s', hs', halike.trans (ItemSet.alike_of_mem_iff fun i => ?_)⟩
  rw [← List.mem_toFinset, ← heq, List.mem_toFinset]

theorem length_states_le : g.automaton.states.length ≤ g'.automaton.states.length := by
  choose! f hf using fun s (hs : s ∈ g.automaton.states) => h.exists_alike_state hg hg' hs
  have hnodup : (g.automaton.states.map f).Nodup := by
    apply (List.Nodup.of_map State.id (isCanonical_automaton hg).ids_distinct).map_on
    intro s hs t ht heq
    exact eq_of_alike hg hs ht ((hf s hs).2.trans (heq ▸ (hf t ht).2.symm))
  have hsubset : g.automaton.states.map f ⊆ g'.automaton.states := by
    intro s' hs'
    obtain ⟨s, hs, rfl⟩ := List.mem_map.mp hs'
    exact (hf s hs).1
  simpa using (hnodup.subperm hsubset).length_le

theorem length_states_eq : g.automaton.states.length = g'.automaton.states.length :=
  Nat.le_antisymm (h.length_states_le hg hg') (h.symm.length_states_le hg' hg)

theorem ids_eq : g.automaton.states.map State.id = g'.automaton.states.map State.id := by
  rw [ids_automaton, ids_automaton, h.length_states_eq hg hg']

/-- Every state has one match, and the matches have the same numbers in another order. -/
theorem exists_matches : ∃ σ : Equiv.Perm Int, g.Matches g' σ := by
  have hmem : ∀ {s'}, s' ∈ g'.automaton.states → s'.id ∈ g.automaton.states.map State.id := by
    intro s' hs'
    rw [h.ids_eq hg hg']
    exact List.mem_map_of_mem hs'
  have htotal : ∀ q ∈ g.automaton.states.map State.id,
      ∃ q' ∈ g.automaton.states.map State.id, g.MatchesNumber g' q q' := by
    intro q hq
    obtain ⟨s, hs, rfl⟩ := List.mem_map.mp hq
    obtain ⟨s', hs', halike⟩ := h.exists_alike_state hg hg' hs
    exact ⟨s'.id, hmem hs', s, hs, s', hs', rfl, rfl, halike⟩
  have hinjective : ∀ q ∈ g.automaton.states.map State.id, ∀ r ∈ g.automaton.states.map State.id, ∀ q',
      g.MatchesNumber g' q q' → g.MatchesNumber g' r q' → q = r := by
    rintro _ - _ - q' ⟨s, hs, s', hs', rfl, rfl, halike⟩ ⟨t, ht, t', ht', rfl, hid, halike'⟩
    cases (isCanonical_automaton hg').eq_of_id_eq ht' hs' hid
    rw [eq_of_alike hg hs ht (halike.trans halike'.symm)]
  obtain ⟨σ, hσ, hσmem⟩ := exists_perm_of_relation _ (g.MatchesNumber g') htotal hinjective
  refine ⟨σ, ?_, ?_⟩
  · intro s hs
    obtain ⟨t, ht, s', hs', hid, hid', halike⟩ := hσ s.id (List.mem_map_of_mem hs)
    cases (isCanonical_automaton hg).eq_of_id_eq ht hs hid
    exact ⟨s', hs', hid', halike⟩
  · intro s' hs'
    have hq : σ.symm s'.id ∈ g.automaton.states.map State.id := by
      rw [← hσmem, Equiv.apply_symm_apply]
      exact hmem hs'
    obtain ⟨s, hs, t', ht', hid, hid', halike⟩ := hσ _ hq
    rw [Equiv.apply_symm_apply] at hid'
    cases (isCanonical_automaton hg').eq_of_id_eq ht' hs' hid'
    exact ⟨s, hs, by rw [hid, Equiv.apply_symm_apply], halike⟩

end Reorders

namespace Matches

variable (hm : g.Matches g' σ) (h : g.Reorders g') (hg : g.WellFormed) (hg' : g'.WellFormed)
include hm h hg hg'

theorem target?_of_eq_some (htarget : g.automaton.target? q X = some n) :
    g'.automaton.target? (σ q) X = some (σ n) := by
  have ha := isCanonical_automaton hg
  have ha' := isCanonical_automaton hg'
  obtain ⟨s, hs, t, ht, rfl, rfl, hX, hitems⟩ := ha.edge_goto _ (Automaton.mem_edges_of_target? htarget)
  obtain ⟨s', hs', hid, halike⟩ := hm.covered s hs
  obtain ⟨t', ht', hid', halike'⟩ := hm.covered t ht
  obtain ⟨u', hu', htarget'⟩ := ha'.exists_target hs' (halike.covered.mem_nextSymbols hX)
  have hsame : t'.items.Alike u'.items := by
    have hgoto := h.alike_goto hg hg' (ha.regular s hs).hasItem (ha'.regular s' hs').hasItem halike X
    have hback : (g'.goto s'.items X).Alike u'.items :=
      ItemSet.alike_of_mem_iff fun i => (ha'.mem_goto hs' hu' htarget').symm
    exact halike'.symm.trans ((ItemSet.alike_of_mem_iff hitems).trans (hgoto.trans hback))
  change g'.automaton.target? (σ s.id) X = some (σ t.id)
  rw [← hid, ← hid', htarget', eq_of_alike hg' ht' hu' hsame]

theorem target?_eq : g'.automaton.target? (σ q) X = (g.automaton.target? q X).map σ := by
  apply Option.ext
  intro n
  constructor
  · intro htarget
    have hback := hm.symm.target?_of_eq_some h.symm hg' hg htarget
    rw [Equiv.symm_apply_apply] at hback
    rw [hback, Option.map_some, Equiv.apply_symm_apply]
  · intro htarget
    obtain ⟨n, hn, rfl⟩ := Option.map_eq_some_iff.mp htarget
    exact hm.target?_of_eq_some h hg hg' hn

theorem mem_edges {e : Edge} (he : e ∈ g.automaton.edges) : e.renumber σ ∈ g'.automaton.edges :=
  Automaton.mem_edges_of_target?
    (hm.target?_of_eq_some h hg hg' ((isCanonical_automaton hg).target?_of_mem_edges he))

theorem edges_perm : (g.automaton.edges.map (Edge.renumber σ)).Perm g'.automaton.edges := by
  have hnodup : ∀ {f : Grammar}, f.WellFormed → f.automaton.edges.Nodup :=
    fun hf => List.Nodup.of_map _ (explored_exploration hf).keys_distinct
  have hinjective : Function.Injective (Edge.renumber σ) := by
    rintro ⟨q, n, X⟩ ⟨q', n', X'⟩ heq
    simpa [Edge.renumber] using heq
  rw [List.perm_ext_iff_of_nodup ((hnodup hg).map hinjective) (hnodup hg')]
  intro e'
  constructor
  · intro he'
    obtain ⟨e, he, rfl⟩ := List.mem_map.mp he'
    exact hm.mem_edges h hg hg' he
  · intro he'
    refine List.mem_map.mpr ⟨_, hm.symm.mem_edges h.symm hg' hg he', ?_⟩
    simp [Edge.renumber]

theorem map_core_perm (hs : s ∈ g.automaton.states) :
    ∃ s' ∈ g'.automaton.states, s'.id = σ s.id ∧ (s.items.map Item.core).Perm (s'.items.map Item.core) := by
  obtain ⟨s', hs', hid, halike⟩ := hm.covered s hs
  exact ⟨s', hs', hid, h.map_core_perm ((isCanonical_automaton hg).regular s hs)
    ((isCanonical_automaton hg').regular s' hs') halike⟩

theorem countP_completions (q : Int) (X : Symbol) :
    g'.automaton.completions.countP (fun e => (e.1, e.2.lookahead) = (σ q, X)) =
      g.automaton.completions.countP fun e => (e.1, e.2.lookahead) = (q, X) := by
  by_cases hq : ∃ s ∈ g.automaton.states, s.id = q
  · obtain ⟨s, hs, rfl⟩ := hq
    obtain ⟨s', hs', hid, hperm⟩ := hm.map_core_perm h hg hg' hs
    rw [← hid, Automaton.countP_completions (isCanonical_automaton hg').ids_distinct hs',
      Automaton.countP_completions (isCanonical_automaton hg).ids_distinct hs, ItemSet.completeWith_eq hperm]
  · have hq' : ∀ s' ∈ g'.automaton.states, s'.id ≠ σ q := by
      intro s' hs' hid'
      obtain ⟨s, hs, hid, -⟩ := hm.covers s' hs'
      exact hq ⟨s, hs, σ.injective (hid.symm.trans hid')⟩
    rw [Automaton.countP_completions_of_not_mem hq',
      Automaton.countP_completions_of_not_mem fun s hs hid => hq ⟨s, hs, hid⟩]

theorem proposals_eq (q : Int) (X : Symbol) : g'.automaton.proposals (σ q, X) = g.automaton.proposals (q, X) := by
  rw [Automaton.proposals, Automaton.proposals, hm.countP_completions h hg hg', Automaton.get?_shifts,
    Automaton.get?_shifts, hm.target?_eq h hg hg']
  split
  · cases g.automaton.target? q X <;> rfl
  · rfl

theorem candidate_accept (hcandidate : g.automaton.Candidate q X .accept) :
    g'.automaton.Candidate (σ q) X .accept := by
  obtain ⟨hend, s, hs, rfl, i, hi, hcomplete, hzero, hlookahead⟩ := Automaton.candidate_accept_iff.mp hcandidate
  obtain ⟨s', hs', hid, halike⟩ := hm.covered s hs
  obtain ⟨j, hj, hcore⟩ := halike.covered i hi
  have hi' := ((isCanonical_automaton hg).regular s hs).hasItem i hi
  have hj' := ((isCanonical_automaton hg').regular s' hs').hasItem j hj
  refine Automaton.candidate_accept_iff.mpr ⟨hend, s', hs', hid, j, hj, ?_, ?_, ?_⟩
  · rw [← Item.isComplete_ofCore, hcore, Item.isComplete_ofCore]
    exact hcomplete
  · have hlhs : j.production.lhs = i.production.lhs := congrArg (fun c => c.1.lhs) hcore
    rw [eq_augmentedProduction_of_id_eq_zero hi'.production_mem hzero, h.augmentedProduction_eq] at hlhs
    rw [eq_augmentedProduction_of_lhs_eq hg' hj'.production_mem hlhs]
    rfl
  · rw [Item.lookahead_eq_of_core_eq hcore, hlookahead]

theorem start_eq : σ 0 = 0 := by
  have ha := isCanonical_automaton hg
  have ha' := isCanonical_automaton hg'
  obtain ⟨s', hs', hid, halike⟩ := hm.covered _ ha.start_mem
  have hsame := eq_of_alike hg' hs' ha'.start_mem (halike.symm.trans (h.alike_start hg hg'))
  rw [hsame] at hid
  exact hid.symm

theorem isSome_action?_eq (q : Int) (X : Symbol) :
    ((g'.automaton.table g').action? (σ q) X).isSome = ((g.automaton.table g).action? q X).isSome := by
  have horderly := Automaton.orderly_of_isCanonical hg (isCanonical_automaton hg)
  have horderly' := Automaton.orderly_of_isCanonical hg' (isCanonical_automaton hg')
  rw [Bool.eq_iff_iff, horderly'.isSome_action?_iff, horderly.isSome_action?_iff, hm.proposals_eq h hg hg']

theorem shift_iff (q : Int) (X : Symbol) (n : Int) :
    (g'.automaton.table g').action? (σ q) X = some (.shift (σ n)) ↔
      (g.automaton.table g).action? q X = some (.shift n) := by
  have horderly := Automaton.orderly_of_isCanonical hg (isCanonical_automaton hg)
  have horderly' := Automaton.orderly_of_isCanonical hg' (isCanonical_automaton hg')
  rw [horderly'.action?_eq_shift_iff, horderly.action?_eq_shift_iff, hm.target?_eq h hg hg', Option.map_eq_some_iff]
  simp

theorem accept_iff (q : Int) (X : Symbol) :
    (g'.automaton.table g').action? (σ q) X = some .accept ↔ (g.automaton.table g).action? q X = some .accept := by
  have horderly := Automaton.orderly_of_isCanonical hg (isCanonical_automaton hg)
  have horderly' := Automaton.orderly_of_isCanonical hg' (isCanonical_automaton hg')
  rw [horderly'.action?_eq_accept_iff, horderly.action?_eq_accept_iff]
  refine ⟨fun haccept => ?_, hm.candidate_accept h hg hg'⟩
  have hback := hm.symm.candidate_accept h.symm hg' hg haccept
  rwa [Equiv.symm_apply_apply] at hback

theorem goto?_eq (q : Int) (X : Symbol) :
    (g'.automaton.table g').goto? (σ q) X = ((g.automaton.table g).goto? q X).map σ := by
  rw [Automaton.goto?_table, Automaton.goto?_table, hm.target?_eq h hg hg']
  split <;> rfl

theorem countP_conflicts_eq (q : Int) (X : Symbol) :
    (g'.automaton.table g').conflicts.countP (fun c => (c.state, c.symbol) = (σ q, X)) =
      (g.automaton.table g).conflicts.countP fun c => (c.state, c.symbol) = (q, X) := by
  have horderly := Automaton.orderly_of_isCanonical hg (isCanonical_automaton hg)
  have horderly' := Automaton.orderly_of_isCanonical hg' (isCanonical_automaton hg')
  rw [horderly'.countP_conflicts, horderly.countP_conflicts, hm.proposals_eq h hg hg']

theorem length_conflicts_eq : (g.automaton.table g).conflicts.length = (g'.automaton.table g').conflicts.length :=
  length_eq_of_countP_eq (renumberCells σ) (fun c => (c.state, c.symbol)) (fun c => (c.state, c.symbol))
    fun cell => hm.countP_conflicts_eq h hg hg' cell.1 cell.2

theorem size_actions_eq : (g.automaton.table g).actions.size = (g'.automaton.table g').actions.size :=
  Entries.size_eq_of_equiv (renumberCells σ) (Automaton.nodup_keys_actions _ g) (Automaton.nodup_keys_actions _ g')
    fun cell => hm.isSome_action?_eq h hg hg' cell.1 cell.2

theorem size_gotos_eq : (g.automaton.table g).gotos.size = (g'.automaton.table g').gotos.size := by
  apply Entries.size_eq_of_equiv (renumberCells σ) (Automaton.nodup_keys_gotos _ g) (Automaton.nodup_keys_gotos _ g')
  intro cell
  have hcell := congrArg Option.isSome (hm.goto?_eq h hg hg' cell.1 cell.2)
  rwa [Option.isSome_map] at hcell

end Matches

theorem Reorders.isDerivation (h : g.Reorders g') {t : Tree} (ht : t.IsDerivation g) : t.IsDerivation g' := by
  induction ht with
  | leaf mem => exact .leaf (h.mem_writtenTerminals mem)
  | branch mem symbols_eq _ ih => exact .branch (h.rules_perm.mem_iff.mp mem) symbols_eq ih

/-- Without conflicts in the tables of the second grammar, its machine accepts what that of the first one does. -/
theorem Reorders.accepted (h : g.Reorders g') (hg : g.WellFormed) (hg' : g'.WellFormed)
    (hconflicts : (g'.automaton.table g').conflicts = []) {tokens : List String} {tree : Option Tree} {n : Nat}
    (haccepted : ((Recognizer.ofGrammar g none).machine.advance n (.start tokens)).ending = some (.accepted tree)) :
    ∃ n, ((Recognizer.ofGrammar g' none).machine.advance n (.start tokens)).ending = some (.accepted tree) := by
  obtain ⟨t, rfl, hroot, ht, rfl⟩ := Recognizer.derived_of_accepted hg haccepted
  exact Recognizer.accepts_tree hg' hconflicts (h.isDerivation ht) (hroot.trans h.start_eq)

/-- The states of the second automaton are those of the first one under new numbers, and so are the edges, the
filled cells, the shifts, the accepting cell, the GOTO entries and the conflicts of each cell. -/
structure Renumbered (g g' : Grammar) (σ : Equiv.Perm Int) : Prop where
  start_eq : σ 0 = 0
  texts_perm : ∀ s ∈ g.automaton.states, ∃ s' ∈ g'.automaton.states, s'.id = σ s.id ∧
    (s.items.map Item.text).Perm (s'.items.map Item.text)
  onto : ∀ s' ∈ g'.automaton.states, ∃ s ∈ g.automaton.states, s'.id = σ s.id
  edges_perm : (g.automaton.edges.map (Edge.renumber σ)).Perm g'.automaton.edges
  filled : ∀ q X, ((g'.automaton.table g').action? (σ q) X).isSome = ((g.automaton.table g).action? q X).isSome
  shift : ∀ q X n, (g'.automaton.table g').action? (σ q) X = some (.shift (σ n)) ↔
    (g.automaton.table g).action? q X = some (.shift n)
  accept : ∀ q X, (g'.automaton.table g').action? (σ q) X = some .accept ↔
    (g.automaton.table g).action? q X = some .accept
  goto : ∀ q X, (g'.automaton.table g').goto? (σ q) X = ((g.automaton.table g).goto? q X).map σ
  conflicts : ∀ q X, (g'.automaton.table g').conflicts.countP (fun c => (c.state, c.symbol) = (σ q, X)) =
    (g.automaton.table g).conflicts.countP fun c => (c.state, c.symbol) = (q, X)
  states_length : g.automaton.states.length = g'.automaton.states.length
  edges_length : g.automaton.edges.length = g'.automaton.edges.length
  actions_size : (g.automaton.table g).actions.size = (g'.automaton.table g').actions.size
  gotos_size : (g.automaton.table g).gotos.size = (g'.automaton.table g').gotos.size
  conflicts_length : (g.automaton.table g).conflicts.length = (g'.automaton.table g').conflicts.length
  accepted_iff : (g.automaton.table g).conflicts = [] → ∀ tokens tree,
    (∃ n, ((Recognizer.ofGrammar g none).machine.advance n (.start tokens)).ending = some (.accepted tree)) ↔
      ∃ n, ((Recognizer.ofGrammar g' none).machine.advance n (.start tokens)).ending = some (.accepted tree)

theorem Matches.renumbered (hm : g.Matches g' σ) (h : g.Reorders g') (hg : g.WellFormed) (hg' : g'.WellFormed) :
    g.Renumbered g' σ where
  start_eq := hm.start_eq h hg hg'
  texts_perm s hs := by
    obtain ⟨s', hs', hid, hperm⟩ := hm.map_core_perm h hg hg' hs
    exact ⟨s', hs', hid, ItemSet.map_text_perm hperm⟩
  onto s' hs' := by
    obtain ⟨s, hs, hid, -⟩ := hm.covers s' hs'
    exact ⟨s, hs, hid⟩
  edges_perm := hm.edges_perm h hg hg'
  filled := hm.isSome_action?_eq h hg hg'
  shift := hm.shift_iff h hg hg'
  accept := hm.accept_iff h hg hg'
  goto := hm.goto?_eq h hg hg'
  conflicts := hm.countP_conflicts_eq h hg hg'
  states_length := h.length_states_eq hg hg'
  edges_length := by rw [← (hm.edges_perm h hg hg').length_eq, List.length_map]
  actions_size := hm.size_actions_eq h hg hg'
  gotos_size := hm.size_gotos_eq h hg hg'
  conflicts_length := hm.length_conflicts_eq h hg hg'
  accepted_iff hnone tokens tree := by
    have hnone' : (g'.automaton.table g').conflicts = [] := by
      rw [← List.length_eq_zero_iff, ← hm.length_conflicts_eq h hg hg', hnone, List.length_nil]
    constructor
    · rintro ⟨n, hn⟩
      exact h.accepted hg hg' hnone' hn
    · rintro ⟨n, hn⟩
      exact h.symm.accepted hg' hg hnone hn

theorem spells_rightUnique : Relator.RightUnique Spells := by
  intro line rule rule' hrule hrule'
  have hsame : readRule 0 line = .ok rule := readRule_eq_ok_iff.mpr hrule
  rw [readRule_eq_ok_iff.mpr hrule'] at hsame
  exact (Except.ok.inj hsame).symm

/-- Lines in another order give the rules in another order. -/
theorem reorders_of_lines_perm {text text' : String} (hread : read text = .ok g) (hread' : read text' = .ok g')
    (hlines : (writtenLines text).Perm (writtenLines text')) (hstart : g.start = g'.start) : g.Reorders g' := by
  obtain ⟨first, rest, hspelt, rfl⟩ := read_eq_ok_iff.mp hread
  obtain ⟨first', rest', hspelt', rfl⟩ := read_eq_ok_iff.mp hread'
  exact ⟨List.rel_perm_imp spells_rightUnique hspelt hspelt' hlines, hstart⟩

/-- Two texts with the same lines in another order, and the same start symbol, give the same automaton and the same
tables up to the numbers of the states and the choice between two reductions. -/
theorem renumbered_of_lines_perm {text text' : String} (hread : read text = .ok g) (hread' : read text' = .ok g')
    (hlines : (writtenLines text).Perm (writtenLines text')) (hstart : g.start = g'.start) :
    ∃ σ, g.Renumbered g' σ := by
  have hg := wellFormed_of_read hread
  have hg' := wellFormed_of_read hread'
  have hreorders := reorders_of_lines_perm hread hread' hlines hstart
  obtain ⟨σ, hmatches⟩ := hreorders.exists_matches hg hg'
  exact ⟨σ, hmatches.renumbered hreorders hg hg'⟩

/-- Matched brackets, with a rule that is written twice and never used. -/
def bracketed : Grammar where
  start := .nonterminal "S"
  rules := [⟨.nonterminal "S", [.terminal "a", .nonterminal "S", .terminal "b"]⟩, ⟨.nonterminal "S", []⟩,
    ⟨.nonterminal "A", [.terminal "c"]⟩, ⟨.nonterminal "A", [.terminal "c"]⟩]

def shuffled : Grammar where
  start := .nonterminal "S"
  rules := [⟨.nonterminal "S", []⟩, ⟨.nonterminal "A", [.terminal "c"]⟩,
    ⟨.nonterminal "S", [.terminal "a", .nonterminal "S", .terminal "b"]⟩, ⟨.nonterminal "A", [.terminal "c"]⟩]

theorem renumbered_of_lines_perm_bracketed :
    (writtenLines "S -> a S b\nS ->\nA -> c\nA -> c").Perm (writtenLines "S ->\n\nA -> c\nS -> a S b\nA -> c") ∧
      (bracketed.automaton.table bracketed).conflicts = [] ∧ ∃ σ, bracketed.Renumbered shuffled σ := by
  have hlines : (writtenLines "S -> a S b\nS ->\nA -> c\nA -> c").Perm
      (writtenLines "S ->\n\nA -> c\nS -> a S b\nA -> c") := by
    decide
  have hread : read "S -> a S b\nS ->\nA -> c\nA -> c" = .ok bracketed := rfl
  have hread' : read "S ->\n\nA -> c\nS -> a S b\nA -> c" = .ok shuffled := rfl
  exact ⟨hlines, rfl, renumbered_of_lines_perm hread hread' hlines rfl⟩

end Grammar

end CanonicalLR
