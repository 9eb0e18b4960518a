import CanonicalLR.Proofs.Collected

/-! # The order of discovery

The states are the item sets that GOTO reaches from the first one, each of them once, and each with the
closure of its kernel as its list of items. They have the numbers in which the list of edges, which is in
the order of the sources, first leads to them.
-/
namespace CanonicalLR

namespace Predictor

/-- What every new connection keeps, and the step to the next set, the whole exploration keeps. -/
theorem explore_induction {P : Predictor} {Kept : Nat → Exploration → Prop}
    (hconnect : ∀ n found S X, found.sets[n]? = some S → X ∈ S.items.nextSymbols → Kept n found →
      Kept n (found.connect n X (P.goto S.items X).signed))
    (hnext : ∀ n found, Kept n found → Kept (n + 1) found) (fuel n : Nat) {found : Exploration}
    (h : Kept n found) : ∃ m, Kept m (P.explore fuel n found) := by
  have hvisit : ∀ {n found S}, found.sets[n]? = some S → Kept n found → Kept n (P.visit n S.items found) := by
    intro n found S hS h
    have hall : ∀ Xs : List Symbol, (∀ X ∈ Xs, X ∈ S.items.nextSymbols) → ∀ found, found.sets[n]? = some S →
        Kept n found →
          Kept n (Xs.foldl (fun found X => found.connect n X (P.goto S.items X).signed) found) := by
      intro Xs
      induction Xs with
      | nil => exact fun _ _ _ h => h
      | cons X Xs ih =>
        intro hXs found hS h
        obtain ⟨more, hmore⟩ := Grammar.sets_connect found n X (P.goto S.items X).signed
        apply ih (fun Y hY => hXs Y (List.mem_cons_of_mem X hY))
        · rw [← hmore]
          exact getElem?_append_of_eq_some hS more
        · exact hconnect n found S X hS (hXs X List.mem_cons_self) h
    exact hall _ (fun _ hX => hX) found hS h
  induction fuel generalizing n found with
  | zero => exact ⟨n, h⟩
  | succ fuel ih =>
    unfold explore
    split
    · exact ⟨n, h⟩
    · next S hS => exact ih (n + 1) (hnext n _ (hvisit hS h))

end Predictor

namespace Grammar

variable {g : Grammar} {n : Nat} {found : Exploration} {X : Symbol}

/-- The sets found so far are numbered in the order in which the edges first lead to them. -/
structure Discovered (g : Grammar) (n : Nat) (found : Exploration) : Prop where
  first : found.sets[0]? = some (g.closure [g.startItem]).signed
  collected : ∀ set ∈ found.sets, g.Collected set.items
  source_le : ∀ e ∈ found.edges, e.source ≤ n
  sorted : found.edges.Pairwise fun e d => e.source ≤ d.source
  targets_eq : 0 :: Distinct.ofList (found.edges.map Edge.target) = (List.range found.sets.length).map Nat.cast

theorem discovered_start (g : Grammar) : g.Discovered 0 ⟨[(g.closure [g.startItem]).signed], []⟩ where
  first := rfl
  collected set hset := by
    rw [List.mem_singleton.mp hset]
    exact .start
  source_le := by simp
  sorted := List.Pairwise.nil
  targets_eq := rfl

theorem Discovered.next (h : g.Discovered n found) : g.Discovered (n + 1) found where
  first := h.first
  collected := h.collected
  source_le e he := by
    have := h.source_le e he
    omega
  sorted := h.sorted
  targets_eq := h.targets_eq

theorem Discovered.addEdge (h : g.Discovered n found) (X : Symbol) (more : List SignedSet)
    (hmore : ∀ set ∈ more, g.Collected set.items) {t : Nat}
    (htargets : 0 :: Distinct.insert (Distinct.ofList (found.edges.map Edge.target)) (t : Int) =
      (List.range (found.sets ++ more).length).map Nat.cast) :
    g.Discovered n ⟨found.sets ++ more, found.edges ++ [⟨n, t, X⟩]⟩ where
  first := getElem?_append_of_eq_some h.first _
  collected set hset := by
    rcases List.mem_append.mp hset with hset | hset
    · exact h.collected set hset
    · exact hmore set hset
  source_le e he := by
    rcases List.mem_append.mp he with he | he
    · exact h.source_le e he
    · rw [List.mem_singleton.mp he]
  sorted := by
    rw [List.pairwise_append]
    refine ⟨h.sorted, List.pairwise_singleton _ _, ?_⟩
    intro e he d hd
    rw [List.mem_singleton.mp hd]
    exact h.source_le e he
  targets_eq := by
    rw [← htargets, List.map_append, Distinct.ofList, List.map_singleton, Distinct.extend_concat]
    rfl

theorem Discovered.connect (hg : g.WellFormed) (h : g.Discovered n found) {S : SignedSet}
    (hS : found.sets[n]? = some S) (hX : X ∈ S.items.nextSymbols) :
    g.Discovered n (found.connect n X (g.goto S.items X).signed) := by
  have hcollected := h.collected S (List.mem_of_getElem? hS)
  have hregular := hcollected.regular hg
  unfold Exploration.connect
  split
  · next t hlocate =>
    -- An edge has led to the set before, unless it is the first set, to which no GOTO leads.
    obtain ⟨ht, hsignature, -⟩ := List.findIdx?_eq_some_iff_getElem.mp hlocate
    have hne : t ≠ 0 := by
      rintro rfl
      have hfirst : found.sets[0] = (g.closure [g.startItem]).signed :=
        (List.getElem?_eq_some_iff.mp h.first).2
      rw [hfirst] at hsignature
      have hmem := (regular_start hg).mem_iff_of_signature_eq hg (hregular.goto hg hX)
        (of_decide_eq_true hsignature) g.startItem
      exact startItem_not_mem_goto hg hregular.hasItem (hmem.mp (mem_closure_of_mem List.mem_cons_self))
    have hseen : (t : Int) ∈ Distinct.ofList (found.edges.map Edge.target) := by
      have hmem : (t : Int) ∈ (List.range found.sets.length).map Nat.cast :=
        List.mem_map_of_mem (List.mem_range.mpr ht)
      rw [← h.targets_eq] at hmem
      rcases List.mem_cons.mp hmem with hzero | hmem
      · exact absurd (Int.ofNat.inj hzero) hne
      · exact hmem
    have hadd := h.addEdge X [] (by simp) (t := t) (by rw [Distinct.insert, if_pos hseen, h.targets_eq]; simp)
    simpa using hadd
  · have hnew : (found.sets.length : Int) ∉ Distinct.ofList (found.edges.map Edge.target) := by
      intro hmem
      have hmem := List.mem_cons_of_mem 0 hmem
      rw [h.targets_eq] at hmem
      obtain ⟨m, hm, heq⟩ := List.mem_map.mp hmem
      exact Nat.ne_of_lt (List.mem_range.mp hm) (Int.ofNat.inj heq)
    apply h.addEdge X [(g.goto S.items X).signed]
    · intro set hset
      rw [List.mem_singleton.mp hset]
      exact .goto hcollected X (goto_ne_nil hX)
    · rw [Distinct.insert, if_neg hnew, ← List.cons_append, h.targets_eq, List.length_append,
        List.length_singleton, List.range_succ, List.map_append]
      rfl

theorem discovered_exploration (hg : g.WellFormed) : ∃ n, g.Discovered n g.exploration :=
  Predictor.explore_induction (P := g.predictor) (fun _ _ _ _ hS hX h => h.connect hg hS hX)
    (fun _ _ h => h.next) _ 0 (discovered_start g)

theorem collected_of_mem_states (hg : g.WellFormed) {s : State} (hs : s ∈ g.automaton.states) :
    g.Collected s.items := by
  obtain ⟨n, hdiscovered⟩ := discovered_exploration hg
  obtain ⟨m, S, hS, rfl⟩ := mem_states_toAutomaton.mp hs
  exact hdiscovered.collected S (List.mem_of_getElem? hS)

/-- The states are the item sets that GOTO reaches, each of them once, and every symbol after a dot has its edge.
Item sets are compared as sets; `closure_kernel` is about the list. -/
structure IsCollection (g : Grammar) (a : Automaton) : Prop where
  collects : ∀ items, g.Collected items → ∃ s ∈ a.states, s.items.toFinset = items.toFinset
  collected : ∀ s ∈ a.states, g.Collected s.items
  sets_distinct : ∀ s ∈ a.states, ∀ t ∈ a.states, s.items.toFinset = t.items.toFinset → s = t
  numbered : ∀ (n : Nat) (s : State), a.states[n]? = some s → s.id = n
  one_edge : ∀ s ∈ a.states, ∀ i ∈ s.items, ∀ X, i.next? = some X →
    (a.edges.map fun e => (e.source, e.symbol)).count (s.id, X) = 1
  edge_goto : ∀ e ∈ a.edges, ∃ s ∈ a.states, ∃ t ∈ a.states, s.id = e.source ∧ t.id = e.target ∧
    (∃ i ∈ s.items, i.next? = some e.symbol) ∧ t.items.toFinset = (g.goto s.items e.symbol).toFinset
  edges_sorted : a.edges.Pairwise fun e d => e.source ≤ d.source
  targets_numbered : 0 :: Distinct.ofList (a.edges.map Edge.target) = (List.range a.states.length).map Nat.cast
  closure_kernel : ∀ s ∈ a.states, g.closure s.items.kernel = s.items

theorem eq_of_toFinset_eq (hg : g.WellFormed) {s t : State} (hs : s ∈ g.automaton.states)
    (ht : t ∈ g.automaton.states) (h : s.items.toFinset = t.items.toFinset) : s = t := by
  have hexplored := explored_exploration hg
  obtain ⟨m, S, hS, rfl⟩ := mem_states_toAutomaton.mp hs
  obtain ⟨n, T, hT, rfl⟩ := mem_states_toAutomaton.mp ht
  have hsignature : S.items.signature = T.items.signature := by
    apply signature_eq_of_mem_iff (hexplored.regular S (List.mem_of_getElem? hS)).nodup
      (hexplored.regular T (List.mem_of_getElem? hT)).nodup
    intro i
    rw [← List.mem_toFinset, h, List.mem_toFinset]
  have hmn : m = n := by
    apply (List.getElem?_inj (by simpa using (List.getElem?_eq_some_iff.mp hS).1) hexplored.distinct).mp
    rw [List.getElem?_map, List.getElem?_map, hS, hT, Option.map_some, Option.map_some, S.signature_eq,
      T.signature_eq, hsignature]
  subst hmn
  rw [hS] at hT
  cases hT
  rfl

/-- The automaton is the canonical collection of item sets, numbered in the order of discovery. -/
theorem isCollection_automaton {text : String} (hread : read text = .ok g) : g.IsCollection g.automaton := by
  have hg := wellFormed_of_read hread
  have ha := isCanonical_automaton hg
  have hexplored := explored_exploration hg
  obtain ⟨n, hdiscovered⟩ := discovered_exploration hg
  have hcollected : ∀ s ∈ g.automaton.states, g.Collected s.items := by
    intro s hs
    obtain ⟨m, S, hS, rfl⟩ := mem_states_toAutomaton.mp hs
    exact hdiscovered.collected S (List.mem_of_getElem? hS)
  exact {
    collects := fun items hitems => hitems.exists_state hg ha
    collected := hcollected
    sets_distinct := fun s hs t ht h => eq_of_toFinset_eq hg hs ht h
    numbered := by
      intro m s hs
      simp only [automaton, Exploration.toAutomaton, List.getElem?_map, List.getElem?_zipIdx,
        Option.map_eq_some_iff] at hs
      obtain ⟨-, ⟨S, -, rfl⟩, rfl⟩ := hs
      simp
    one_edge := by
      intro s hs i hi X hnext
      obtain ⟨e, he, hsource, rfl⟩ := ha.edge_exists s hs X (ItemSet.mem_nextSymbols.mpr ⟨i, hi, hnext⟩)
      apply List.count_eq_one_of_mem hexplored.keys_distinct
      exact List.mem_map.mpr ⟨e, he, by rw [hsource]⟩
    edge_goto := by
      intro e he
      obtain ⟨s, hs, t, ht, hsource, htarget, hX, hitems⟩ := ha.edge_goto e he
      refine ⟨s, hs, t, ht, hsource, htarget, ItemSet.mem_nextSymbols.mp hX, ?_⟩
      ext i
      rw [List.mem_toFinset, List.mem_toFinset]
      exact hitems i
    edges_sorted := hdiscovered.sorted
    targets_numbered := by
      rw [show g.automaton.states.length = g.exploration.sets.length by simp [automaton, Exploration.toAutomaton]]
      exact hdiscovered.targets_eq
    closure_kernel := fun s hs => (hcollected s hs).closure_kernel hg }

/-- A grammar with a line that occurs twice. -/
def doubled : Grammar where
  start := .nonterminal "S"
  rules := [⟨.nonterminal "S", [.terminal "a"]⟩, ⟨.nonterminal "S", [.terminal "a"]⟩]

theorem read_doubled : read "S -> a\nS -> a" = .ok doubled := rfl

theorem isCollection_automaton_doubled :
    read "S -> a\nS -> a" = .ok doubled ∧ doubled.automaton.states.length = 3 ∧
      doubled.IsCollection doubled.automaton :=
  ⟨read_doubled, rfl, isCollection_automaton read_doubled⟩

end Grammar

end CanonicalLR
