import CanonicalLR.Proofs.Regular

/-! # The exploration yields a canonical collection

The sets found are regular with different signatures, and every edge leads from a visited set over a
symbol after a dot to the set of that GOTO. Connecting and visiting keep this. Since there are no more
regular sets than the exploration may visit, it ends with all of them visited.
-/
namespace CanonicalLR.Grammar

variable {g : Grammar} {n : Nat} {done : List Symbol} {found : Exploration} {set : SignedSet} {X : Symbol}

/-- The edge leads from the set with number `s` over a symbol after a dot to the set of that GOTO. -/
structure Leads (g : Grammar) (found : Exploration) (s : Nat) (e : Edge) : Prop where
  source_eq : e.source = s
  goto_mem : ∃ S, found.sets[s]? = some S ∧ e.symbol ∈ S.items.nextSymbols ∧
    ∃ (t : Nat) (T : SignedSet), e.target = t ∧ found.sets[t]? = some T ∧
      T.signature = (g.goto S.items e.symbol).signature

/-- The sets before number `n` have been visited, and of set `n` the symbols in `done`. -/
structure Explored (g : Grammar) (n : Nat) (done : List Symbol) (found : Exploration) : Prop where
  first : found.sets[0]? = some (g.closure [g.startItem]).signed
  regular : ∀ set ∈ found.sets, g.Regular set.items
  distinct : (found.sets.map SignedSet.signature).Nodup
  leads : ∀ e ∈ found.edges, ∃ s, (s < n ∨ s = n ∧ e.symbol ∈ done) ∧ g.Leads found s e
  edge_exists : ∀ s S, found.sets[s]? = some S → ∀ X ∈ S.items.nextSymbols,
    s < n ∨ s = n ∧ X ∈ done → ∃ e ∈ found.edges, e.source = s ∧ e.symbol = X
  keys_distinct : (found.edges.map fun e => (e.source, e.symbol)).Nodup

theorem explored_start (hg : g.WellFormed) :
    g.Explored 0 [] ⟨[(g.closure [g.startItem]).signed], []⟩ where
  first := rfl
  regular set hset := by
    rw [List.mem_singleton.mp hset]
    exact regular_start hg
  distinct := List.nodup_singleton _
  leads := by simp
  edge_exists := by simp
  keys_distinct := List.nodup_nil

theorem Leads.append {e : Edge} {s : Nat} (h : g.Leads found s e) (more : List SignedSet) (edges : List Edge) :
    g.Leads ⟨found.sets ++ more, edges⟩ s e where
  source_eq := h.source_eq
  goto_mem := by
    obtain ⟨S, hS, hX, t, T, htarget, hT, hsignature⟩ := h.goto_mem
    exact ⟨S, getElem?_append_of_eq_some hS _, hX, t, T, htarget, getElem?_append_of_eq_some hT _, hsignature⟩

/-- An edge from set `n` over a new symbol, to a set that may have been put at the end for it. -/
theorem Explored.addEdge (h : g.Explored n done found) (more : List SignedSet)
    (hmore : ∀ set ∈ more, g.Regular set.items)
    (hdistinct : ((found.sets ++ more).map SignedSet.signature).Nodup) {S T : SignedSet} {t : Nat}
    (hS : found.sets[n]? = some S) (hX : X ∈ S.items.nextSymbols) (hnew : X ∉ done)
    (hT : (found.sets ++ more)[t]? = some T) (hsignature : T.signature = (g.goto S.items X).signature) :
    g.Explored n (X :: done) ⟨found.sets ++ more, found.edges ++ [⟨n, t, X⟩]⟩ where
  first := getElem?_append_of_eq_some h.first _
  regular set hset := by
    rcases List.mem_append.mp hset with hset | hset
    · exact h.regular set hset
    · exact hmore set hset
  distinct := hdistinct
  leads e he := by
    rcases List.mem_append.mp he with he | he
    · obtain ⟨s, hs, hleads⟩ := h.leads e he
      exact ⟨s, hs.imp_right fun hs => ⟨hs.1, List.mem_cons_of_mem X hs.2⟩, hleads.append more _⟩
    · rw [List.mem_singleton.mp he]
      exact ⟨n, Or.inr ⟨rfl, List.mem_cons_self⟩, rfl, S, getElem?_append_of_eq_some hS _, hX, t, T, rfl, hT,
        hsignature⟩
  edge_exists s S' hS' Y hY hs := by
    have hn : n < found.sets.length := (List.getElem?_eq_some_iff.mp hS).1
    have hsn : s ≤ n := by
      rcases hs with hs | ⟨hs, -⟩
      · exact Nat.le_of_lt hs
      · exact Nat.le_of_eq hs
    rw [List.getElem?_append_left (Nat.lt_of_le_of_lt hsn hn)] at hS'
    by_cases hYX : s = n ∧ Y = X
    · exact ⟨⟨n, t, X⟩, List.mem_append_right _ List.mem_cons_self, congrArg Nat.cast hYX.1.symm, hYX.2.symm⟩
    · have hold : s < n ∨ s = n ∧ Y ∈ done := by
        refine hs.imp_right fun hs => ⟨hs.1, ?_⟩
        rcases List.mem_cons.mp hs.2 with hY | hY
        · exact absurd ⟨hs.1, hY⟩ hYX
        · exact hY
      obtain ⟨e, he, hsource, hsymbol⟩ := h.edge_exists s S' hS' Y hY hold
      exact ⟨e, List.mem_append_left _ he, hsource, hsymbol⟩
  keys_distinct := by
    rw [List.map_append, List.nodup_append]
    refine ⟨h.keys_distinct, List.nodup_singleton _, ?_⟩
    intro key hkey key' hkey' heq
    rw [List.mem_singleton.mp hkey'] at heq
    obtain ⟨e, he, rfl⟩ := List.mem_map.mp hkey
    obtain ⟨hsource, hsymbol⟩ := Prod.mk.inj heq
    obtain ⟨s, hs, hleads⟩ := h.leads e he
    have hsn : s = n := by
      rw [hleads.source_eq] at hsource
      exact Int.ofNat.inj hsource
    rcases hs with hs | ⟨-, hdone⟩
    · omega
    · rw [show e.symbol = X from hsymbol] at hdone
      exact hnew hdone

theorem Explored.connect (hg : g.WellFormed) (h : g.Explored n done found) {S : SignedSet}
    (hS : found.sets[n]? = some S) (hX : X ∈ S.items.nextSymbols) (hnew : X ∉ done) :
    g.Explored n (X :: done) (found.connect n X (g.goto S.items X).signed) := by
  have hgoto : g.Regular (g.goto S.items X) := (h.regular S (List.mem_of_getElem? hS)).goto hg hX
  unfold Exploration.connect
  split
  · next t hlocate =>
    obtain ⟨ht, hsignature, -⟩ := List.findIdx?_eq_some_iff_getElem.mp hlocate
    have hadd := h.addEdge [] (by simp) (by simpa using h.distinct) hS hX hnew
      (t := t) (T := found.sets[t]) (by simp) (of_decide_eq_true hsignature)
    simpa using hadd
  · next hlocate =>
    have hfresh : (g.goto S.items X).signature ∉ found.sets.map SignedSet.signature := by
      intro hmem
      obtain ⟨T, hT, hsignature⟩ := List.mem_map.mp hmem
      have hnone := List.findIdx?_eq_none_iff.mp hlocate T hT
      rw [decide_eq_false_iff_not] at hnone
      exact hnone hsignature
    refine h.addEdge [(g.goto S.items X).signed] ?_ ?_ hS hX hnew (T := (g.goto S.items X).signed) (by simp) rfl
    · intro set hset
      rw [List.mem_singleton.mp hset]
      exact hgoto
    · rw [List.map_append, List.nodup_append]
      refine ⟨h.distinct, List.nodup_singleton _, ?_⟩
      rintro signature hmem _ hnew rfl
      rw [List.mem_singleton.mp hnew] at hmem
      exact hfresh hmem

theorem sets_connect (found : Exploration) (source : Nat) (X : Symbol) (set : SignedSet) :
    found.sets <+: (found.connect source X set).sets := by
  unfold Exploration.connect
  split
  · exact List.prefix_rfl
  · exact List.prefix_append _ _

theorem Explored.visitSymbols (hg : g.WellFormed) {S : SignedSet} {Xs : List Symbol}
    (hXs : ∀ X ∈ Xs, X ∈ S.items.nextSymbols) (hnodup : Xs.Nodup) (hnew : ∀ X ∈ Xs, X ∉ done)
    (hS : found.sets[n]? = some S) (h : g.Explored n done found) :
    g.Explored n (Xs.reverse ++ done)
      (Xs.foldl (fun found X => found.connect n X (g.goto S.items X).signed) found) := by
  induction Xs generalizing done found with
  | nil => exact h
  | cons X Xs ih =>
    have hstep := h.connect hg hS (hXs X List.mem_cons_self) (hnew X List.mem_cons_self)
    obtain ⟨hX, hnodup⟩ := List.nodup_cons.mp hnodup
    rw [List.foldl_cons, List.reverse_cons, List.append_assoc]
    apply ih (fun Y hY => hXs Y (List.mem_cons_of_mem X hY)) hnodup ?_ ?_ hstep
    · intro Y hY hdone
      rcases List.mem_cons.mp hdone with rfl | hdone
      · exact hX hY
      · exact hnew Y (List.mem_cons_of_mem X hY) hdone
    · obtain ⟨more, hmore⟩ := sets_connect found n X (g.goto S.items X).signed
      rw [← hmore]
      exact getElem?_append_of_eq_some hS more

theorem sets_visit (P : Predictor) (n : Nat) (items : ItemSet) (found : Exploration) :
    found.sets <+: (P.visit n items found).sets := by
  unfold Predictor.visit
  generalize items.nextSymbols = Xs
  induction Xs generalizing found with
  | nil => exact List.prefix_rfl
  | cons X Xs ih => exact (sets_connect found n X _).trans (ih _)

/-- A visit connects the set with all its symbols after dots. -/
theorem Explored.visit (hg : g.WellFormed) {S : SignedSet} (hS : found.sets[n]? = some S)
    (h : g.Explored n [] found) : g.Explored (n + 1) [] (g.predictor.visit n S.items found) := by
  have hall := h.visitSymbols hg (fun X hX => hX) (Distinct.nodup_ofList _) (by simp) hS
  have hS' : (g.predictor.visit n S.items found).sets[n]? = some S := by
    obtain ⟨more, hmore⟩ := sets_visit g.predictor n S.items found
    rw [← hmore]
    exact getElem?_append_of_eq_some hS more
  exact {
    first := hall.first
    regular := hall.regular
    distinct := hall.distinct
    leads := by
      intro e he
      obtain ⟨s, hs, hleads⟩ := hall.leads e he
      refine ⟨s, Or.inl ?_, hleads⟩
      rcases hs with hs | ⟨hs, -⟩ <;> omega
    edge_exists := by
      intro s T hT X hX hs
      apply hall.edge_exists s T hT X hX
      rcases hs with hs | ⟨-, hs⟩
      · by_cases hsn : s = n
        · subst hsn
          rw [hS'] at hT
          cases hT
          exact Or.inr ⟨rfl, by simpa using hX⟩
        · exact Or.inl (by omega)
      · cases hs
    keys_distinct := hall.keys_distinct }

theorem explored_explore (hg : g.WellFormed) {fuel : Nat} (h : g.Explored n [] found)
    (hn : n ≤ found.sets.length) (hfuel : 2 ^ g.itemCount < fuel + n) :
    g.Explored (g.predictor.explore fuel n found).sets.length [] (g.predictor.explore fuel n found) := by
  induction fuel generalizing n found with
  | zero =>
    have hlength := length_le_of_regular h.regular h.distinct
    omega
  | succ fuel ih =>
    unfold Predictor.explore
    split
    · next hnone =>
      rw [List.getElem?_eq_none_iff] at hnone
      rwa [Nat.le_antisymm hnone hn]
    · next S hS =>
      apply ih (h.visit hg hS) ?_ (by omega)
      have hlt := (List.getElem?_eq_some_iff.mp hS).1
      have hle := (sets_visit g.predictor n S.items found).length_le
      omega

theorem explored_exploration (hg : g.WellFormed) :
    g.Explored g.exploration.sets.length [] g.exploration :=
  explored_explore hg (explored_start hg) (Nat.zero_le _) (Nat.lt_succ_self _)

/-- The states and edges are those of the regular sets that GOTO reaches from the first set. -/
structure IsCanonical (g : Grammar) (a : Automaton) : Prop where
  start_mem : ⟨0, g.closure [g.startItem]⟩ ∈ a.states
  regular : ∀ s ∈ a.states, g.Regular s.items
  ids_distinct : (a.states.map State.id).Nodup
  edge_goto : ∀ e ∈ a.edges, ∃ s ∈ a.states, ∃ t ∈ a.states, s.id = e.source ∧ t.id = e.target ∧
    e.symbol ∈ s.items.nextSymbols ∧ ∀ i, i ∈ t.items ↔ i ∈ g.goto s.items e.symbol
  edge_exists : ∀ s ∈ a.states, ∀ X ∈ s.items.nextSymbols, ∃ e ∈ a.edges, e.source = s.id ∧ e.symbol = X
  edge_eq : ∀ e ∈ a.edges, ∀ d ∈ a.edges, e.source = d.source → e.symbol = d.symbol → e = d

theorem mem_states_toAutomaton {s : State} :
    s ∈ found.toAutomaton.states ↔
      ∃ (n : Nat) (set : SignedSet), found.sets[n]? = some set ∧ s = ⟨n, set.items⟩ := by
  simp only [Exploration.toAutomaton, List.mem_map, Prod.exists, List.mk_mem_zipIdx_iff_getElem?]
  constructor
  · rintro ⟨set, n, hset, rfl⟩
    exact ⟨n, set, hset, rfl⟩
  · rintro ⟨n, set, hset, rfl⟩
    exact ⟨set, n, hset, rfl⟩

theorem ids_distinct_toAutomaton (found : Exploration) : (found.toAutomaton.states.map State.id).Nodup := by
  have hids : found.toAutomaton.states.map State.id = (found.sets.zipIdx.map Prod.snd).map Nat.cast := by
    rw [Exploration.toAutomaton, List.map_map, List.map_map]
    rfl
  rw [hids, List.zipIdx_map_snd]
  exact (List.nodup_range' _).map fun _ _ => Int.ofNat.inj

theorem isCanonical_automaton (hg : g.WellFormed) : g.IsCanonical g.automaton := by
  have h := explored_exploration hg
  exact {
    start_mem := mem_states_toAutomaton.mpr ⟨0, _, h.first, rfl⟩
    regular := by
      intro s hs
      obtain ⟨n, set, hset, rfl⟩ := mem_states_toAutomaton.mp hs
      exact h.regular set (List.mem_of_getElem? hset)
    ids_distinct := ids_distinct_toAutomaton g.exploration
    edge_goto := by
      intro e he
      obtain ⟨s, -, hsource, S, hS, hX, t, T, htarget, hT, hsignature⟩ := h.leads e he
      have hregular := h.regular S (List.mem_of_getElem? hS)
      refine ⟨⟨s, S.items⟩, mem_states_toAutomaton.mpr ⟨s, S, hS, rfl⟩, ⟨t, T.items⟩,
        mem_states_toAutomaton.mpr ⟨t, T, hT, rfl⟩, hsource.symm, htarget.symm, hX, ?_⟩
      rw [T.signature_eq] at hsignature
      exact (h.regular T (List.mem_of_getElem? hT)).mem_iff_of_signature_eq hg (hregular.goto hg hX) hsignature
    edge_exists := by
      intro s hs X hX
      obtain ⟨n, S, hS, rfl⟩ := mem_states_toAutomaton.mp hs
      exact h.edge_exists n S hS X hX (Or.inl (List.getElem?_eq_some_iff.mp hS).1)
    edge_eq := by
      intro e he d hd hsource hsymbol
      exact List.inj_on_of_nodup_map h.keys_distinct he hd (Prod.ext hsource hsymbol) }

end CanonicalLR.Grammar
