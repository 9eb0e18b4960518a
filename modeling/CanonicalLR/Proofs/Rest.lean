import CanonicalLR.Proofs.Collection
import Mathlib.Logic.Function.Iterate

/-! # Every loop of the construction comes to rest

A loop that repeats a pass until the pass changes nothing comes to rest when every pass appends to a list
without repeats that cannot leave a finite range: then each pass but the last adds something. FIRST facts
range over the nonterminals with `ε` or a written terminal, and a closure over the given items and the
productions at dot 0 with terminals of the grammar. The worklist of the exploration is emptied because no
two of its sets have the same items, all of them items of the grammar.
-/
namespace CanonicalLR

section Repetition

variable {α : Type} {step : List α → List α} {xs : List α} {n : Nat}

/-- Each of the first `n` repetitions of the step adds something, and the next one changes nothing. -/
structure RestsAfter (step : List α → List α) (xs : List α) (n : Nat) : Prop where
  adds : ∀ k < n, ∃ x, x ∉ step^[k] xs ∧ x ∈ step^[k + 1] xs
  rests : step (step^[n] xs) = step^[n] xs

theorem RestsAfter.tail (h : RestsAfter step xs (n + 1)) : RestsAfter step (step xs) n where
  adds k hk := h.adds (k + 1) (Nat.succ_lt_succ hk)
  rests := h.rests

theorem iterate_induction (Kept : List α → Prop) (hkept : ∀ ys, Kept ys → Kept (step ys)) (hxs : Kept xs) (n : Nat) :
    Kept (step^[n] xs) := by
  induction n with
  | zero => exact hxs
  | succ n ih =>
    rw [Function.iterate_succ_apply']
    exact hkept _ ih

/-- The number of repetitions is the least after which nothing changes. -/
theorem RestsAfter.unique {m : Nat} (h : RestsAfter step xs m) (h' : RestsAfter step xs n) : m = n := by
  have hle : ∀ {m n : Nat}, RestsAfter step xs m → RestsAfter step xs n → n ≤ m := by
    intro m n h h'
    by_contra hlt
    obtain ⟨x, hx, hx'⟩ := h'.adds m (by omega)
    rw [Function.iterate_succ_apply', h.rests] at hx'
    exact hx hx'
  exact Nat.le_antisymm (hle h' h) (hle h h')

/-- Steps that agree on what is kept are repeated alike. -/
theorem iterate_congr {step' : List α → List α} (Kept : List α → Prop) (hkept : ∀ ys, Kept ys → Kept (step ys))
    (hsame : ∀ ys, Kept ys → step' ys = step ys) (hxs : Kept xs) (n : Nat) : step'^[n] xs = step^[n] xs := by
  induction n with
  | zero => rfl
  | succ n ih => rw [Function.iterate_succ_apply', Function.iterate_succ_apply', ih,
      hsame _ (iterate_induction Kept hkept hxs n)]

theorem RestsAfter.congr {step' : List α → List α} (Kept : List α → Prop) (hkept : ∀ ys, Kept ys → Kept (step ys))
    (hsame : ∀ ys, Kept ys → step' ys = step ys) (hxs : Kept xs) (h : RestsAfter step' xs n) :
    RestsAfter step xs n where
  adds k hk := by
    have hadds := h.adds k hk
    rwa [iterate_congr Kept hkept hsame hxs k, iterate_congr Kept hkept hsame hxs (k + 1)] at hadds
  rests := by
    have hrests := h.rests
    rwa [iterate_congr Kept hkept hsame hxs n, hsame _ (iterate_induction Kept hkept hxs n)] at hrests

/-- Steps that only append, to lists of bounded length without repeats, come to rest. -/
theorem exists_restsAfter [DecidableEq α] (bound : Nat) (Kept : List α → Prop) (hfront : ∀ ys, ys <+: step ys)
    (hkept : ∀ ys, Kept ys → Kept (step ys)) (hnodup : ∀ ys, Kept ys → ys.Nodup)
    (hbound : ∀ ys, Kept ys → ys.length ≤ bound) (hxs : Kept xs) :
    ∃ n, n + xs.length ≤ bound ∧ RestsAfter step xs n := by
  induction hroom : bound - xs.length using Nat.strong_induction_on generalizing xs with
  | _ room ih =>
    by_cases hfixed : step xs = xs
    · exact ⟨0, by simpa using hbound xs hxs, by simp, hfixed⟩
    · obtain ⟨new, hnew⟩ := hfront xs
      obtain ⟨x, new, rfl⟩ : ∃ x rest, new = x :: rest := by
        apply List.exists_cons_of_ne_nil
        rintro rfl
        exact hfixed (by rw [← hnew, List.append_nil])
      have hstep := hkept xs hxs
      have hlength : xs.length < (step xs).length := by simp [← hnew]
      have hle := hbound _ hstep
      obtain ⟨n, hn, hrests⟩ := ih _ (by omega) hstep rfl
      refine ⟨n + 1, by omega, ?_, hrests.rests⟩
      rintro (_ | k) hk
      · have hdistinct := hnodup _ hstep
        rw [← hnew, List.nodup_append] at hdistinct
        refine ⟨x, fun hx => hdistinct.2.2 x hx x List.mem_cons_self rfl, ?_⟩
        rw [Function.iterate_one, ← hnew]
        exact List.mem_append_right _ List.mem_cons_self
      · exact hrests.adds k (by omega)

/-- A repetition that may go on long enough gives the list at rest. -/
theorem saturate_eq_iterate [DecidableEq α] {fuel : Nat} (h : RestsAfter step xs n) (hn : n ≤ fuel) :
    saturate step fuel xs = step^[n] xs := by
  induction n generalizing xs fuel with
  | zero =>
    have hfixed : step xs = xs := h.rests
    cases fuel with
    | zero => rfl
    | succ fuel => rw [saturate, if_pos hfixed, Function.iterate_zero_apply]
  | succ n ih =>
    obtain ⟨fuel, rfl⟩ : ∃ rest, fuel = rest + 1 := ⟨fuel - 1, by omega⟩
    have hchanges : step xs ≠ xs := by
      intro hfixed
      obtain ⟨x, hx, hx'⟩ := h.adds 0 (Nat.succ_pos n)
      rw [Function.iterate_zero_apply] at hx
      rw [zero_add, Function.iterate_one, hfixed] at hx'
      exact hx hx'
    rw [saturate, if_neg hchanges, ih h.tail (by omega), ← Function.iterate_succ_apply]

end Repetition

/-- The worklist holds the sets from number `n` on. Its first set is visited and taken off, which may put new sets at
its end, until it is empty. -/
inductive Emptied (P : Predictor) : Nat → Exploration → Exploration → Prop
  | done {n : Nat} {found : Exploration} (empty : found.sets.drop n = []) : Emptied P n found found
  | visit {n : Nat} {found final : Exploration} {set : SignedSet} {waiting : List SignedSet}
      (first : found.sets.drop n = set :: waiting) (rest : Emptied P (n + 1) (P.visit n set.items found) final) :
      Emptied P n found final

/-- Only one exploration is left in the end. -/
theorem Emptied.unique {P : Predictor} {n : Nat} {found final final' : Exploration} (h : Emptied P n found final)
    (h' : Emptied P n found final') : final = final' := by
  induction h with
  | done empty =>
    cases h' with
    | done => rfl
    | visit first =>
      rw [empty] at first
      cases first
  | visit first rest ih =>
    cases h' with
    | done empty =>
      rw [empty] at first
      cases first
    | visit first' rest' =>
      rw [first] at first'
      cases first'
      exact ih rest'

namespace Grammar

variable {g : Grammar} {items : ItemSet} {order : List Production}

/-- A pass over the productions in some order. -/
def passOver (order : List Production) (facts : FirstFacts) : FirstFacts :=
  order.foldl applyProduction facts

theorem factsInRange_iterate (hg : g.WellFormed) (horder : ∀ p ∈ order, p ∈ g.productions) (n : Nat) :
    g.FactsInRange ((passOver order)^[n] []) :=
  iterate_induction g.FactsInRange (fun _ h => h.foldl_applyProduction hg horder) ⟨List.nodup_nil, by simp⟩ n

theorem exists_restsAfter_passOver (hg : g.WellFormed) (horder : ∀ p ∈ order, p ∈ g.productions) :
    ∃ n ≤ g.nonterminals.length * g.terminals.length, RestsAfter (passOver order) [] n :=
  exists_restsAfter _ g.FactsInRange (fun facts => prefix_foldl prefix_applyProduction facts order)
    (fun _ h => h.foldl_applyProduction hg horder) (fun _ h => h.nodup) (fun _ h => h.length_le)
    ⟨List.nodup_nil, by simp⟩

/-- Whatever the order, passes over all productions come to rest with the same facts. -/
theorem mem_iterate_passOver_iff (hg : g.WellFormed) (horder : ∀ p, p ∈ order ↔ p ∈ g.productions) {n : Nat}
    (hrests : RestsAfter (passOver order) [] n) (fact : Symbol × Symbol) :
    fact ∈ (passOver order)^[n] [] ↔ fact ∈ g.firstFacts := by
  constructor
  · exact iterate_induction (fun facts => ∀ fact ∈ facts, fact ∈ g.firstFacts)
      (fun _ h => (respects_firstFacts hg).foldl_applyProduction (fun p => (horder p).mp) h) (by simp) n fact
  · have hrespects : g.Respects ((passOver order)^[n] []) := by
      intro p hp x hx
      have hfixed := step_eq_of_foldl_eq prefix_applyProduction hrests.rests p ((horder p).mpr hp)
      rw [← hfixed]
      exact FirstFacts.mem_add.mpr (Or.inr ⟨rfl, hx⟩)
    exact hrespects.mem_of_mem_firstFacts fact

/-- The closure comes to rest, and what it adds to the given items has its dot in front and a terminal of the grammar
as its lookahead. -/
structure ClosureRests (g : Grammar) (items : ItemSet) : Prop where
  rests : ∃ n, RestsAfter g.predictor.closurePass (Distinct.ofList items) n ∧
    g.closure items = g.predictor.closurePass^[n] (Distinct.ofList items)
  added : ∀ i ∈ g.closure items, i ∉ items → i.dot = 0 ∧ i.lookahead ∈ g.terminals

theorem closureRests (hg : g.WellFormed) (hitems : ∀ i ∈ items, g.HasItem i) : g.ClosureRests items where
  rests := by
    obtain ⟨n, hn, hrests⟩ := exists_restsAfter _ (g.Closing items) (prefix_closurePass g.predictor)
      (fun _ h => h.closurePass hg) (fun _ h => h.nodup) (fun _ h => h.length_le)
      (.ofList fun i hi => (hitems i hi).admits)
    refine ⟨n, hrests, saturate_eq_iterate hrests ?_⟩
    change n ≤ g.productions.length * (g.terminals.length + items.length) + 1
    omega
  added i hi hnew := by
    have hadmits : ∀ i ∈ items, g.Admits i := fun i hi => (hitems i hi).admits
    have hitem : g.HasItem i := closure_induction hitems (fun _ hi _ hj => hi.of_mem_predictions hg hj) i hi
    rcases (closing_closure hg hadmits).given_or_new i hi with hgiven | ⟨hdot, -⟩
    · exact absurd hgiven hnew
    · exact ⟨hdot, hitem.lookahead_mem⟩

/-- The exploration goes on until its worklist is empty. -/
theorem emptied_explore (hg : g.WellFormed) {fuel n : Nat} {found : Exploration} (h : g.Explored n [] found)
    (hfuel : 2 ^ g.itemCount < fuel + n) (hn : n ≤ found.sets.length) :
    Emptied g.predictor n found (g.predictor.explore fuel n found) := by
  induction fuel generalizing n found with
  | zero =>
    have hlength := length_le_of_regular h.regular h.distinct
    omega
  | succ fuel ih =>
    unfold Predictor.explore
    split
    · next hnone => exact .done (List.drop_eq_nil_of_le (List.getElem?_eq_none_iff.mp hnone))
    · next set hset =>
      obtain ⟨hlt, hget⟩ := List.getElem?_eq_some_iff.mp hset
      have hfirst : found.sets.drop n = set :: found.sets.drop (n + 1) := by
        rw [← hget]
        exact List.drop_eq_getElem_cons hlt
      have hle := (sets_visit g.predictor n set.items found).length_le
      exact .visit hfirst (ih (h.visit hg hset) (by omega) (by omega))

theorem emptied_exploration (hg : g.WellFormed) :
    Emptied g.predictor 0 ⟨[(g.closure [g.startItem]).signed], []⟩ g.exploration :=
  emptied_explore hg (explored_start hg) (Nat.lt_succ_self _) (Nat.zero_le _)

/-- The loops that find FIRST facts, in whatever order their passes take the productions, that close item sets and that
explore the automaton all come to an end, and what they find stays in its range. -/
structure LoopsEnd (g : Grammar) : Prop where
  first_range : ∀ order, (∀ p, p ∈ order ↔ p ∈ g.productions) → ∀ n, ∀ fact ∈ (passOver order)^[n] [],
    fact.1 ∈ g.nonterminals ∧ (fact.2 = .epsilon ∨ fact.2 ∈ g.terminals ∧ fact.2 ≠ .endMarker)
  first_rests : ∀ order, (∀ p, p ∈ order ↔ p ∈ g.productions) →
    ∃ n ≤ g.nonterminals.length * g.terminals.length, RestsAfter (passOver order) [] n ∧
      ∀ fact, fact ∈ (passOver order)^[n] [] ↔ fact ∈ g.firstFacts
  first_found : ∃ n, RestsAfter g.firstPass [] n ∧ g.firstFacts = g.firstPass^[n] []
  closure_start : g.ClosureRests [g.startItem]
  closure_goto : ∀ s ∈ g.automaton.states, ∀ X, g.ClosureRests (s.items.advanceOver X)
  worklist_emptied : Emptied g.predictor 0 ⟨[(g.closure [g.startItem]).signed], []⟩ g.exploration
  states_le : g.automaton.states.length ≤ g.allItems.toFinset.powerset.card

theorem mem_terminals_of_mem_firstRange (hg : g.WellFormed) {x : Symbol} (hx : x ∈ g.firstRange) :
    x = .epsilon ∨ x ∈ g.terminals ∧ x ≠ .endMarker := by
  rcases List.mem_cons.mp hx with hepsilon | hwritten
  · exact Or.inl hepsilon
  · exact Or.inr ⟨List.mem_append_left _ hwritten, (isWritten_of_mem_writtenTerminals hg hwritten).ne_endMarker⟩

theorem loops_end {text : String} (hread : read text = .ok g) : g.LoopsEnd := by
  have hg := wellFormed_of_read hread
  have hexplored := explored_exploration hg
  exact {
    first_range := by
      intro order horder n fact hfact
      obtain ⟨hnonterminal, hrange⟩ := (factsInRange_iterate hg (fun p => (horder p).mp) n).inRange fact hfact
      exact ⟨hnonterminal, mem_terminals_of_mem_firstRange hg hrange⟩
    first_rests := by
      intro order horder
      obtain ⟨n, hn, hrests⟩ := exists_restsAfter_passOver hg fun p => (horder p).mp
      exact ⟨n, hn, hrests, mem_iterate_passOver_iff hg horder hrests⟩
    first_found := by
      obtain ⟨n, hn, hrests⟩ := exists_restsAfter_passOver hg fun p => (mem_passProductions (g := g) (p := p)).mp
      exact ⟨n, hrests, saturate_eq_iterate hrests (Nat.le_succ_of_le hn)⟩
    closure_start := by
      apply closureRests hg
      intro i hi
      rw [List.mem_singleton.mp hi]
      exact hasItem_startItem g
    closure_goto := by
      intro s hs X
      exact closureRests hg (hasItem_of_mem_advanceOver ((isCanonical_automaton hg).regular s hs).hasItem)
    worklist_emptied := emptied_exploration hg
    states_le := by
      have hlength := length_le_card_of_regular hexplored.regular hexplored.distinct
      simpa [automaton, Exploration.toAutomaton] using hlength }

/-- A grammar with a left recursion over an empty rule, a rule that gives its own left side and a nonterminal without
rules. -/
def looping : Grammar where
  start := .nonterminal "S"
  rules := [⟨.nonterminal "S", [.nonterminal "S", .nonterminal "A"]⟩, ⟨.nonterminal "S", []⟩,
    ⟨.nonterminal "A", [.nonterminal "A"]⟩, ⟨.nonterminal "A", [.nonterminal "B", .terminal "a"]⟩]

theorem read_looping : read "S -> S A\nS ->\nA -> A\nA -> B a" = .ok looping := rfl

theorem loops_end_looping : read "S -> S A\nS ->\nA -> A\nA -> B a" = .ok looping ∧ looping.LoopsEnd :=
  ⟨read_looping, loops_end read_looping⟩

end Grammar

end CanonicalLR
