import CanonicalLR.Proofs.Productive
import CanonicalLR.Proofs.Rightmost
import CanonicalLR.Proofs.Stack

/-! # The states hold the valid items

An item is valid for `γ` if a rightmost derivation comes to the left side of its production, and `γ` is what
stands before, with the part of the right side before the dot. The state that the edges reach along `γ`
holds the items valid for `γ` and no others. That it holds them all is an induction on the derivation:
what a step puts in is the right side of an item of an earlier state. That it holds no others needs that
every nonterminal derives words, since a lookahead may come from what has yet to be derived.
-/
namespace CanonicalLR

namespace Automaton

variable {a : Automaton} {q n : Int} {X : Symbol}

/-- The number of the state at the end of the edges with these labels. -/
def follow? (a : Automaton) (q : Int) (labels : List Symbol) : Option Int := labels.foldlM a.target? q

theorem follow?_nil (a : Automaton) (q : Int) : a.follow? q [] = some q := rfl

theorem follow?_cons (a : Automaton) (q : Int) (X : Symbol) (labels : List Symbol) :
    a.follow? q (X :: labels) = (a.target? q X).bind fun q => a.follow? q labels := rfl

theorem follow?_append (a : Automaton) (q : Int) (front back : List Symbol) :
    a.follow? q (front ++ back) = (a.follow? q front).bind fun q => a.follow? q back :=
  List.foldlM_append

theorem follow?_concat_eq_some_iff {γ : List Symbol} :
    a.follow? q (γ ++ [X]) = some n ↔ ∃ m, a.follow? q γ = some m ∧ a.target? m X = some n := by
  simp [follow?_append, follow?_cons, follow?_nil, Option.bind_eq_some_iff]

theorem Path.follow?_eq {frames : List Frame} {s : State} (h : a.Path frames s) :
    a.follow? 0 (frames.reverse.map Frame.symbol) = some s.id := by
  induction h with
  | nil mem id_eq =>
    rw [id_eq]
    rfl
  | @cons frames f s t below mem id_eq target ih =>
    rw [List.reverse_cons, List.map_append]
    exact follow?_concat_eq_some_iff.mpr ⟨s.id, ih, target⟩

end Automaton

namespace Grammar

variable {g : Grammar} {a : Automaton} {s : State} {i j : Item} {X A : Symbol} {γ u left rest : List Symbol}

/-- A rightmost derivation comes to the left side of the item with `left` before it and `right` behind it,
and `γ` leads on from `left` to the dot. -/
structure Valid (g : Grammar) (γ : List Symbol) (i : Item) : Prop where
  production_mem : i.production ∈ g.productions
  dot_le : i.dot ≤ i.production.rhs.length
  derived : ∃ (left : List Symbol) (right : List String),
    g.DerivesRightmost [g.augmentedStart] (left ++ i.production.lhs :: right.map .terminal) ∧
      γ = left ++ i.production.rhs.take i.dot ∧ i.lookahead = ahead right

theorem valid_startItem (g : Grammar) : g.Valid [] g.startItem where
  production_mem := augmentedProduction_mem g
  dot_le := Nat.zero_le _
  derived := ⟨[], [], Relation.ReflTransGen.refl, rfl, rfl⟩

theorem Valid.admits (h : g.Valid γ i) : g.Admits i := by
  obtain ⟨left, right, -, -, hlookahead⟩ := h.derived
  refine ⟨h.production_mem, ?_⟩
  rw [hlookahead]
  exact isTerminal_ahead right

theorem Valid.advance (h : g.Valid γ i) (hnext : i.next? = some X) : g.Valid (γ ++ [X]) i.advance where
  production_mem := h.production_mem
  dot_le := (Item.next?_eq_some_iff.mp hnext).1
  derived := by
    obtain ⟨left, right, hderives, rfl, hlookahead⟩ := h.derived
    refine ⟨left, right, hderives, ?_, hlookahead⟩
    rw [List.append_assoc, Item.advance, List.take_add_one, show i.production.rhs[i.dot]? = some X from hnext]
    rfl

/-- Behind the symbol after the dot, trees are derived to the words of which the lookahead is the first. -/
theorem Valid.predictions (hg : g.WellFormed) (hproductive : g.Productive) (h : g.Valid γ i)
    (hj : j ∈ g.predictor.predictions i) : g.Valid γ j := by
  obtain ⟨X, hnext, -, hp, rfl, hdot, hfollows⟩ := mem_predictions.mp hj
  obtain ⟨ts, hts, hsymbols, rest, hrest⟩ := exists_trees_of_follows hg hproductive h.admits hfollows
  obtain ⟨left, right, hderives, rfl, hlookahead⟩ := h.derived
  refine ⟨hp, by omega, left ++ i.production.rhs.take i.dot, Tree.yieldAll ts ++ right, ?_, by simp [hdot], ?_⟩
  · have hstep := hderives.tail (.intro h.production_mem left right)
    have hforest := ((derivesRightmost_forest hg hts).append_left
      (left ++ i.production.rhs.take i.dot ++ [j.production.lhs])).append_right right
    rw [Item.rhs_eq_of_next? hnext, ← hsymbols] at hstep
    simp only [List.append_assoc, List.cons_append, List.nil_append, ← List.map_append] at hstep hforest ⊢
    exact hstep.trans hforest
  · obtain ⟨rest', hahead⟩ := exists_cons_ahead (Tree.yieldAll ts) right
    rw [hlookahead, hahead] at hrest
    exact (List.cons.inj hrest).1.symm

theorem Valid.of_mem_closure (hg : g.WellFormed) (hproductive : g.Productive) {items : ItemSet}
    (hitems : ∀ i ∈ items, g.Valid γ i) : ∀ i ∈ g.closure items, g.Valid γ i :=
  closure_induction hitems fun _ hi _ hj => hi.predictions hg hproductive hj

namespace IsCanonical

theorem exists_state_of_target? (ha : g.IsCanonical a) {q n : Int} (h : a.target? q X = some n) :
    ∃ s ∈ a.states, ∃ t ∈ a.states, s.id = q ∧ t.id = n := by
  obtain ⟨s, hs, t, ht, hsource, htarget, -⟩ := ha.edge_goto _ (Automaton.mem_edges_of_target? h)
  exact ⟨s, hs, t, ht, hsource, htarget⟩

theorem exists_state_of_follow? (ha : g.IsCanonical a) {q : Int} (h : a.follow? 0 γ = some q) :
    ∃ s ∈ a.states, s.id = q := by
  induction γ using List.reverseRecOn with
  | nil =>
    cases h
    exact ⟨_, ha.start_mem, rfl⟩
  | append_singleton γ X ih =>
    obtain ⟨m, -, htarget⟩ := Automaton.follow?_concat_eq_some_iff.mp h
    obtain ⟨-, -, t, ht, -, hid⟩ := ha.exists_state_of_target? htarget
    exact ⟨t, ht, hid⟩

theorem valid_of_mem (hg : g.WellFormed) (hproductive : g.Productive) (ha : g.IsCanonical a) (hs : s ∈ a.states)
    (h : a.follow? 0 γ = some s.id) : ∀ i ∈ s.items, g.Valid γ i := by
  induction γ using List.reverseRecOn generalizing s with
  | nil =>
    rw [ha.items_eq_of_id_eq_zero hs (Option.some.inj h).symm]
    apply Valid.of_mem_closure hg hproductive
    intro i hi
    rw [List.mem_singleton.mp hi]
    exact valid_startItem g
  | append_singleton γ X ih =>
    obtain ⟨q, hq, htarget⟩ := Automaton.follow?_concat_eq_some_iff.mp h
    obtain ⟨s', hs', -, -, rfl, -⟩ := ha.exists_state_of_target? htarget
    intro i hi
    apply Valid.of_mem_closure hg hproductive ?_ i ((ha.mem_goto hs' hs htarget).mp hi)
    intro j hj
    obtain ⟨k, hk, hnext, rfl⟩ := ItemSet.mem_advanceOver.mp hj
    exact (ih hs' hq k hk).advance hnext

/-- The dot of an item can be moved over the symbols behind it, along the edges. -/
theorem exists_advanced (ha : g.IsCanonical a) (hs : s ∈ a.states) (hi : i ∈ s.items) {labels : List Symbol}
    (hdrop : i.production.rhs.drop i.dot = labels ++ rest) :
    ∃ t ∈ a.states, a.follow? s.id labels = some t.id ∧ { i with dot := i.dot + labels.length } ∈ t.items := by
  induction labels generalizing s i with
  | nil => exact ⟨s, hs, rfl, hi⟩
  | cons X labels ih =>
    have hnext : i.next? = some X := by
      rw [Item.next?, ← List.head?_drop, hdrop]
      rfl
    obtain ⟨t, ht, htarget⟩ := ha.exists_target hs (ItemSet.mem_nextSymbols.mpr ⟨i, hi, hnext⟩)
    have hdrop' : i.advance.production.rhs.drop i.advance.dot = labels ++ rest := by
      rw [Item.advance, ← List.tail_drop, hdrop]
      rfl
    obtain ⟨t', ht', hfollow, hmem⟩ := ih ht (ha.advance_mem hs ht htarget hi hnext) hdrop'
    refine ⟨t', ht', ?_, ?_⟩
    · rw [Automaton.follow?_cons, htarget, Option.bind_some, hfollow]
    · rw [List.length_cons, show i.dot + (labels.length + 1) = i.dot + 1 + labels.length by omega]
      exact hmem

end IsCanonical

/-- Where a symbol stands after a replacement: in what was put in, or before it. -/
theorem append_eq_append_cons_cases {l v w : List Symbol} (h : l ++ v ++ w = left ++ A :: rest) (hA : A ∉ w) :
    (∃ front back, left = l ++ front ∧ v = front ++ A :: back ∧ rest = back ++ w) ∨
      ∃ back, l = left ++ A :: back ∧ rest = back ++ v ++ w := by
  rcases List.append_eq_append_iff.mp h with ⟨back, rfl, hw⟩ | ⟨tail, hlv, htail⟩
  · exact absurd (hw ▸ List.mem_append_right back List.mem_cons_self) hA
  · rcases List.cons_eq_append_iff.mp htail with ⟨rfl, hw⟩ | ⟨back, rfl, rfl⟩
    · exact absurd (hw ▸ List.mem_cons_self) hA
    · rcases List.append_eq_append_iff.mp hlv with ⟨front, rfl, hv⟩ | ⟨tail, rfl, htail⟩
      · exact Or.inl ⟨front, back, rfl, hv, rfl⟩
      · rcases List.cons_eq_append_iff.mp htail with ⟨rfl, hv⟩ | ⟨back', rfl, rfl⟩
        · exact Or.inl ⟨[], back, by simp, by simp [hv], rfl⟩
        · exact Or.inr ⟨back', rfl, by simp⟩

theorem augmentedStart_not_mem_of_derivesRightmost (hg : g.WellFormed) (h : g.DerivesRightmost [g.augmentedStart] u)
    (hu : 1 < u.length) : g.augmentedStart ∉ u := by
  rcases derives_of_derivesRightmost hg h with rfl | hderives
  · exact absurd hu (by simp)
  · exact fun hmem => not_isWritten_augmentedStart g (hderives.isWritten_of_start hg _ hmem)

/-- The edges along `left` reach a state that holds the productions of `A`, before these words. -/
def Awaits (g : Grammar) (a : Automaton) (left : List Symbol) (A : Symbol) (words : List String) : Prop :=
  ∃ s ∈ a.states, a.follow? 0 left = some s.id ∧ ∀ p ∈ g.productions, p.lhs = A → ⟨p, 0, ahead words⟩ ∈ s.items

theorem awaits_augmentedStart (hg : g.WellFormed) (ha : g.IsCanonical a) : g.Awaits a [] g.augmentedStart [] := by
  refine ⟨_, ha.start_mem, rfl, ?_⟩
  intro p hp hlhs
  rw [eq_augmentedProduction_of_lhs_eq hg hp hlhs]
  exact mem_closure_of_mem List.mem_cons_self

/-- The item for `q` advances to the nonterminal and predicts it there. -/
theorem Awaits.of_mem_rhs (hg : g.WellFormed) (ha : g.IsCanonical a) {q : Production} {words : List String}
    (h : g.Awaits a left q.lhs words) (hq : q ∈ g.productions) {front : List Symbol} {ts : List Tree}
    (hrhs : q.rhs = front ++ A :: ts.map Tree.symbol) (hA : A.isNonterminal = true)
    (hts : ∀ t ∈ ts, t.IsDerivation g) : g.Awaits a (left ++ front) A (Tree.yieldAll ts ++ words) := by
  obtain ⟨s, hs, hfollow, hall⟩ := h
  obtain ⟨t, ht, hfollow', hmem⟩ := ha.exists_advanced hs (hall q hq rfl) hrhs
  refine ⟨t, ht, by rw [Automaton.follow?_append, hfollow, Option.bind_some, hfollow'], ?_⟩
  intro p hp hlhs
  obtain ⟨rest, hahead⟩ := exists_cons_ahead (Tree.yieldAll ts) words
  have hfollows : g.Follows ⟨q, 0 + front.length, ahead words⟩ (ahead (Tree.yieldAll ts ++ words)) :=
    follows_of_isDerivation hg hts (isTerminal_ahead words) (by simp [hrhs]) hahead
  exact (ha.regular t ht).closed _ hmem _
    (mem_predictions.mpr ⟨A, by simp [Item.next?, hrhs], hA, hp, hlhs, rfl, hfollows⟩)

/-- Every nonterminal of a rightmost sentential form is awaited behind what stands before it, whatever words
the symbols behind it derive. -/
theorem awaits_of_derivesRightmost (hg : g.WellFormed) (ha : g.IsCanonical a)
    (h : g.DerivesRightmost [g.augmentedStart] u) {ts : List Tree} (hu : u = left ++ A :: ts.map Tree.symbol)
    (hA : A.isNonterminal = true) (hts : ∀ t ∈ ts, t.IsDerivation g) : g.Awaits a left A (Tree.yieldAll ts) := by
  induction h generalizing left A ts with
  | refl =>
    obtain ⟨rfl, rfl, hnil⟩ : left = [] ∧ A = g.augmentedStart ∧ ts.map Tree.symbol = [] := by
      simpa [List.append_eq_singleton_iff, eq_comm] using hu
    rw [List.map_eq_nil_iff.mp hnil, Tree.yieldAll_nil]
    exact awaits_augmentedStart hg ha
  | tail hderives hstep ih =>
    obtain @⟨q, hq, l, right⟩ := hstep
    have hwords : A ∉ right.map Symbol.terminal := by
      intro hmem
      obtain ⟨word, -, rfl⟩ := List.mem_map.mp hmem
      cases hA
    rcases append_eq_append_cons_cases hu hwords with ⟨front, back, rfl, hrhs, hsymbols⟩ | ⟨back, rfl, hsymbols⟩
    · obtain ⟨ts, us, rfl, rfl, hright⟩ := List.map_eq_append_iff.mp hsymbols
      simp only [List.mem_append] at hts
      have hlhs : g.Awaits a l q.lhs (Tree.yieldAll us) :=
        ih (by rw [hright]) (lhs_isNonterminal hg hq) fun t ht => hts t (Or.inr ht)
      rw [Tree.yieldAll_append]
      exact hlhs.of_mem_rhs hg ha hq hrhs hA fun t ht => hts t (Or.inl ht)
    · -- The trees for the right side join under their left side in the form before the step.
      obtain ⟨ts, us, rfl, hfront, hright⟩ := List.map_eq_append_iff.mp hsymbols
      obtain ⟨ts, children, rfl, rfl, hchildren⟩ := List.map_eq_append_iff.mp hfront
      simp only [List.mem_append] at hts
      have hid : q.id ≠ 0 := by
        intro hid
        apply augmentedStart_not_mem_of_derivesRightmost hg hderives (by simp; omega)
        rw [eq_augmentedProduction_of_id_eq_zero hq hid]
        simp [augmentedProduction]
      have hlhs : Symbol.nonterminal q.rule.lhs.name = q.lhs :=
        (Symbol.eq_nonterminal_of_isNonterminal (lhs_isNonterminal hg hq)).symm
      have hbranch : (Tree.branch q.rule.lhs.name children).IsDerivation g :=
        .branch (mem_rules_of_id_ne_zero hq hid) hchildren fun t ht => hts t (Or.inl (Or.inr ht))
      have hyield : Tree.yieldAll (ts ++ children ++ us) =
          Tree.yieldAll (ts ++ .branch q.rule.lhs.name children :: us) := by
        simp [Tree.yieldAll_append]
      rw [hyield]
      apply ih (by simp [hlhs, hright]) hA
      intro t ht
      rcases List.mem_append.mp ht with ht | ht
      · exact hts t (Or.inl (Or.inl ht))
      · rcases List.mem_cons.mp ht with rfl | ht
        · exact hbranch
        · exact hts t (Or.inr ht)

theorem Valid.exists_state (hg : g.WellFormed) (ha : g.IsCanonical a) (h : g.Valid γ i) :
    ∃ s ∈ a.states, a.follow? 0 γ = some s.id ∧ i ∈ s.items := by
  obtain ⟨left, right, hderives, rfl, hlookahead⟩ := h.derived
  have hleaves : ∀ t ∈ right.map Tree.leaf, t.IsDerivation g := by
    intro t ht
    obtain ⟨word, hword, rfl⟩ := List.mem_map.mp ht
    exact .leaf (mem_writtenTerminals_of_derivesRightmost hg hderives word hword)
  have hsymbols : (right.map Tree.leaf).map Tree.symbol = right.map .terminal := by
    rw [List.map_map]
    rfl
  obtain ⟨s, hs, hfollow, hall⟩ := awaits_of_derivesRightmost hg ha hderives (by rw [hsymbols])
    (lhs_isNonterminal hg h.production_mem) hleaves
  have hmem := hall i.production h.production_mem rfl
  rw [Tree.yieldAll_map_leaf, ← hlookahead] at hmem
  have hdrop : i.production.rhs.drop 0 = i.production.rhs.take i.dot ++ i.production.rhs.drop i.dot :=
    (List.take_append_drop i.dot _).symm
  obtain ⟨t, ht, hfollow', hmem'⟩ := ha.exists_advanced hs hmem hdrop
  refine ⟨t, ht, by rw [Automaton.follow?_append, hfollow, Option.bind_some, hfollow'], ?_⟩
  rwa [List.length_take, Nat.min_eq_left h.dot_le, Nat.zero_add] at hmem'

/-- Along `γ` the edges reach a state if some item is valid for `γ`, and then the items of the state are
those that are valid for `γ`. -/
theorem states_hold_valid_items {text : String} (hread : Grammar.read text = .ok g) (hproductive : g.Productive)
    (γ : List Symbol) :
    ((g.automaton.follow? g.automaton.start γ).isSome = true ↔ ∃ i, g.Valid γ i) ∧
      ∀ q, g.automaton.follow? g.automaton.start γ = some q →
        ∃ s ∈ g.automaton.states, s.id = q ∧ ∀ i, i ∈ s.items ↔ g.Valid γ i := by
  have hg := wellFormed_of_read hread
  have ha := isCanonical_automaton hg
  have hreached : ∀ q, g.automaton.follow? 0 γ = some q →
      ∃ s ∈ g.automaton.states, s.id = q ∧ ∀ i, i ∈ s.items ↔ g.Valid γ i := by
    intro q hq
    obtain ⟨s, hs, rfl⟩ := ha.exists_state_of_follow? hq
    refine ⟨s, hs, rfl, ?_⟩
    intro i
    constructor
    · exact ha.valid_of_mem hg hproductive hs hq i
    · intro hi
      obtain ⟨t, ht, hfollow, hmem⟩ := hi.exists_state hg ha
      rwa [ha.eq_of_id_eq hs ht (Option.some.inj (hq.symm.trans hfollow))]
  refine ⟨?_, hreached⟩
  constructor
  · intro h
    obtain ⟨q, hq⟩ := Option.isSome_iff_exists.mp h
    obtain ⟨s, hs, -, hvalid⟩ := hreached q hq
    obtain ⟨i, hi⟩ := List.exists_mem_of_ne_nil _ (ha.regular s hs).ne_nil
    exact ⟨i, (hvalid i).mp hi⟩
  · rintro ⟨i, hi⟩
    obtain ⟨s, -, hfollow, -⟩ := hi.exists_state hg ha
    exact Option.isSome_iff_exists.mpr ⟨s.id, hfollow⟩

theorem states_hold_valid_items_nested :
    Grammar.read "S -> a S b\nS ->" = .ok nested ∧ nested.Productive ∧
      ∃ q, nested.automaton.follow? nested.automaton.start [.terminal "a", .terminal "a"] = some q ∧
        ∃ s ∈ nested.automaton.states, s.id = q ∧ ∀ i, i ∈ s.items ↔ nested.Valid [.terminal "a", .terminal "a"] i :=
  ⟨read_nested, productive_nested, 4, rfl, (states_hold_valid_items read_nested productive_nested _).2 4 rfl⟩

end Grammar

end CanonicalLR
