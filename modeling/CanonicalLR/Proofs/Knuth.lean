import CanonicalLR.Proofs.Conflicts
import CanonicalLR.Proofs.Discovery
import CanonicalLR.Proofs.ValidItems

/-! # Conflicts and the LR(1) condition

Two candidates of a cell are two items that are valid for the path to the state: both complete, or one of them
with the terminal of the cell after its dot. Each of them stands for a rightmost derivation, and the LR(1)
condition says of these that they end in the same step. Where an item shifts, the rightmost derivation goes on
behind its dot until there are only words, so that its last step is not at the end of the other right side.
-/
namespace CanonicalLR

namespace Grammar

variable {g : Grammar} {a : Automaton} {s : State} {i j k : Item} {p q : Production} {γ d more : List Symbol}
  {w back : List String} {word : String}

/-- The condition of Knuth: a form that agrees with `d b w`, where `b` was put in last, up to the first symbol
behind `b`, can only have been made by putting in `b` at this place. -/
def IsLR1 (g : Grammar) : Prop :=
  ∀ p ∈ g.productions, ∀ q ∈ g.productions, ∀ (d e : List Symbol) (w x y : List String),
    g.DerivesRightmost [g.augmentedStart] (d ++ p.lhs :: w.map .terminal) →
      g.DerivesRightmost [g.augmentedStart] (e ++ q.lhs :: x.map .terminal) →
        e ++ q.rhs ++ x.map .terminal = d ++ p.rhs ++ y.map .terminal → ahead w = ahead y →
          d = e ∧ x = y ∧ p.rule = q.rule

theorem valid_of_derivesRightmost (hp : p ∈ g.productions)
    (h : g.DerivesRightmost [g.augmentedStart] (d ++ p.lhs :: w.map .terminal)) :
    g.Valid (d ++ p.rhs) ⟨p, p.rhs.length, ahead w⟩ where
  production_mem := hp
  dot_le := Nat.le_refl _
  derived := ⟨d, w, h, by rw [List.take_length], rfl⟩

theorem Valid.derived_of_isComplete (h : g.Valid γ i) (hcomplete : i.isComplete = true) :
    ∃ (left : List Symbol) (right : List String),
      g.DerivesRightmost [g.augmentedStart] (left ++ i.production.lhs :: right.map .terminal) ∧
        γ = left ++ i.production.rhs ∧ i.lookahead = ahead right := by
  obtain ⟨left, right, hderives, hγ, hlookahead⟩ := h.derived
  rw [List.take_of_length_le (of_decide_eq_true hcomplete)] at hγ
  exact ⟨left, right, hderives, hγ, hlookahead⟩

/-- Behind a complete item with the next word as its lookahead no item goes on with this word. -/
theorem Valid.eq_nil_of_deterministic (hg : g.WellFormed) (ha : g.IsCanonical a) (hunique : a.Deterministic)
    (hi : g.Valid γ i) (hcomplete : i.isComplete = true) (hlookahead : i.lookahead = ahead w)
    (hj : g.Valid (γ ++ more) j) (hwords : w.map .terminal = more ++ back.map .terminal) : more = [] ∧ w = back := by
  obtain ⟨front, back, rfl, rfl, hback⟩ := List.map_eq_append_iff.mp hwords
  obtain rfl := map_terminal_injective hback
  cases front with
  | nil => exact ⟨rfl, rfl⟩
  | cons word front =>
    obtain ⟨s, hs, hfollow, hmem⟩ := hi.exists_state hg ha
    obtain ⟨t, -, hfollow', -⟩ := hj.exists_state hg ha
    rw [Automaton.follow?_append, hfollow, Option.bind_some, List.map_cons, Automaton.follow?_cons] at hfollow'
    obtain ⟨n, htarget, -⟩ := Option.bind_eq_some_iff.mp hfollow'
    have heq := hunique s.id (.terminal word) _ _ (.complete hs rfl hmem hcomplete hlookahead) (.shift rfl htarget)
    exact absurd heq (i.completion_ne_shift n)

theorem Valid.production_eq_of_deterministic (hg : g.WellFormed) (ha : g.IsCanonical a) (hunique : a.Deterministic)
    (hi : g.Valid γ i) (hj : g.Valid γ j) (hi' : i.isComplete = true) (hj' : j.isComplete = true)
    (hlookahead : i.lookahead = j.lookahead) : i.production = j.production := by
  obtain ⟨s, hs, hfollow, himem⟩ := hi.exists_state hg ha
  obtain ⟨t, ht, hfollow', hjmem⟩ := hj.exists_state hg ha
  have hst : s = t := ha.eq_of_id_eq hs ht (Option.some.inj (hfollow.symm.trans hfollow'))
  subst hst
  have heq := hunique s.id j.lookahead _ _ (.complete hs rfl himem hi' hlookahead) (.complete hs rfl hjmem hj' rfl)
  exact eq_of_id_eq hi.production_mem hj.production_mem (Item.id_eq_of_completion_eq heq hlookahead)

theorem isLR1_of_deterministic (hg : g.WellFormed) (ha : g.IsCanonical a) (hunique : a.Deterministic) : g.IsLR1 := by
  intro p hp q hq d e w x y hw hx hform hahead
  have hpvalid := valid_of_derivesRightmost hp hw
  have hqvalid := valid_of_derivesRightmost hq hx
  have hcomplete : ∀ (r : Production) (X : Symbol), (⟨r, r.rhs.length, X⟩ : Item).isComplete = true :=
    fun r _ => decide_eq_true (Nat.le_refl r.rhs.length)
  -- The longer of the two forms would go on with words that the item of the other one has as its lookahead.
  have hsame : d ++ p.rhs = e ++ q.rhs ∧ x = y := by
    rcases List.append_eq_append_iff.mp hform with ⟨more, hmore, hwords⟩ | ⟨more, hmore, hwords⟩
    · rw [hmore] at hpvalid ⊢
      obtain ⟨rfl, rfl⟩ := hqvalid.eq_nil_of_deterministic hg ha hunique (hcomplete q _) rfl hpvalid hwords
      exact ⟨List.append_nil _, rfl⟩
    · rw [hmore] at hqvalid ⊢
      obtain ⟨rfl, rfl⟩ := hpvalid.eq_nil_of_deterministic hg ha hunique (hcomplete p _) hahead hqvalid hwords
      exact ⟨(List.append_nil _).symm, rfl⟩
  obtain ⟨hfront, rfl⟩ := hsame
  rw [hfront] at hpvalid
  obtain rfl : p = q :=
    hpvalid.production_eq_of_deterministic hg ha hunique hqvalid (hcomplete p _) (hcomplete q _) hahead
  exact ⟨List.append_cancel_right hfront, rfl, rfl⟩

theorem IsLR1.completion_eq (hg : g.WellFormed) (hlr : g.IsLR1) (hdistinct : g.rules.Nodup) (hi : g.Valid γ i)
    (hj : g.Valid γ j) (hi' : i.isComplete = true) (hj' : j.isComplete = true)
    (hlookahead : i.lookahead = j.lookahead) : i.completion = j.completion := by
  obtain ⟨d, w, hw, rfl, hiahead⟩ := hi.derived_of_isComplete hi'
  obtain ⟨e, x, hx, hform, hjahead⟩ := hj.derived_of_isComplete hj'
  obtain ⟨-, -, hrule⟩ := hlr _ hi.production_mem _ hj.production_mem d e w x x hw hx (by rw [hform])
    (by rw [← hiahead, hlookahead, hjahead])
  have hproduction : i.production = j.production :=
    eq_of_rule_eq hg hdistinct hi.production_mem hj.production_mem hrule
  rw [Item.completion, Item.completion, hproduction, hlookahead]

/-- Behind the dot the derivation goes on, until there are only words behind the terminal. Its last step is not
at the end of what stands before the terminal. -/
theorem Valid.exists_last_step (hg : g.WellFormed) (hproductive : g.Productive) (hk : g.Valid γ k)
    (hnext : k.next? = some (.terminal word)) :
    ∃ q ∈ g.productions, ∃ (e : List Symbol) (x words : List String),
      g.DerivesRightmost [g.augmentedStart] (e ++ q.lhs :: x.map .terminal) ∧
        e ++ q.rhs ++ x.map .terminal = γ ++ (word :: words).map .terminal ∧
          (x.length ≤ words.length ∨ γ.length < e.length) := by
  obtain ⟨left, right, hderives, hγ, -⟩ := hk.derived
  have hsymbols : ∀ X ∈ k.production.rhs.drop (k.dot + 1), g.HasTree X :=
    fun X hX => hproductive.hasTree_of_mem_rhs hg hk.production_mem X (List.mem_of_mem_drop hX)
  obtain ⟨ts, hts, hmap⟩ := exists_trees hsymbols
  have hrhs : left ++ k.production.rhs ++ right.map .terminal =
      γ ++ [.terminal word] ++ ts.map Tree.symbol ++ right.map .terminal := by
    rw [Item.rhs_eq_of_next? hnext, hmap, hγ]
    simp
  -- If there are only words behind the dot, the last step has put in the right side of the item.
  rcases (derivesRightmost_forest hg hts).cases_tail with hwords | ⟨v, hv, hlast⟩
  · refine ⟨k.production, hk.production_mem, left, right, Tree.yieldAll ts ++ right, hderives, ?_, Or.inl (by simp)⟩
    rw [hrhs, ← hwords]
    simp
  · generalize hform : (Tree.yieldAll ts).map Symbol.terminal = u at hlast
    obtain @⟨q, hq, l, z⟩ := hlast
    refine ⟨q, hq, γ ++ .terminal word :: l, z ++ right, Tree.yieldAll ts ++ right, ?_, by simp [hform],
      Or.inr (by simp)⟩
    have hstep := hderives.tail (.intro hk.production_mem left right)
    rw [hrhs] at hstep
    have hbehind : g.DerivesRightmost (γ ++ [.terminal word] ++ ts.map Tree.symbol ++ right.map .terminal)
        (γ ++ [.terminal word] ++ (l ++ q.lhs :: z.map .terminal) ++ right.map .terminal) :=
      DerivesRightmost.append_right (DerivesRightmost.append_left hv _) right
    have hwhole : g.DerivesRightmost [g.augmentedStart] _ := hstep.trans hbehind
    simpa using hwhole

theorem IsLR1.lookahead_ne (hg : g.WellFormed) (hlr : g.IsLR1) (hproductive : g.Productive) (hk : g.Valid γ k)
    (hnext : k.next? = some (.terminal word)) (hi : g.Valid γ i) (hcomplete : i.isComplete = true) :
    i.lookahead ≠ .terminal word := by
  intro hlookahead
  obtain ⟨q, hq, e, x, words, hx, hform, hlast⟩ := hk.exists_last_step hg hproductive hnext
  obtain ⟨d, w, hw, rfl, hahead⟩ := hi.derived_of_isComplete hcomplete
  obtain ⟨rfl, rfl, -⟩ := hlr _ hi.production_mem q hq d e w x (word :: words) hw hx hform
    (hahead.symm.trans hlookahead)
  rcases hlast with hlength | hlength
  · exact absurd hlength (by simp)
  · exact absurd hlength (by simp)

theorem IsCollection.exists_follow? (hg : g.WellFormed) (ha : g.IsCanonical a) (h : g.IsCollection a)
    (hs : s ∈ a.states) : ∃ γ, a.follow? 0 γ = some s.id := by
  -- The list of a state can be in another order than that of the GOTO which leads to it.
  have hall : ∀ items, g.Collected items → ∀ s ∈ a.states, s.items.toFinset = items.toFinset →
      ∃ γ, a.follow? 0 γ = some s.id := by
    intro items hitems
    induction hitems with
    | start =>
      intro s hs heq
      rw [h.sets_distinct s hs _ ha.start_mem heq]
      exact ⟨[], rfl⟩
    | goto collected X ne_nil ih =>
      intro t ht heq
      obtain ⟨s, hs, hs'⟩ := collected.exists_state hg ha
      obtain ⟨γ, hγ⟩ := ih s hs hs'
      obtain ⟨t', ht', htarget, heq'⟩ := collected.exists_target hg ha hs hs' ne_nil
      rw [h.sets_distinct t ht t' ht' (heq.trans heq'.symm)]
      exact ⟨γ ++ [X], Automaton.follow?_concat_eq_some_iff.mpr ⟨s.id, hγ, htarget⟩⟩
  exact hall _ (h.collected s hs) s hs rfl

theorem deterministic_of_isLR1 (hg : g.WellFormed) (ha : g.IsCanonical a) (hcollection : g.IsCollection a)
    (hlr : g.IsLR1) (hdistinct : g.rules.Nodup) (hproductive : g.Productive) : a.Deterministic := by
  have hvalid : ∀ s ∈ a.states, ∃ γ, ∀ i ∈ s.items, g.Valid γ i := by
    intro s hs
    obtain ⟨γ, hγ⟩ := hcollection.exists_follow? hg ha hs
    exact ⟨γ, ha.valid_of_mem hg hproductive hs hγ⟩
  have hmixed : ∀ {X : Symbol} {n : Int}, X.isTerminal = true → ∀ s ∈ a.states, a.target? s.id X = some n →
      ∀ i ∈ s.items, i.isComplete = true → i.lookahead ≠ X := by
    intro X n hterminal s hs htarget i hi hcomplete
    obtain ⟨γ, hall⟩ := hvalid s hs
    obtain ⟨k, hk, hnext⟩ := ItemSet.mem_nextSymbols.mp (ha.goto_of_target hs htarget).1
    rw [Symbol.eq_terminal_of_isTerminal hterminal] at hnext ⊢
    exact hlr.lookahead_ne hg hproductive (hall k hk) hnext (hall i hi) hcomplete
  intro q X act act' h h'
  cases h with
  | shift terminal target =>
    cases h' with
    | shift terminal' target' =>
      rw [target] at target'
      rw [Option.some.inj target']
    | complete state_mem id_eq item_mem complete lookahead_eq =>
      subst id_eq
      exact absurd lookahead_eq (hmixed terminal _ state_mem target _ item_mem complete)
  | @complete s i state_mem id_eq item_mem complete lookahead_eq =>
    subst id_eq
    cases h' with
    | shift terminal' target' => exact absurd lookahead_eq (hmixed terminal' s state_mem target' i item_mem complete)
    | complete state_mem' id_eq' item_mem' complete' lookahead_eq' =>
      cases ha.eq_of_id_eq state_mem' state_mem id_eq'
      obtain ⟨γ, hall⟩ := hvalid s state_mem
      exact hlr.completion_eq hg hdistinct (hall _ item_mem) (hall _ item_mem') complete complete'
        (lookahead_eq.trans lookahead_eq'.symm)

/-- If the rules differ from each other and every nonterminal derives words, there are no conflicts if and only
if the grammar is LR(1). -/
theorem conflicts_eq_nil_iff_isLR1 {text : String} (hread : read text = .ok g) (hdistinct : g.rules.Nodup)
    (hproductive : g.Productive) : (g.automaton.table g).conflicts = [] ↔ g.IsLR1 := by
  have hg := wellFormed_of_read hread
  have ha := isCanonical_automaton hg
  have hcollection := isCollection_automaton hread
  rw [Automaton.conflicts_eq_nil_iff ha.ids_distinct (ha.target?_endMarker hg)]
  constructor
  · exact isLR1_of_deterministic hg ha
  · intro hlr
    exact deterministic_of_isLR1 hg ha hcollection hlr hdistinct hproductive

theorem conflicts_eq_nil_iff_isLR1_nested :
    read "S -> a S b\nS ->" = .ok nested ∧ nested.rules.Nodup ∧ nested.Productive ∧ nested.IsLR1 :=
  ⟨read_nested, by decide, productive_nested,
    (conflicts_eq_nil_iff_isLR1 read_nested (by decide) productive_nested).mp rfl⟩

end Grammar

end CanonicalLR
