import CanonicalLR.Proofs.Collection
import CanonicalLR.Table.Generation

/-! # What the tables of an automaton hold

The candidates of a cell are the shift of its edge and the actions of the complete items of its state.
Every entry of the ACTION table is a candidate. Without conflicts every candidate is the entry of its
cell, when the numbers of the states differ and no edge is labelled `$`: the items of a state are entered
in order, so that an item that accepts comes first and puts nothing aside.
-/
namespace CanonicalLR

/-- What a complete item enters into its cell. -/
def Item.completion (i : Item) : Action :=
  if i.production.id = 0 ∧ i.lookahead = .endMarker then .accept else .reduce i.production.id

theorem Item.completion_eq_accept_iff {i : Item} :
    i.completion = .accept ↔ i.production.id = 0 ∧ i.lookahead = .endMarker := by
  unfold Item.completion
  split <;> simp_all

theorem Item.completion_eq_reduce {i : Item} (h : i.production.id ≠ 0) :
    i.completion = .reduce i.production.id :=
  if_neg fun haccept => h haccept.1

theorem Item.completion_ne_shift (i : Item) (t : Int) : i.completion ≠ .shift t := by
  unfold Item.completion
  split <;> simp

theorem Item.id_eq_of_completion_eq {i j : Item} (h : i.completion = j.completion)
    (hlookahead : i.lookahead = j.lookahead) : i.production.id = j.production.id := by
  unfold completion at h
  rw [hlookahead] at h
  split at h
  · next hi =>
    split at h
    · next hj => rw [hi.1, hj.1]
    · cases h
  · split at h
    · cases h
    · exact Int.ofNat.inj (Action.reduce.inj h)

namespace Filling

variable {f : Filling} {q : Int} {i : Item} {cell : Cell} {act : Action} {entered : List (Int × Item)}

theorem conflicts_enter (f : Filling) (q : Int) (i : Item) : f.conflicts <+: (f.enter q i).conflicts := by
  unfold enter reduce
  split
  · exact List.prefix_rfl
  · dsimp only
    split
    · exact List.prefix_rfl
    · exact List.prefix_append _ _
    · exact List.prefix_append _ _
    · split
      · exact List.prefix_rfl
      · exact List.prefix_append _ _

/-- An item changes at most its own cell, and there to its own action. -/
theorem get?_enter (f : Filling) (q : Int) (i : Item) (cell : Cell) :
    (f.enter q i).actions.get? cell = f.actions.get? cell ∨
      cell = (q, i.lookahead) ∧ (f.enter q i).actions.get? cell = some i.completion := by
  have hput : ∀ act : Action, act = i.completion →
      (f.actions.put (q, i.lookahead) act).get? cell = f.actions.get? cell ∨
        cell = (q, i.lookahead) ∧ (f.actions.put (q, i.lookahead) act).get? cell = some i.completion := by
    rintro _ rfl
    rw [Entries.get?_put]
    by_cases hcell : (q, i.lookahead) = cell
    · exact Or.inr ⟨hcell.symm, if_pos hcell⟩
    · exact Or.inl (if_neg hcell)
  unfold enter
  split
  · next haccept => exact hput _ (Item.completion_eq_accept_iff.mpr haccept).symm
  · next haccept =>
    have hreduce : Action.reduce i.production.id = i.completion := (if_neg haccept).symm
    unfold reduce
    dsimp only
    split
    · exact hput _ hreduce
    · exact Or.inl rfl
    · exact Or.inl rfl
    · split
      · exact Or.inl rfl
      · exact hput _ hreduce

/-- An item that adds no conflict finds its cell empty, or with its own action, or accepts. -/
theorem get?_of_conflicts_enter_eq (h : (f.enter q i).conflicts = f.conflicts) :
    (f.enter q i).actions.get? (q, i.lookahead) = some i.completion ∧
      (i.completion = .accept ∨ f.actions.get? (q, i.lookahead) = none ∨
        f.actions.get? (q, i.lookahead) = some i.completion) := by
  have hgrown : ∀ c : Conflict, f.conflicts ++ [c] ≠ f.conflicts := by
    intro c hc
    have := congrArg List.length hc
    simp at this
  unfold enter at h ⊢
  split at h
  · next haccept =>
    rw [Item.completion_eq_accept_iff.mpr haccept, if_pos haccept, Entries.get?_put, if_pos rfl]
    exact ⟨rfl, Or.inl rfl⟩
  · next haccept =>
    rw [if_neg haccept, show i.completion = .reduce i.production.id from if_neg haccept]
    unfold reduce at h ⊢
    dsimp only at h ⊢
    cases hcell : f.actions.get? (q, i.lookahead) with
    | none => simp [Entries.get?_put]
    | some act =>
      rw [hcell] at h
      cases act with
      | shift target => exact absurd h (hgrown _)
      | accept => exact absurd h (hgrown _)
      | reduce old =>
        dsimp only at h ⊢
        split at h
        · next hold => simp [hcell, hold]
        · exact absurd h (hgrown _)

/-- Enters complete items, each with the number of its state. -/
def enterAll (f : Filling) (entered : List (Int × Item)) : Filling :=
  entered.foldl (fun f e => f.enter e.1 e.2) f

theorem conflicts_enterAll (f : Filling) (entered : List (Int × Item)) :
    f.conflicts <+: (f.enterAll entered).conflicts := by
  induction entered generalizing f with
  | nil => exact List.prefix_rfl
  | cons e entered ih => exact (conflicts_enter f e.1 e.2).trans (ih _)

theorem get?_enterAll (f : Filling) (entered : List (Int × Item)) (cell : Cell) :
    (f.enterAll entered).actions.get? cell = f.actions.get? cell ∨
      ∃ e ∈ entered, cell = (e.1, e.2.lookahead) ∧
        (f.enterAll entered).actions.get? cell = some e.2.completion := by
  induction entered generalizing f with
  | nil => exact Or.inl rfl
  | cons e entered ih =>
    rcases ih (f.enter e.1 e.2) with h | ⟨d, hd, hcell, h⟩
    · rcases get?_enter f e.1 e.2 cell with h' | ⟨hcell, h'⟩
      · exact Or.inl (h.trans h')
      · exact Or.inr ⟨e, List.mem_cons_self, hcell, h.trans h'⟩
    · exact Or.inr ⟨d, List.mem_cons_of_mem e hd, hcell, h⟩

/-- In the cell of an item that accepts, nothing but such items comes before it. -/
def AcceptFirst (d e : Int × Item) : Prop :=
  e.2.completion = .accept → (d.1, d.2.lookahead) = (e.1, e.2.lookahead) → d.2.completion = .accept

/-- The cell has no action yet that an item which accepts would put aside. -/
def Open (f : Filling) (e : Int × Item) : Prop :=
  e.2.completion = .accept →
    f.actions.get? (e.1, e.2.lookahead) = none ∨ f.actions.get? (e.1, e.2.lookahead) = some .accept

theorem Open.enter {d e : Int × Item} (he : f.Open e) (h : AcceptFirst d e) : (f.enter d.1 d.2).Open e := by
  intro haccept
  rcases get?_enter f d.1 d.2 (e.1, e.2.lookahead) with hsame | ⟨hcell, hnew⟩
  · rw [hsame]
    exact he haccept
  · rw [hnew, h haccept hcell.symm]
    exact Or.inr rfl

theorem get?_enter_of_eq_some (hopen : f.Open (q, i)) (h : (f.enter q i).conflicts = f.conflicts)
    (hact : f.actions.get? cell = some act) : (f.enter q i).actions.get? cell = some act := by
  rcases get?_enter f q i cell with hsame | ⟨rfl, hnew⟩
  · rw [hsame, hact]
  · rw [hnew]
    rcases (get?_of_conflicts_enter_eq h).2 with haccept | hold | hold
    · rcases hopen haccept with hopen | hopen
      · rw [hact] at hopen
        cases hopen
      · rw [hact] at hopen
        rw [haccept, hopen]
    · rw [hact] at hold
      cases hold
    · rw [hact] at hold
      exact hold.symm

/-- Entering without a conflict keeps every entry and gives every item its cell. -/
theorem get?_enterAll_of_conflicts_eq (hopen : ∀ e ∈ entered, f.Open e)
    (hsorted : entered.Pairwise AcceptFirst) (h : (f.enterAll entered).conflicts = f.conflicts) :
    (∀ cell act, f.actions.get? cell = some act → (f.enterAll entered).actions.get? cell = some act) ∧
      ∀ e ∈ entered, (f.enterAll entered).actions.get? (e.1, e.2.lookahead) = some e.2.completion := by
  induction entered generalizing f with
  | nil => exact ⟨fun _ _ hact => hact, by simp⟩
  | cons e entered ih =>
    obtain ⟨hfirst, hsorted⟩ := List.pairwise_cons.mp hsorted
    have hstep : (f.enter e.1 e.2).conflicts = f.conflicts := by
      have hle := (conflicts_enterAll (f.enter e.1 e.2) entered).length_le
      rw [show (f.enter e.1 e.2).enterAll entered = f.enterAll (e :: entered) from rfl, h] at hle
      exact ((conflicts_enter f e.1 e.2).eq_of_length_le hle).symm
    have hopen' : ∀ d ∈ entered, (f.enter e.1 e.2).Open d :=
      fun d hd => (hopen d (List.mem_cons_of_mem e hd)).enter (hfirst d hd)
    obtain ⟨hkept, hentered⟩ := ih hopen' hsorted (h.trans hstep.symm)
    constructor
    · intro cell act hact
      exact hkept cell act (get?_enter_of_eq_some (hopen e List.mem_cons_self) hstep hact)
    · intro d hd
      rcases List.mem_cons.mp hd with rfl | hd
      · exact hkept _ _ (get?_of_conflicts_enter_eq hstep).1
      · exact hentered d hd

end Filling

namespace Automaton

variable {a : Automaton} {g : Grammar} {q : Int} {X : Symbol} {act : Action}

/-- An action that the automaton proposes for a cell: the shift of its edge, or the action of a complete
item of its state. -/
inductive Candidate (a : Automaton) (q : Int) (X : Symbol) : Action → Prop
  | shift {t : Int} (terminal : X.isTerminal = true) (target : a.target? q X = some t) :
      Candidate a q X (.shift t)
  | complete {s : State} {i : Item} (state_mem : s ∈ a.states) (id_eq : s.id = q) (item_mem : i ∈ s.items)
      (complete : i.isComplete = true) (lookahead_eq : i.lookahead = X) : Candidate a q X i.completion

/-- The complete items in the order in which they are entered. -/
def completions (a : Automaton) : List (Int × Item) :=
  a.states.flatMap fun s => (sort Item.precedes (s.items.filter Item.isComplete)).map (s.id, ·)

theorem filling_eq (a : Automaton) : a.filling = Filling.enterAll ⟨a.shifts, []⟩ a.completions := by
  unfold filling completions Filling.enterAll Filling.enterState
  generalize (⟨a.shifts, []⟩ : Filling) = f
  induction a.states generalizing f with
  | nil => rfl
  | cons s states ih =>
    rw [List.foldl_cons, List.flatMap_cons, List.foldl_append, List.foldl_map]
    exact ih _

theorem mem_completions {e : Int × Item} :
    e ∈ a.completions ↔ ∃ s ∈ a.states, s.id = e.1 ∧ e.2 ∈ s.items ∧ e.2.isComplete = true := by
  simp only [completions, List.mem_flatMap, List.mem_map, mem_sort, List.mem_filter]
  constructor
  · rintro ⟨s, hs, i, ⟨hi, hcomplete⟩, rfl⟩
    exact ⟨s, hs, rfl, hi, hcomplete⟩
  · rintro ⟨s, hs, hid, hi, hcomplete⟩
    exact ⟨s, hs, e.2, ⟨hi, hcomplete⟩, Prod.ext hid rfl⟩

theorem get?_ofList_edges {α : Type} (a : Automaton) (kind : Symbol → Bool) (entry : Int → α) (q : Int)
    (X : Symbol) :
    (Entries.ofList ((a.edges.filter fun e => kind e.symbol).map
      fun e => ((e.source, e.symbol), entry e.target))).get? (q, X) =
        if kind X then (a.target? q X).map entry else none := by
  have hfind : (a.edges.reverse.find? fun e => decide (kind e.symbol = true ∧ (e.source, e.symbol) = (q, X))) =
      if kind X then a.edges.reverse.find? fun e => e.source = q && e.symbol = X else none := by
    split
    · next hX =>
      congr 1
      funext e
      by_cases h : e.symbol = X
      · simp [h, hX]
      · simp [h]
    · next hX =>
      rw [List.find?_eq_none]
      intro e _ he
      obtain ⟨hkind, hcell⟩ := of_decide_eq_true he
      obtain ⟨-, hsymbol⟩ := Prod.mk.inj hcell
      exact hX (hsymbol ▸ hkind)
  rw [Entries.get?_ofList, ← List.map_reverse, ← List.filter_reverse, List.find?_map, List.find?_filter]
  simp only [Function.comp_def, decide_eq_true_eq, Option.map_map, hfind]
  split
  · rw [target?, Option.map_map]
    rfl
  · rfl

theorem goto?_table (a : Automaton) (g : Grammar) (q : Int) (X : Symbol) :
    (a.table g).goto? q X = if X.isNonterminal then a.target? q X else none := by
  have h := get?_ofList_edges a Symbol.isNonterminal id q X
  rwa [Option.map_id] at h

theorem get?_shifts (a : Automaton) (q : Int) (X : Symbol) :
    a.shifts.get? (q, X) = if X.isTerminal then (a.target? q X).map .shift else none :=
  get?_ofList_edges a Symbol.isTerminal Action.shift q X

theorem action?_table (a : Automaton) (g : Grammar) (q : Int) (X : Symbol) :
    (a.table g).action? q X = (Filling.enterAll ⟨a.shifts, []⟩ a.completions).actions.get? (q, X) := by
  rw [← filling_eq]
  rfl

theorem candidate_of_action? (h : (a.table g).action? q X = some act) : a.Candidate q X act := by
  rw [action?_table] at h
  rcases Filling.get?_enterAll ⟨a.shifts, []⟩ a.completions (q, X) with hshift | ⟨e, he, hcell, hentered⟩
  · rw [hshift, get?_shifts] at h
    split at h
    · next hterminal =>
      obtain ⟨t, ht, rfl⟩ := Option.map_eq_some_iff.mp h
      exact .shift hterminal ht
    · cases h
  · rw [hentered] at h
    cases h
    obtain ⟨s, hs, hid, hi, hcomplete⟩ := mem_completions.mp he
    obtain ⟨hq, hX⟩ := Prod.mk.inj hcell
    exact .complete hs (hid.trans hq.symm) hi hcomplete hX.symm

theorem exists_complete_of_action? (h : (a.table g).action? q X = some act) (hact : ∀ t, act ≠ .shift t) :
    ∃ s ∈ a.states, s.id = q ∧ ∃ i ∈ s.items, i.isComplete = true ∧ i.lookahead = X ∧ i.completion = act := by
  cases candidate_of_action? h with
  | @shift t terminal target => exact absurd rfl (hact t)
  | complete state_mem id_eq item_mem complete lookahead_eq =>
    exact ⟨_, state_mem, id_eq, _, item_mem, complete, lookahead_eq, rfl⟩

theorem target?_of_action?_eq_shift {t : Int} (h : (a.table g).action? q X = some (.shift t)) :
    a.target? q X = some t := by
  generalize hact : Action.shift t = act at h
  cases candidate_of_action? h with
  | shift terminal target =>
    cases hact
    exact target
  | complete => exact absurd hact.symm (Item.completion_ne_shift _ t)

theorem completion_eq_accept_of_precedes {i j : Item} (h : i.precedes j = true) (hj : j.completion = .accept)
    (hlookahead : i.lookahead = j.lookahead) : i.completion = .accept := by
  rw [Item.completion_eq_accept_iff] at hj ⊢
  refine ⟨?_, hlookahead.trans hj.2⟩
  simp only [Item.precedes, Bool.or_eq_true, Bool.and_eq_true, decide_eq_true_eq] at h
  omega

theorem precedes_total (i j : Item) : i.precedes j = true ∨ j.precedes i = true := by
  simp only [Item.precedes, Bool.or_eq_true, Bool.and_eq_true, decide_eq_true_eq]
  have := Std.le_total (a := i.lookahead.name) (b := j.lookahead.name)
  grind

theorem precedes_trans (i j k : Item) (hij : i.precedes j = true) (hjk : j.precedes k = true) :
    i.precedes k = true := by
  simp only [Item.precedes, Bool.or_eq_true, Bool.and_eq_true, decide_eq_true_eq] at hij hjk ⊢
  have : i.lookahead.name ≤ j.lookahead.name → j.lookahead.name ≤ k.lookahead.name →
    i.lookahead.name ≤ k.lookahead.name := Std.le_trans
  grind

theorem pairwise_completions (hids : (a.states.map State.id).Nodup) :
    a.completions.Pairwise Filling.AcceptFirst := by
  rw [completions, List.pairwise_flatMap]
  constructor
  · intro s _
    rw [List.pairwise_map]
    apply (pairwise_sort precedes_total precedes_trans _).imp
    intro i j hij hj hcell
    exact completion_eq_accept_of_precedes hij hj (congrArg Prod.snd hcell)
  · rw [List.Nodup, List.pairwise_map] at hids
    apply hids.imp
    intro s t hne d hd e he _ hcell
    obtain ⟨i, -, rfl⟩ := List.mem_map.mp hd
    obtain ⟨j, -, rfl⟩ := List.mem_map.mp he
    exact absurd (congrArg Prod.fst hcell) hne

/-- Without conflicts the automaton proposes one action for a cell at most. -/
theorem action?_of_candidate (hids : (a.states.map State.id).Nodup)
    (hend : ∀ q, a.target? q .endMarker = none) (hconflicts : (a.table g).conflicts = [])
    (h : a.Candidate q X act) : (a.table g).action? q X = some act := by
  have hopen : ∀ e ∈ a.completions, Filling.Open ⟨a.shifts, []⟩ e := by
    intro e _ haccept
    rw [(Item.completion_eq_accept_iff.mp haccept).2]
    refine Or.inl ?_
    rw [show (⟨a.shifts, []⟩ : Filling).actions = a.shifts from rfl, get?_shifts, hend]
    rfl
  have hnone : (Filling.enterAll ⟨a.shifts, []⟩ a.completions).conflicts = [] := by
    rw [← filling_eq]
    exact hconflicts
  obtain ⟨hkept, hentered⟩ := Filling.get?_enterAll_of_conflicts_eq hopen (pairwise_completions hids) hnone
  rw [action?_table]
  cases h with
  | shift terminal target =>
    apply hkept
    rw [show (⟨a.shifts, []⟩ : Filling).actions = a.shifts from rfl, get?_shifts, if_pos terminal, target]
    rfl
  | @complete s i state_mem id_eq item_mem complete lookahead_eq =>
    rw [← lookahead_eq]
    exact hentered (q, i) (mem_completions.mpr ⟨s, state_mem, id_eq, item_mem, complete⟩)

end Automaton

end CanonicalLR
