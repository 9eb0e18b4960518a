import CanonicalLR.Proofs.Conflicts
import CanonicalLR.Table.Generator

/-! # How a cell is settled

The candidates of a cell are entered one after the other: first the shift of its edge, then the actions of
the complete items, in the order of their numbers. Whatever has been entered, the cell holds the candidate
that accepts, or else the one that shifts, or else the reduction with the highest number, and every other
candidate has been put aside once, in favour of the accept or the shift of the cell or of the next higher
reduction. One more candidate keeps this, so the tables of an orderly automaton are settled in every cell.
-/
namespace CanonicalLR

variable {cell : Cell} {proposed : Action → Prop} {entry : Option Action} {log : List Conflict} {act other : Action}
  {kind : ConflictKind} {kept discarded : Action} {p : Int} {count : Nat}

/-- What a cell holds that has some proposed actions: the accept, or else the shift, or else the reduction with
the highest number. -/
inductive Chooses (proposed : Action → Prop) : Option Action → Prop
  | accept (accept : proposed .accept) : Chooses proposed (some .accept)
  | shift {t : Int} (shift : proposed (.shift t)) (no_accept : ¬ proposed .accept) :
      Chooses proposed (some (.shift t))
  | reduce {p : Int} (reduce : proposed (.reduce p)) (highest : ∀ r, proposed (.reduce r) → r ≤ p)
      (no_shift : ∀ t, ¬ proposed (.shift t)) (no_accept : ¬ proposed .accept) :
      Chooses proposed (some (.reduce p))
  | nothing (none_proposed : ∀ act, ¬ proposed act) : Chooses proposed none

/-- In favour of which action a reduction is put aside: the accept or the shift of the cell, and if there is
neither, the next higher reduction. -/
inductive Overrules (proposed : Action → Prop) : ConflictKind → Action → Action → Prop
  | accept {q : Int} (accept : proposed .accept) (reduce : proposed (.reduce q)) :
      Overrules proposed .acceptReduce .accept (.reduce q)
  | shift {t q : Int} (shift : proposed (.shift t)) (reduce : proposed (.reduce q)) :
      Overrules proposed .shiftReduce (.shift t) (.reduce q)
  | reduce {p q : Int} (higher : proposed (.reduce p)) (reduce : proposed (.reduce q)) (lt : q < p)
      (next : ∀ r, proposed (.reduce r) → r ≤ q ∨ p ≤ r) (no_shift : ∀ t, ¬ proposed (.shift t))
      (no_accept : ¬ proposed .accept) :
      Overrules proposed .reduceReduce (.reduce p) (.reduce q)

theorem Overrules.discarded_proposed (h : Overrules proposed kind kept discarded) : proposed discarded := by
  cases h with
  | accept _ reduce => exact reduce
  | shift _ reduce => exact reduce
  | reduce _ reduce => exact reduce

theorem Chooses.mem (h : Chooses proposed entry) (hact : entry = some act) : proposed act := by
  cases h with
  | accept accept =>
    cases hact
    exact accept
  | shift shift =>
    cases hact
    exact shift
  | reduce reduce =>
    cases hact
    exact reduce
  | nothing => cases hact

theorem Chooses.not_proposed_of_none (h : Chooses proposed none) (act : Action) : ¬ proposed act := by
  cases h with
  | nothing none_proposed => exact none_proposed act

namespace Action

/-- The action is entered before the other one: nothing is entered before an accept or a shift, and reductions
are entered in the order of their numbers. -/
def Before : Action → Action → Prop
  | .reduce q, .reduce p => q < p
  | _, .reduce _ => True
  | _, _ => False

theorem Before.ne (h : act.Before other) : act ≠ other := by
  rintro rfl
  cases act with
  | reduce p => exact Int.lt_irrefl p h
  | shift => exact h
  | accept => exact h

end Action

/-- After `count` proposals the cell holds the choice among the proposed actions, and each of the others has been put
aside once. -/
structure Settled (cell : Cell) (proposed : Action → Prop) (count : Nat) (entry : Option Action) (log : List Conflict) :
    Prop where
  chosen : Chooses proposed entry
  recorded : ∀ c ∈ log, (c.state, c.symbol) = cell ∧ Overrules proposed c.kind c.kept c.discarded
  discarded_once : ∀ act, proposed act → entry ≠ some act → log.countP (·.discarded = act) = 1
  entry_kept : ∀ act, entry = some act → log.countP (·.discarded = act) = 0
  counted : log.length + entry.toList.length = count

namespace Settled

variable (h : Settled cell proposed count entry log)
include h

theorem countP_eq_zero (hact : ¬ proposed act) : log.countP (·.discarded = act) = 0 := by
  rw [List.countP_eq_zero]
  intro c hc hdiscarded
  rw [decide_eq_true_eq] at hdiscarded
  exact hact (hdiscarded ▸ (h.recorded c hc).2.discarded_proposed)

/-- A conflict that has been recorded stays right when a reduction with a higher number is proposed as well. -/
theorem recorded_of_later (hlater : ∀ act, proposed act → act.Before (.reduce p)) :
    ∀ c ∈ log, (c.state, c.symbol) = cell ∧
      Overrules (fun act => proposed act ∨ act = .reduce p) c.kind c.kept c.discarded := by
  rintro ⟨state, symbol, kind, kept, discarded⟩ hc
  obtain ⟨hcell, hoverrules⟩ := h.recorded _ hc
  refine ⟨hcell, ?_⟩
  cases hoverrules with
  | accept accept reduce => exact .accept (Or.inl accept) (Or.inl reduce)
  | shift shift reduce => exact .shift (Or.inl shift) (Or.inl reduce)
  | reduce higher reduce lt next no_shift no_accept =>
    refine .reduce (Or.inl higher) (Or.inl reduce) lt ?_ (by simpa using no_shift) (by simpa using no_accept)
    rintro r (hr | hr)
    · exact next r hr
    · cases hr
      exact Or.inr (Int.le_of_lt (hlater _ higher))

/-- A reduction that finds an accept or a shift in its cell is put aside. -/
theorem put_aside (hlater : ∀ act, proposed act → act.Before (.reduce p)) {kept : Action} (hentry : entry = some kept)
    (hchosen : Chooses (fun act => proposed act ∨ act = .reduce p) (some kept))
    (hoverrules : Overrules (fun act => proposed act ∨ act = .reduce p) kind kept (.reduce p)) :
    Settled cell (fun act => proposed act ∨ act = .reduce p) (count + 1) entry
      (log ++ [⟨cell.1, cell.2, kind, kept, .reduce p⟩]) where
  chosen := hentry ▸ hchosen
  recorded c hc := by
    rcases List.mem_append.mp hc with hc | hc
    · exact h.recorded_of_later hlater c hc
    · rw [List.mem_singleton.mp hc]
      exact ⟨rfl, hoverrules⟩
  discarded_once act hact hne := by
    rw [List.countP_append, List.countP_singleton]
    rcases hact with hact | rfl
    · rw [h.discarded_once act hact hne, if_neg]
      simpa using (hlater act hact).ne.symm
    · rw [h.countP_eq_zero fun hact => (hlater _ hact).ne rfl, if_pos (by simp)]
  entry_kept act hact := by
    rw [List.countP_append, List.countP_singleton, h.entry_kept act hact, if_neg]
    simpa using (hlater act (h.chosen.mem hact)).ne.symm
  counted := by
    rw [← h.counted, List.length_append, List.length_singleton]
    omega

/-- A reduction that finds another one in its cell takes its place. -/
theorem take_place (hlater : ∀ act, proposed act → act.Before (.reduce p)) {old : Int}
    (hentry : entry = some (.reduce old)) :
    Settled cell (fun act => proposed act ∨ act = .reduce p) (count + 1) (some (.reduce p))
      (log ++ [⟨cell.1, cell.2, .reduceReduce, .reduce p, .reduce old⟩]) := by
  subst hentry
  have hchosen := h.chosen
  cases hchosen with
  | reduce reduce highest no_shift no_accept =>
    have hlt : old < p := hlater _ reduce
    have no_shift' : ∀ t, ¬ (proposed (.shift t) ∨ Action.shift t = .reduce p) := by simpa using no_shift
    have no_accept' : ¬ (proposed .accept ∨ Action.accept = .reduce p) := by simpa using no_accept
    constructor
    case chosen =>
      refine .reduce (Or.inr rfl) ?_ no_shift' no_accept'
      rintro r (hr | hr)
      · exact Int.le_of_lt (hlater _ hr)
      · cases hr
        exact Int.le_refl _
    case recorded =>
      intro c hc
      rcases List.mem_append.mp hc with hc | hc
      · exact h.recorded_of_later hlater c hc
      · rw [List.mem_singleton.mp hc]
        refine ⟨rfl, .reduce (Or.inr rfl) (Or.inl reduce) hlt ?_ no_shift' no_accept'⟩
        rintro r (hr | hr)
        · exact Or.inl (highest r hr)
        · cases hr
          exact Or.inr (Int.le_refl _)
    case discarded_once =>
      intro act hact hne
      rw [List.countP_append, List.countP_singleton]
      rcases hact with hact | rfl
      · by_cases hold : act = .reduce old
        · subst hold
          rw [h.entry_kept _ rfl, if_pos (by simp)]
        · rw [h.discarded_once act hact (by simpa using Ne.symm hold), if_neg (by simpa using Ne.symm hold)]
      · exact absurd rfl hne
    case entry_kept =>
      intro act hact
      cases hact
      rw [List.countP_append, List.countP_singleton, h.countP_eq_zero fun hact => (hlater _ hact).ne rfl, if_neg]
      simpa using (hlater _ reduce).ne
    case counted =>
      rw [← h.counted, List.length_append, List.length_singleton]
      simp

end Settled

theorem Settled.nil (hnone : ∀ act, ¬ proposed act) : Settled cell proposed 0 none [] where
  chosen := .nothing hnone
  recorded := by simp
  discarded_once act hact := absurd hact (hnone act)
  entry_kept := by simp
  counted := rfl

theorem Settled.log_eq_nil (h : Settled cell proposed count none log) : log = [] := by
  rw [List.eq_nil_iff_forall_not_mem]
  intro c hc
  exact h.chosen.not_proposed_of_none _ (h.recorded c hc).2.discarded_proposed

/-- The first action that is proposed for a cell is its entry. -/
theorem Settled.first (h : Settled cell proposed count none log) (act : Action) :
    Settled cell (fun other => proposed other ∨ other = act) (count + 1) (some act) log := by
  have hnone := h.chosen.not_proposed_of_none
  obtain rfl := h.log_eq_nil
  constructor
  case chosen =>
    cases act with
    | accept => exact .accept (Or.inr rfl)
    | shift t => exact .shift (Or.inr rfl) (by simp [hnone])
    | reduce p => exact .reduce (Or.inr rfl) (by simp [hnone]) (by simp [hnone]) (by simp [hnone])
  case recorded => simp
  case discarded_once =>
    rintro other (hother | rfl) hne
    · exact absurd hother (hnone other)
    · exact absurd rfl hne
  case entry_kept => simp
  case counted =>
    rw [← h.counted]
    rfl

namespace Filling

variable {f : Filling} {q : Int} {i : Item} {entered : List (Int × Item)}

/-- The conflicts that have been recorded in a cell. -/
def conflictsIn (f : Filling) (cell : Cell) : List Conflict :=
  f.conflicts.filter fun c => (c.state, c.symbol) = cell

def SettledIn (f : Filling) (cell : Cell) (proposed : Action → Prop) (count : Nat) : Prop :=
  Settled cell proposed count (f.actions.get? cell) (f.conflictsIn cell)

theorem conflictsIn_append (actions : Entries Cell Action) (conflicts : List Conflict) (cell : Cell) (kind : ConflictKind)
    (kept discarded : Action) :
    conflictsIn ⟨actions, conflicts ++ [⟨cell.1, cell.2, kind, kept, discarded⟩]⟩ cell =
      conflictsIn ⟨actions, conflicts⟩ cell ++ [⟨cell.1, cell.2, kind, kept, discarded⟩] := by
  simp [conflictsIn]

/-- A complete item leaves the other cells as they are. -/
theorem enter_elsewhere (f : Filling) {cell : Cell} (hcell : cell ≠ (q, i.lookahead)) :
    (f.enter q i).actions.get? cell = f.actions.get? cell ∧ (f.enter q i).conflictsIn cell = f.conflictsIn cell := by
  constructor
  · rcases get?_enter f q i cell with hsame | ⟨hown, -⟩
    · exact hsame
    · exact absurd hown hcell
  · rcases conflicts_enter_cases f q i with hsame | ⟨c, -, hnew, hown, -⟩
    · rw [conflictsIn, hsame, conflictsIn]
    · have hother : ¬ (c.state, c.symbol) = cell := fun h => hcell (h.symm.trans hown)
      simp [conflictsIn, hnew, hother]

/-- A reduction is entered after all that has been proposed for its cell. -/
theorem SettledIn.reduce (h : f.SettledIn cell proposed count)
    (hlater : ∀ act, proposed act → act.Before (.reduce p)) :
    (f.reduce cell p).SettledIn cell (fun act => proposed act ∨ act = .reduce p) (count + 1) := by
  unfold SettledIn at h ⊢
  unfold Filling.reduce
  have hchosen := h.chosen
  generalize hentry : f.actions.get? cell = entry at h hchosen
  dsimp only
  cases hchosen with
  | nothing =>
    dsimp only
    rw [Entries.get?_put, if_pos rfl]
    exact h.first (.reduce p)
  | @shift t shift no_accept =>
    dsimp only
    rw [conflictsIn_append, hentry]
    exact h.put_aside hlater rfl (.shift (Or.inl shift) (by simpa using no_accept)) (.shift (Or.inl shift) (Or.inr rfl))
  | accept accept =>
    dsimp only
    rw [conflictsIn_append, hentry]
    exact h.put_aside hlater rfl (.accept (Or.inl accept)) (.accept (Or.inl accept) (Or.inr rfl))
  | @reduce old reduce =>
    have hne : old ≠ p := fun heq => (hlater _ reduce).ne (congrArg Action.reduce heq)
    dsimp only
    rw [if_neg hne, conflictsIn_append, Entries.get?_put, if_pos rfl]
    exact h.take_place hlater rfl

theorem SettledIn.enter (h : f.SettledIn (q, i.lookahead) proposed count)
    (hlater : ∀ act, proposed act → act.Before i.completion) :
    (f.enter q i).SettledIn (q, i.lookahead) (fun act => proposed act ∨ act = i.completion) (count + 1) := by
  unfold Filling.enter
  split
  · next haccept =>
    -- Nothing comes before an item that accepts, so its cell is still empty.
    rw [Item.completion_eq_accept_iff.mpr haccept] at hlater ⊢
    have hempty : f.actions.get? (q, i.lookahead) = none := by
      rw [Option.eq_none_iff_forall_ne_some]
      intro act hact
      have hbefore := hlater act (h.chosen.mem hact)
      cases act <;> exact hbefore
    unfold SettledIn at h ⊢
    rw [hempty] at h
    rw [Entries.get?_put, if_pos rfl]
    exact h.first .accept
  · next haccept =>
    rw [show i.completion = .reduce i.production.id from if_neg haccept] at hlater ⊢
    exact h.reduce hlater

/-- Of two items for one cell the first one is entered before. -/
def InOrder (d e : Int × Item) : Prop :=
  (d.1, d.2.lookahead) = (e.1, e.2.lookahead) → d.2.completion.Before e.2.completion

theorem SettledIn.enterAll (h : f.SettledIn cell proposed count) (hsorted : entered.Pairwise InOrder)
    (hlater : ∀ e ∈ entered, (e.1, e.2.lookahead) = cell → ∀ act, proposed act → act.Before e.2.completion) :
    (f.enterAll entered).SettledIn cell
      (fun act => proposed act ∨ ∃ e ∈ entered, (e.1, e.2.lookahead) = cell ∧ act = e.2.completion)
      (count + entered.countP fun e => (e.1, e.2.lookahead) = cell) := by
  induction entered generalizing f proposed count with
  | nil => simpa [Filling.enterAll] using h
  | cons e entered ih =>
    obtain ⟨hfirst, hsorted⟩ := List.pairwise_cons.mp hsorted
    have hrest : ∀ d ∈ entered, (d.1, d.2.lookahead) = cell → ∀ act, proposed act → act.Before d.2.completion :=
      fun d hd => hlater d (List.mem_cons_of_mem e hd)
    change ((f.enter e.1 e.2).enterAll entered).SettledIn cell _ _
    by_cases hcell : (e.1, e.2.lookahead) = cell
    · subst hcell
      have hstep := h.enter (hlater e List.mem_cons_self rfl)
      have hall := ih hstep hsorted ?_
      · convert hall using 1
        · funext act
          simp [or_assoc]
        · rw [List.countP_cons, if_pos (decide_eq_true rfl)]
          omega
      · rintro d hd hcell act (hact | rfl)
        · exact hrest d hd hcell act hact
        · exact hfirst d hd hcell.symm
    · have hstep : (f.enter e.1 e.2).SettledIn cell proposed count := by
        obtain ⟨hentry, hconflicts⟩ := f.enter_elsewhere (q := e.1) (i := e.2) (Ne.symm hcell)
        unfold SettledIn
        rw [hentry, hconflicts]
        exact h
      convert ih hstep hsorted hrest using 1
      · funext act
        simp [hcell]
      · rw [List.countP_cons_of_neg (by simpa using hcell)]

end Filling

theorem Item.completion_before {i j : Item} (h : i.precedes j = true) (hne : i.production.id ≠ j.production.id) :
    i.completion.Before j.completion := by
  have hlt : i.production.id < j.production.id := by
    simp only [Item.precedes, Bool.or_eq_true, Bool.and_eq_true, decide_eq_true_eq] at h
    omega
  rw [j.completion_eq_reduce (by omega)]
  unfold Item.completion
  split
  · trivial
  · exact Int.ofNat_lt.mpr hlt

namespace Automaton

variable {a : Automaton} {g : Grammar} {q : Int} {X : Symbol} {act : Action}

/-- The states have different numbers and no item twice, a number stands for one production, no dot is past the
end, and no edge is labelled with the end marker. -/
structure Orderly (a : Automaton) : Prop where
  ids_distinct : (a.states.map State.id).Nodup
  items_distinct : ∀ s ∈ a.states, s.items.Nodup
  production_eq : ∀ s ∈ a.states, ∀ i ∈ s.items, ∀ j ∈ s.items,
    i.production.id = j.production.id → i.production = j.production
  dot_le : ∀ s ∈ a.states, ∀ i ∈ s.items, i.dot ≤ i.production.rhs.length
  symbol_ne : ∀ e ∈ a.edges, e.symbol ≠ .endMarker

namespace Orderly

variable (ha : a.Orderly)
include ha

theorem target?_endMarker (q : Int) : a.target? q .endMarker = none := by
  rw [target?, Option.map_eq_none_iff, List.find?_eq_none]
  intro e he
  simp [ha.symbol_ne e (List.mem_reverse.mp he)]

theorem eq_of_id_eq {s : State} (hs : s ∈ a.states) {i j : Item} (hi : i ∈ s.items) (hj : j ∈ s.items)
    (hi' : i.isComplete = true) (hj' : j.isComplete = true) (hlookahead : i.lookahead = j.lookahead)
    (hid : i.production.id = j.production.id) : i = j := by
  have hproduction := ha.production_eq s hs i hi j hj hid
  have hdot : i.dot = j.dot := by
    rw [Nat.le_antisymm (ha.dot_le s hs i hi) (of_decide_eq_true hi'),
      Nat.le_antisymm (ha.dot_le s hs j hj) (of_decide_eq_true hj'), hproduction]
  obtain ⟨p, dot, x⟩ := i
  simp only at hproduction hdot hlookahead
  rw [hproduction, hdot, hlookahead]

/-- The complete items of a cell are entered by strictly rising numbers. -/
theorem inOrder_completions : a.completions.Pairwise Filling.InOrder := by
  rw [completions, List.pairwise_flatMap]
  constructor
  · intro s hs
    rw [List.pairwise_map]
    have hdistinct : (sort Item.precedes (s.items.filter Item.isComplete)).Nodup :=
      (sort_perm _ _).nodup_iff.mpr ((ha.items_distinct s hs).filter _)
    refine ((pairwise_sort precedes_total precedes_trans _).and hdistinct).imp_of_mem ?_
    rintro i j hi hj ⟨hprecedes, hne⟩ hcell
    obtain ⟨hi, hi'⟩ := List.mem_filter.mp (mem_sort.mp hi)
    obtain ⟨hj, hj'⟩ := List.mem_filter.mp (mem_sort.mp hj)
    apply Item.completion_before hprecedes
    intro hid
    exact hne (ha.eq_of_id_eq hs hi hj hi' hj' (congrArg Prod.snd hcell) hid)
  · have hids := ha.ids_distinct
    rw [List.Nodup, List.pairwise_map] at hids
    apply hids.imp
    intro s t hne d hd e he hcell
    obtain ⟨i, -, rfl⟩ := List.mem_map.mp hd
    obtain ⟨j, -, rfl⟩ := List.mem_map.mp he
    exact absurd (congrArg Prod.fst hcell) hne

end Orderly

theorem candidate_iff : a.Candidate q X act ↔
    a.shifts.get? (q, X) = some act ∨ ∃ e ∈ a.completions, (e.1, e.2.lookahead) = (q, X) ∧ act = e.2.completion := by
  constructor
  · intro h
    cases h with
    | shift terminal target =>
      left
      rw [get?_shifts, if_pos terminal, target]
      rfl
    | @complete s i state_mem id_eq item_mem complete lookahead_eq =>
      exact Or.inr ⟨(q, i), mem_completions.mpr ⟨s, state_mem, id_eq, item_mem, complete⟩, by rw [lookahead_eq], rfl⟩
  · rintro (hshift | ⟨⟨q', i⟩, he, hcell, rfl⟩)
    · rw [get?_shifts] at hshift
      split at hshift
      · next hterminal =>
        obtain ⟨t, ht, rfl⟩ := Option.map_eq_some_iff.mp hshift
        exact .shift hterminal ht
      · cases hshift
    · obtain ⟨rfl, rfl⟩ := Prod.mk.inj hcell
      obtain ⟨s, hs, hid, hi, hcomplete⟩ := mem_completions.mp he
      exact .complete hs hid hi hcomplete rfl

theorem candidate_shift_iff {n : Int} :
    a.Candidate q X (.shift n) ↔ X.isTerminal = true ∧ a.target? q X = some n := by
  constructor
  · intro h
    generalize hact : Action.shift n = act at h
    cases h with
    | shift terminal target =>
      cases hact
      exact ⟨terminal, target⟩
    | complete => exact absurd hact.symm (Item.completion_ne_shift _ n)
  · rintro ⟨hterminal, htarget⟩
    exact .shift hterminal htarget

theorem candidate_accept_iff : a.Candidate q X .accept ↔ X = .endMarker ∧
    ∃ s ∈ a.states, s.id = q ∧ ∃ i ∈ s.items, i.isComplete = true ∧ i.production.id = 0 ∧ i.lookahead = X := by
  constructor
  · intro h
    generalize hact : Action.accept = act at h
    cases h with
    | shift => cases hact
    | @complete s i state_mem id_eq item_mem complete lookahead_eq =>
      obtain ⟨hid, hend⟩ := Item.completion_eq_accept_iff.mp hact.symm
      exact ⟨lookahead_eq.symm.trans hend, s, state_mem, id_eq, i, item_mem, complete, hid, lookahead_eq⟩
  · rintro ⟨hend, s, hs, hid, i, hi, hcomplete, hzero, hlookahead⟩
    rw [← Item.completion_eq_accept_iff.mpr ⟨hzero, hlookahead.trans hend⟩]
    exact .complete hs hid hi hcomplete hlookahead

theorem settledIn_shifts (a : Automaton) (cell : Cell) :
    Filling.SettledIn ⟨a.shifts, []⟩ cell (fun act => a.shifts.get? cell = some act)
      (a.shifts.get? cell).toList.length := by
  change Settled cell _ _ (a.shifts.get? cell) []
  cases a.shifts.get? cell with
  | none => exact .nil (by simp)
  | some act =>
    have hnil : Settled cell (fun _ => False) 0 none [] := .nil (by simp)
    convert hnil.first act using 1
    · funext other
      simp [eq_comm]
    · rfl

/-- The number of the proposals for a cell, by its edge and by the complete items of its state. -/
def proposals (a : Automaton) (cell : Cell) : Nat :=
  (a.shifts.get? cell).toList.length + a.completions.countP fun e => (e.1, e.2.lookahead) = cell

theorem Orderly.settledIn (ha : a.Orderly) (q : Int) (X : Symbol) :
    a.filling.SettledIn (q, X) (a.Candidate q X) (a.proposals (q, X)) := by
  have hlater : ∀ e ∈ a.completions, (e.1, e.2.lookahead) = (q, X) → ∀ act, a.shifts.get? (q, X) = some act →
      act.Before e.2.completion := by
    intro e he hcell act hact
    rw [get?_shifts] at hact
    split at hact
    · obtain ⟨t, ht, rfl⟩ := Option.map_eq_some_iff.mp hact
      have hne : X ≠ .endMarker := by
        rintro rfl
        rw [ha.target?_endMarker] at ht
        cases ht
      rw [Item.completion, if_neg]
      · trivial
      · rintro ⟨-, hlookahead⟩
        exact hne ((congrArg Prod.snd hcell).symm.trans hlookahead)
    · cases hact
  rw [filling_eq, proposals, show a.Candidate q X = fun act => _ from funext fun act => propext candidate_iff]
  exact (a.settledIn_shifts (q, X)).enterAll ha.inOrder_completions hlater

namespace Orderly

variable (ha : a.Orderly)
include ha

theorem isSome_action?_iff : ((a.table g).action? q X).isSome = true ↔ 0 < a.proposals (q, X) := by
  have hsettled := ha.settledIn q X
  rw [← hsettled.counted]
  change (a.filling.actions.get? (q, X)).isSome = true ↔ _
  unfold Filling.SettledIn at hsettled
  cases hentry : a.filling.actions.get? (q, X) with
  | none =>
    rw [hentry] at hsettled
    simp [hsettled.log_eq_nil]
  | some act => simp

/-- All proposals for a cell but one are put aside. -/
theorem countP_conflicts (g : Grammar) (q : Int) (X : Symbol) :
    (a.table g).conflicts.countP (fun c => (c.state, c.symbol) = (q, X)) = a.proposals (q, X) - 1 := by
  have hsettled := ha.settledIn q X
  rw [← hsettled.counted, List.countP_eq_length_filter]
  change (a.filling.conflictsIn (q, X)).length = _
  unfold Filling.SettledIn at hsettled
  cases hentry : a.filling.actions.get? (q, X) with
  | none =>
    rw [hentry] at hsettled
    simp [hsettled.log_eq_nil]
  | some act => simp

theorem action?_eq_accept_iff : (a.table g).action? q X = some .accept ↔ a.Candidate q X .accept := by
  have hchosen : Chooses (a.Candidate q X) ((a.table g).action? q X) := (ha.settledIn q X).chosen
  refine ⟨hchosen.mem, ?_⟩
  intro haccept
  generalize (a.table g).action? q X = entry at hchosen ⊢
  cases hchosen with
  | accept => rfl
  | shift _ no_accept => exact absurd haccept no_accept
  | reduce _ _ _ no_accept => exact absurd haccept no_accept
  | nothing none_proposed => exact absurd haccept (none_proposed _)

theorem action?_eq_shift_iff {n : Int} :
    (a.table g).action? q X = some (.shift n) ↔ X.isTerminal = true ∧ a.target? q X = some n := by
  have hchosen : Chooses (a.Candidate q X) ((a.table g).action? q X) := (ha.settledIn q X).chosen
  refine ⟨fun hentry => candidate_shift_iff.mp (hchosen.mem hentry), ?_⟩
  rintro ⟨hterminal, htarget⟩
  have hshift : a.Candidate q X (.shift n) := .shift hterminal htarget
  generalize (a.table g).action? q X = entry at hchosen ⊢
  cases hchosen with
  | accept accept =>
    rw [(candidate_accept_iff.mp accept).1, ha.target?_endMarker] at htarget
    cases htarget
  | shift shift =>
    rw [(candidate_shift_iff.mp shift).2] at htarget
    rw [Option.some.inj htarget]
  | reduce _ _ no_shift => exact absurd hshift (no_shift n)
  | nothing none_proposed => exact absurd hshift (none_proposed _)

end Orderly

theorem orderly_of_isCanonical (hg : g.WellFormed) (ha : g.IsCanonical a) : a.Orderly where
  ids_distinct := ha.ids_distinct
  items_distinct s hs := (ha.regular s hs).nodup
  production_eq s hs i hi j hj hid := Grammar.eq_of_id_eq ((ha.regular s hs).hasItem i hi).production_mem
    ((ha.regular s hs).hasItem j hj).production_mem hid
  dot_le s hs i hi := ((ha.regular s hs).hasItem i hi).dot_le
  symbol_ne e he := by
    obtain ⟨s, hs, -, -, -, -, hX, -⟩ := ha.edge_goto e he
    obtain ⟨i, hi, hnext⟩ := ItemSet.mem_nextSymbols.mp hX
    have hproduction := ((ha.regular s hs).hasItem i hi).production_mem
    exact (Grammar.rhs_written hg hproduction _ (Item.mem_rhs_of_next? hnext)).ne_endMarker

end Automaton

namespace Generator

end Generator

end CanonicalLR
