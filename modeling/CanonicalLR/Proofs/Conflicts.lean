import CanonicalLR.Proofs.Tables

/-! # What a recorded conflict says

A conflict is recorded when an item finds another action in its cell: it names this action and that of the
item, so two different candidates of the cell. When two candidates of some cell differ, at most one of them
is the entry, and so a conflict has been recorded.
-/
namespace CanonicalLR

/-- The conflict names two different actions, each of them proposed for its cell. -/
structure Conflict.Between (proposed : Cell → Action → Prop) (c : Conflict) : Prop where
  kept : proposed (c.state, c.symbol) c.kept
  discarded : proposed (c.state, c.symbol) c.discarded
  ne : c.kept ≠ c.discarded

namespace Filling

variable {f : Filling} {q : Int} {i : Item} {proposed : Cell → Action → Prop}

/-- Only an item that finds another action in its cell adds a conflict, between the two. -/
theorem conflicts_enter_cases (f : Filling) (q : Int) (i : Item) :
    (f.enter q i).conflicts = f.conflicts ∨
      ∃ c old, (f.enter q i).conflicts = f.conflicts ++ [c] ∧ (c.state, c.symbol) = (q, i.lookahead) ∧
        f.actions.get? (q, i.lookahead) = some old ∧ old ≠ i.completion ∧
          (c.kept = old ∧ c.discarded = i.completion ∨ c.kept = i.completion ∧ c.discarded = old) := by
  unfold enter
  split
  · exact Or.inl rfl
  · next haccept =>
    rw [show i.completion = .reduce i.production.id from if_neg haccept]
    unfold reduce
    dsimp only
    split
    · exact Or.inl rfl
    · next target hcell => exact Or.inr ⟨_, _, rfl, rfl, hcell, by simp, Or.inl ⟨rfl, rfl⟩⟩
    · next hcell => exact Or.inr ⟨_, _, rfl, rfl, hcell, by simp, Or.inl ⟨rfl, rfl⟩⟩
    · next old hcell =>
      split
      · exact Or.inl rfl
      · next hne => exact Or.inr ⟨_, _, rfl, rfl, hcell, by simpa using hne, Or.inr ⟨rfl, rfl⟩⟩

theorem between_of_mem_conflicts_enter
    (hactions : ∀ cell act, f.actions.get? cell = some act → proposed cell act)
    (hconflicts : ∀ c ∈ f.conflicts, c.Between proposed) (hi : proposed (q, i.lookahead) i.completion) :
    ∀ c ∈ (f.enter q i).conflicts, c.Between proposed := by
  rcases conflicts_enter_cases f q i with hsame | ⟨c, old, hnew, hcell, hold, hne, hparts⟩
  · rw [hsame]
    exact hconflicts
  · rw [hnew]
    intro d hd
    rcases List.mem_append.mp hd with hd | hd
    · exact hconflicts d hd
    · rw [List.mem_singleton.mp hd]
      have hold' := hactions _ old hold
      rcases hparts with ⟨hkept, hdiscarded⟩ | ⟨hkept, hdiscarded⟩
      · exact ⟨by rwa [hcell, hkept], by rwa [hcell, hdiscarded], by rwa [hkept, hdiscarded]⟩
      · exact ⟨by rwa [hcell, hkept], by rwa [hcell, hdiscarded], by rw [hkept, hdiscarded]; exact hne.symm⟩

theorem between_of_mem_conflicts_enterAll {entered : List (Int × Item)}
    (hactions : ∀ cell act, f.actions.get? cell = some act → proposed cell act)
    (hconflicts : ∀ c ∈ f.conflicts, c.Between proposed)
    (hentered : ∀ e ∈ entered, proposed (e.1, e.2.lookahead) e.2.completion) :
    ∀ c ∈ (f.enterAll entered).conflicts, c.Between proposed := by
  induction entered generalizing f with
  | nil => exact hconflicts
  | cons e entered ih =>
    have he := hentered e List.mem_cons_self
    refine ih ?_ (between_of_mem_conflicts_enter hactions hconflicts he)
      fun d hd => hentered d (List.mem_cons_of_mem e hd)
    intro cell act hact
    rcases get?_enter f e.1 e.2 cell with hsame | ⟨rfl, hnew⟩
    · exact hactions cell act (hsame ▸ hact)
    · rw [hnew] at hact
      cases hact
      exact he

end Filling

namespace Automaton

variable {a : Automaton} {g : Grammar}

/-- The actions that a conflict names are different candidates of its cell. -/
theorem candidates_of_mem_conflicts {c : Conflict} (h : c ∈ (a.table g).conflicts) :
    c.Between fun cell act => a.Candidate cell.1 cell.2 act := by
  have hconflicts : (a.table g).conflicts = (Filling.enterAll ⟨a.shifts, []⟩ a.completions).conflicts := by
    rw [← filling_eq]
    rfl
  rw [hconflicts] at h
  refine Filling.between_of_mem_conflicts_enterAll ?_ (by simp) ?_ c h
  · rintro ⟨q, X⟩ act hact
    rw [show (⟨a.shifts, []⟩ : Filling).actions = a.shifts from rfl, get?_shifts] at hact
    split at hact
    · next hterminal =>
      obtain ⟨t, ht, rfl⟩ := Option.map_eq_some_iff.mp hact
      exact .shift hterminal ht
    · cases hact
  · intro e he
    obtain ⟨s, hs, hid, hi, hcomplete⟩ := mem_completions.mp he
    exact .complete hs hid hi hcomplete rfl

/-- No cell has two candidates. -/
def Deterministic (a : Automaton) : Prop :=
  ∀ q X act act', a.Candidate q X act → a.Candidate q X act' → act = act'

theorem conflicts_eq_nil_iff (hids : (a.states.map State.id).Nodup) (hend : ∀ q, a.target? q .endMarker = none) :
    (a.table g).conflicts = [] ↔ a.Deterministic := by
  constructor
  · intro hconflicts q X act act' h h'
    have hentry := action?_of_candidate hids hend hconflicts h
    rw [action?_of_candidate hids hend hconflicts h'] at hentry
    exact (Option.some.inj hentry).symm
  · intro hunique
    rw [List.eq_nil_iff_forall_not_mem]
    intro c hc
    have hbetween := candidates_of_mem_conflicts hc
    exact hbetween.ne (hunique _ _ _ _ hbetween.kept hbetween.discarded)

end Automaton

end CanonicalLR
