import CanonicalLR.Proofs.Guard
import CanonicalLR.Proofs.Productions
import Mathlib.Data.List.Chain

/-! # What a run records

Every move is recorded in the configuration in which it is made. So the steps of a run under way are those of the
moves from the initial configuration to the present one, and a verdict comes behind them: a reduction that the guard
stops has been recorded by then, and the rejection shows the stack that it has made.
-/
namespace CanonicalLR

def Event.isShift : Event → Bool
  | .shift _ _ => true
  | _ => false

def Step.isShift (s : Step) : Bool := s.event.isShift

namespace Configuration

variable {g : Grammar} {t : Table} {c d : Configuration} {x : Symbol} {target : Int} {p : Production} {event : Event}

def shown (c : Configuration) (number : Nat) (event : Event) : Step := ⟨number, c.marks, c.input, event⟩

/-- The move that is recorded as the event leads on to the other configuration. -/
inductive Makes (g : Grammar) (t : Table) (c : Configuration) : Event → Configuration → Prop
  | shift {x : Symbol} {rest : List Symbol} {target : Int} (input_eq : c.input = x :: rest)
      (action : t.action? (topState c.frames) x = some (.shift target)) :
      Makes g t c (.shift x target) (c.shift x target rest)
  | reduce {x : Symbol} {rest : List Symbol} {p : Production} {target : Int} (input_eq : c.input = x :: rest)
      (action : t.action? (topState c.frames) x = some (.reduce p.id)) (mem : p ∈ g.productions)
      (le_length : p.rhs.length ≤ c.frames.length)
      (goto : t.goto? (topState (c.frames.drop p.rhs.length)) p.lhs = some target) :
      Makes g t c (.reduce p target) (c.reduce p target)

theorem Makes.next (h : c.Makes g t event d) : Next g t c d := by
  cases h with
  | shift input_eq action => exact .shift input_eq action
  | reduce input_eq action mem le_length goto =>
    exact .reduce input_eq action (Grammar.production?_eq_some_iff.mpr ⟨mem, rfl⟩) le_length goto

theorem makes_of_move_eq_shift (h : c.move g t = .shift x target d) : c.Makes g t (.shift x target) d := by
  cases next_of_next? (Machine.next?_of_move_eq_shift h).1 with
  | shift input_eq action =>
    simp only [move, input_eq, action] at h
    cases h
    exact .shift input_eq action
  | reduce input_eq action production le_length goto =>
    simp only [move, input_eq, action, reduction, production, if_neg (Nat.not_lt.mpr le_length), goto] at h
    cases h

theorem makes_of_move_eq_reduce (h : c.move g t = .reduce p target d) : c.Makes g t (.reduce p target) d := by
  cases next_of_next? (Machine.next?_of_move_eq_reduce h).1 with
  | shift input_eq action =>
    simp only [move, input_eq, action] at h
    cases h
  | reduce input_eq action production le_length goto =>
    simp only [move, input_eq, action, reduction, production, if_neg (Nat.not_lt.mpr le_length), goto] at h
    cases h
    obtain ⟨hmem, rfl⟩ := Grammar.production?_eq_some_iff.mp production
    exact .reduce input_eq action hmem le_length goto

theorem of_move_eq_accept (h : c.move g t = .accept) :
    ∃ x, c.input = [x] ∧ t.action? (topState c.frames) x = some .accept := by
  unfold move at h
  split at h
  · cases h
  · next x rest hinput =>
    split at h
    · cases h
    · cases h
    · next id _ =>
      unfold reduction at h
      split at h
      · cases h
      · split at h
        · cases h
        · dsimp only at h
          split at h <;> cases h
    · next haction =>
      split at h
      · next hrest => exact ⟨x, by rw [hinput, List.isEmpty_iff.mp hrest], haction⟩
      · cases h

end Configuration

/-- The steps are those of the moves from the initial configuration to this one. -/
inductive Traced (g : Grammar) (t : Table) (tokens : List String) : List Step → Configuration → Prop
  | start : Traced g t tokens [] (.initial tokens)
  | move {steps : List Step} {c d : Configuration} {event : Event} (before : Traced g t tokens steps c)
      (made : c.Makes g t event d) : Traced g t tokens (steps ++ [c.shown (steps.length + 1) event]) d

namespace Traced

open CanonicalLR.Configuration

variable {g : Grammar} {t : Table} {tokens : List String} {steps : List Step} {c : Configuration}

theorem after_eq (h : Traced g t tokens steps c) : (initial tokens).after? g t steps.length = some c := by
  induction h with
  | start => rfl
  | move before made ih =>
    rw [List.length_append, List.length_singleton, after?_succ, ih, Option.bind_some, made.next.next?_eq]

theorem numbers (h : Traced g t tokens steps c) : steps.map Step.number = List.range' 1 steps.length := by
  induction h with
  | start => rfl
  | @move steps c d event before made ih =>
    rw [List.map_append, ih, List.length_append, List.length_singleton, List.range'_1_concat, Nat.add_comm 1]
    rfl

theorem event_cases (h : Traced g t tokens steps c) :
    ∀ s ∈ steps, (∃ x target, s.event = .shift x target) ∨ ∃ p target, s.event = .reduce p target := by
  induction h with
  | start => simp
  | move before made ih =>
    intro s hs
    rcases List.mem_append.mp hs with hs | hs
    · exact ih s hs
    · rw [List.mem_singleton.mp hs]
      cases made with
      | shift => exact Or.inl ⟨_, _, rfl⟩
      | reduce => exact Or.inr ⟨_, _, rfl⟩

theorem shifted_eq (h : Traced g t tokens steps c) : c.shifted = steps.countP Step.isShift := by
  induction h with
  | start => rfl
  | move before made ih =>
    rw [List.countP_append, ← ih]
    cases made <;> rfl

theorem input_eq (h : Traced g t tokens steps c) :
    ∃ read, (initial tokens).input = read ++ c.input ∧ read.length = c.shifted := by
  induction h with
  | start => exact ⟨[], rfl, rfl⟩
  | move before made ih =>
    obtain ⟨read, hinput, hlength⟩ := ih
    cases made with
    | @shift x rest target input_eq action =>
      refine ⟨read ++ [x], ?_, by rw [List.length_append, hlength]; rfl⟩
      rw [hinput, input_eq, List.append_assoc]
      rfl
    | reduce => exact ⟨read, hinput, hlength⟩

/-- The first step, if there is one, shows the beginning of the run, and so does a step recorded at once. -/
theorem head_eq (h : Traced g t tokens steps c) (event : Event) :
    ∃ s rest, steps ++ [c.shown (steps.length + 1) event] = s :: rest ∧ s.marks = [] ∧
      s.input = (initial tokens).input := by
  induction h generalizing event with
  | start => exact ⟨_, [], rfl, rfl, rfl⟩
  | move before made ih =>
    obtain ⟨s, rest, hsteps, hmarks, hinput⟩ := ih _
    exact ⟨s, rest ++ [_], by rw [hsteps]; rfl, hmarks, hinput⟩

/-- What every move establishes between its step and the next one holds along the steps, up to one more step that is
recorded in the present configuration. -/
theorem isChain {R : Step → Step → Prop} (h : Traced g t tokens steps c)
    (hmove : ∀ {steps c d event}, Traced g t tokens steps c → c.Makes g t event d → ∀ number event',
      R (c.shown (steps.length + 1) event) (d.shown number event')) (number : Nat) (event : Event) :
    (steps ++ [c.shown number event]).IsChain R := by
  induction h generalizing number event with
  | start => exact List.isChain_singleton _
  | move before made ih =>
    rw [List.append_assoc, List.singleton_append, List.isChain_split]
    exact ⟨ih _ _, List.isChain_pair.mpr (hmove before made number event)⟩

end Traced

namespace Machine

open CanonicalLR.Configuration

variable {m : Machine} {r : Run} {tokens : List String} {n : Nat}

theorem traced_of_underway (h : (m.advance n (.start tokens)).ending = none) :
    Traced m.grammar m.table tokens (m.advance n (.start tokens)).steps
      (m.advance n (.start tokens)).configuration := by
  induction n with
  | zero => exact .start
  | succ n ih =>
    have hunderway := underway_of_succ h
    have htraced := ih hunderway
    rw [advance_succ_of_underway hunderway] at h ⊢
    have hpass := pass_pass m (m.advance n (.start tokens))
    generalize m.pass (m.advance n (.start tokens)) = r' at hpass h
    cases hpass with
    | shift move_eq => exact .move htraced (makes_of_move_eq_shift move_eq)
    | reduce move_eq => exact .move htraced (makes_of_move_eq_reduce move_eq)
    | stepLimit => cases h
    | cycle => cases h
    | accept => cases h
    | reject => cases h
    | fail => cases h

theorem exists_last_pass (h : (m.advance n (.start tokens)).ending.isSome = true) :
    ∃ k < n, (m.advance k (.start tokens)).ending = none ∧
      m.advance n (.start tokens) = m.pass (m.advance k (.start tokens)) := by
  induction n with
  | zero => cases h
  | succ n ih =>
    cases hending : (m.advance n (.start tokens)).ending with
    | none => exact ⟨n, Nat.lt_succ_self n, hending, advance_succ_of_underway hending⟩
    | some e =>
      have hended : (m.advance n (.start tokens)).ending.isSome = true := by rw [hending]; rfl
      obtain ⟨k, hk, hunderway, hlast⟩ := ih hended
      refine ⟨k, Nat.lt_succ_of_lt hk, hunderway, ?_⟩
      rw [advance_succ, if_pos hended, hlast]

end Machine

/-- The verdict is the last step, recorded in the configuration in which the run stands. -/
inductive Run.Closed (g : Grammar) (t : Table) (r : Run) (steps : List Step) : Prop
  | accept (steps_eq : r.steps = steps ++ [r.configuration.shown (steps.length + 1) .accept])
      (move_eq : r.configuration.move g t = .accept)
      (ending_eq : r.ending = some (.accepted (r.configuration.frames.head?.map Frame.tree))) : Closed g t r steps
  | reject {reason : Rejection}
      (steps_eq : r.steps = steps ++ [r.configuration.shown (steps.length + 1) (.reject reason)])
      (ending_eq : r.ending = some (.rejected reason r.configuration.shifted)) : Closed g t r steps

theorem Machine.exists_traced_of_verdict {m : Machine} {tokens : List String} {n : Nat}
    (hended : (m.advance n (.start tokens)).ending.isSome = true)
    (hverdict : (m.advance n (.start tokens)).fault? = none) :
    ∃ steps, Traced m.grammar m.table tokens steps (m.advance n (.start tokens)).configuration ∧
      (m.advance n (.start tokens)).Closed m.grammar m.table steps := by
  obtain ⟨k, -, hunderway, hlast⟩ := exists_last_pass hended
  have htraced := traced_of_underway hunderway
  have hpass := pass_pass m (m.advance k (.start tokens))
  rw [hlast] at hended hverdict ⊢
  clear hlast
  generalize m.advance k (.start tokens) = r at *
  generalize m.pass r = r' at *
  cases hpass with
  | stepLimit => exact ⟨r.steps, htraced, .reject rfl rfl⟩
  | cycle move_eq =>
    -- The reduction is recorded, and the rejection in the configuration that it leads to.
    exact ⟨_, .move htraced (Configuration.makes_of_move_eq_reduce move_eq), .reject rfl rfl⟩
  | accept move_eq => exact ⟨r.steps, htraced, .accept rfl move_eq rfl⟩
  | reject => exact ⟨r.steps, htraced, .reject rfl rfl⟩
  | fail => cases hverdict
  | shift =>
    rw [show (Run.shift r _ _ _).ending = none from hunderway] at hended
    cases hended
  | @reduce p target next =>
    rw [show (r.reduce p target next).ending = none from hunderway] at hended
    cases hended

theorem Machine.not_accept_of_underway {m : Machine} {tokens : List String} {n : Nat}
    (h : (m.advance n (.start tokens)).ending = none) :
    ∀ s ∈ (m.advance n (.start tokens)).steps, s.event ≠ .accept := by
  intro s hs hevent
  rcases (traced_of_underway h).event_cases s hs with ⟨x, target, hshift⟩ | ⟨p, target, hreduce⟩
  · rw [hshift] at hevent
    cases hevent
  · rw [hreduce] at hevent
    cases hevent

theorem Machine.accepted_of_mem_steps {m : Machine} {tokens : List String} {n : Nat} {s : Step}
    (hs : s ∈ (m.advance n (.start tokens)).steps) (hevent : s.event = .accept) :
    s.marks = (m.advance n (.start tokens)).configuration.marks ∧ (m.advance n (.start tokens)).ending =
      some (.accepted ((m.advance n (.start tokens)).configuration.frames.head?.map Frame.tree)) := by
  have hended : (m.advance n (.start tokens)).ending.isSome = true := by
    by_contra hunderway
    exact not_accept_of_underway (by simpa using hunderway) s hs hevent
  obtain ⟨k, -, hunderway, hlast⟩ := exists_last_pass hended
  have hbefore := not_accept_of_underway hunderway
  have hpass := pass_pass m (m.advance k (.start tokens))
  rw [hlast] at hs ⊢
  generalize m.advance k (.start tokens) = r at *
  generalize m.pass r = r' at *
  have hrecord : ∀ event, s ∈ r.record event → event = .accept := by
    intro event hs
    rcases List.mem_append.mp hs with hs | hs
    · exact absurd hevent (hbefore s hs)
    · rw [List.mem_singleton.mp hs] at hevent
      exact hevent
  cases hpass with
  | accept =>
    rcases List.mem_append.mp hs with hs | hs
    · exact absurd hevent (hbefore s hs)
    · rw [List.mem_singleton.mp hs]
      exact ⟨rfl, rfl⟩
  | stepLimit => cases hrecord _ hs
  | shift => cases hrecord _ hs
  | reduce => cases hrecord _ hs
  | reject => cases hrecord _ hs
  | fail => exact absurd hevent (hbefore s hs)
  | cycle =>
    rcases List.mem_append.mp hs with hs | hs
    · cases hrecord _ hs
    · rw [List.mem_singleton.mp hs] at hevent
      cases hevent

end CanonicalLR
