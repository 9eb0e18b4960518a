import CanonicalLR.Proofs.Climbing
import CanonicalLR.Proofs.Traced
import CanonicalLR.Proofs.Unguarded

/-! # The trace of a run can be replayed

From the entries of a trace alone one can follow the run: the first entry shows the start, and the stack and the
input of every later one are what the action of the entry before makes of its own. Only the last entry is a verdict,
and it is the verdict of the run. In the texts of an entry a frame counts twice, as the name of its symbol and as its
state, so that a reduction takes two texts for each symbol of its right side.
-/
namespace CanonicalLR

open CanonicalLR.Configuration

variable {g : Grammar} {t : Table}

theorem Event.action_verdict_iff (e : Event) :
    (e.action = "accept" ∨ e.action = "error") ↔ e = .accept ∨ ∃ reason, e = .reject reason := by
  -- The action of a move begins with another letter than a verdict does.
  have hne : ∀ first : Char, first ≠ 'a' → first ≠ 'e' → e.action.toList.head? = some first →
      ¬ (e.action = "accept" ∨ e.action = "error") := by
    rintro first ha he hfirst (h | h)
    · rw [h] at hfirst
      exact ha (Option.some.inj hfirst).symm
    · rw [h] at hfirst
      exact he (Option.some.inj hfirst).symm
  cases e with
  | accept => exact ⟨fun _ => Or.inl rfl, fun _ => Or.inl rfl⟩
  | reject reason => exact ⟨fun _ => Or.inr ⟨reason, rfl⟩, fun _ => Or.inr rfl⟩
  | shift x target =>
    have hno := hne 's' (by decide) (by decide) (by simp [action, Action.text, toString])
    simpa using hno
  | reduce p target =>
    have hno := hne 'r' (by decide) (by decide) (by simp [action, Action.text, toString])
    simpa using hno

namespace Step

theorem stackTexts_cons (mark : Mark) (marks : List Mark) :
    stackTexts (mark :: marks) = stackTexts marks ++ [mark.1.name, toString mark.2] := by
  simp [stackTexts]

theorem getLast?_stackTexts (marks : List Mark) : (stackTexts marks).getLast? = some (toString (topOf marks)) := by
  cases marks with
  | nil => rfl
  | cons mark marks => simp [stackTexts_cons, topOf]

/-- The texts of the frames that stay stand before those of the frames that go, which are two for each. -/
theorem exists_stackTexts_drop {k : Nat} {marks : List Mark} (h : k ≤ marks.length) :
    ∃ removed, stackTexts marks = stackTexts (marks.drop k) ++ removed ∧ removed.length = 2 * k := by
  induction k generalizing marks with
  | zero => exact ⟨[], by simp, rfl⟩
  | succ k ih =>
    cases marks with
    | nil => cases h
    | cons mark marks =>
      obtain ⟨removed, htexts, hlength⟩ := ih (Nat.le_of_succ_le_succ h)
      refine ⟨removed ++ [mark.1.name, toString mark.2], ?_, ?_⟩
      · rw [stackTexts_cons, htexts, List.drop_succ_cons, List.append_assoc]
      · rw [List.length_append, hlength]
        rfl

/-- The action of the step, which is the one that the table has for it, makes the stack and the input of the next
step. -/
inductive LeadsTo (g : Grammar) (t : Table) (s s' : Step) : Prop
  | shift {x : Symbol} {target : Int} (event_eq : s.event = .shift x target)
      (action : t.action? (topOf s.marks) x = some (.shift target)) (marks_eq : s'.marks = (x, target) :: s.marks)
      (input_eq : s.input = x :: s'.input) : LeadsTo g t s s'
  | reduce {x : Symbol} {rest : List Symbol} {p : Production} {target : Int} (event_eq : s.event = .reduce p target)
      (mem : p ∈ g.productions) (first_eq : s.input = x :: rest)
      (action : t.action? (topOf s.marks) x = some (.reduce p.id)) (le_length : p.rhs.length ≤ s.marks.length)
      (goto : t.goto? (topOf (s.marks.drop p.rhs.length)) p.lhs = some target)
      (marks_eq : s'.marks = (p.lhs, target) :: s.marks.drop p.rhs.length) (input_eq : s'.input = s.input) :
      LeadsTo g t s s'

theorem leadsTo_of_makes {c d : Configuration} {event : Event} (h : c.Makes g t event d) (m n : Nat)
    (event' : Event) : (c.shown m event).LeadsTo g t (d.shown n event') := by
  cases h with
  | shift input_eq action =>
    rw [topState_eq_topOf] at action
    exact .shift rfl action rfl input_eq
  | reduce input_eq action mem le_length goto =>
    rw [topState_eq_topOf] at action
    rw [topState_drop_eq_topOf] at goto
    rw [← length_marks] at le_length
    exact .reduce rfl mem input_eq action le_length goto (marks_reduce _ _ _) rfl

end Step

/-- The action that is read in an entry makes the stack and the input that are read in the next one: a shift takes
the first text of the input over to the stack and puts its target behind it, a reduction takes away two texts for
each symbol of the right side and puts the left side there with the GOTO of the state that is last then. -/
inductive TraceEntry.LeadsTo (g : Grammar) (t : Table) (e e' : TraceEntry) : Prop
  | shift {name : String} {target : Int} (action_eq : e.action = s!"shift {target}")
      (stack_eq : e'.stack = e.stack ++ [name, toString target]) (input_eq : e.input = name :: e'.input) :
      LeadsTo g t e e'
  | reduce {p : Production} {exposed target : Int} {kept removed : List String} (mem : p ∈ g.productions)
      (action_eq : e.action = s!"reduce {p.id}") (kept_removed : e.stack = kept ++ removed)
      (length_eq : removed.length = 2 * p.rhs.length) (last_eq : kept.getLast? = some (toString exposed))
      (goto : t.goto? exposed p.lhs = some target) (stack_eq : e'.stack = kept ++ [p.lhs.name, toString target])
      (input_eq : e'.input = e.input) : LeadsTo g t e e'

theorem Step.LeadsTo.entry {s s' : Step} (h : s.LeadsTo g t s') : s.entry.LeadsTo g t s'.entry := by
  cases h with
  | @shift x target event_eq action marks_eq input_eq =>
    have haction : s.entry.action = s!"shift {target}" := by simp only [Step.entry, event_eq, Event.action, Action.text]
    have hstack : s'.entry.stack = s.entry.stack ++ [x.name, toString target] := by
      rw [Step.entry, marks_eq, stackTexts_cons]
      rfl
    have hinput : s.entry.input = x.name :: s'.entry.input := by simp only [Step.entry, input_eq, List.map_cons]
    exact .shift haction hstack hinput
  | @reduce x rest p target event_eq mem first_eq action le_length goto marks_eq input_eq =>
    obtain ⟨removed, htexts, hlength⟩ := exists_stackTexts_drop le_length
    refine .reduce mem ?_ htexts hlength (getLast?_stackTexts _) goto ?_ ?_
    · simp only [Step.entry, event_eq, Event.action, Action.text]
      rfl
    · rw [Step.entry, marks_eq, stackTexts_cons]
    · simp only [Step.entry, input_eq]

/-- The steps of a run that has come to a verdict tell how it got there. -/
structure Run.Replays (m : Machine) (tokens : List String) (r : Run) : Prop where
  numbered : r.steps.map Step.number = List.range' 1 r.steps.length
  first : ∃ s, r.steps.head? = some s ∧ s.entry.stack = ["0"] ∧ s.entry.input = tokens ++ ["$"]
  leads : r.steps.IsChain (Step.LeadsTo m.grammar m.table)
  reads : (r.steps.map Step.entry).IsChain (TraceEntry.LeadsTo m.grammar m.table)
  verdict_last : ∀ i s, r.steps[i]? = some s →
    ((s.entry.action = "accept" ∨ s.entry.action = "error") ↔ i + 1 = r.steps.length)
  accepted : r.accepted = true → (∃ s, r.steps.getLast? = some s ∧ s.entry.action = "accept") ∧ r.position = -1 ∧
    r.steps.countP Step.isShift = tokens.length
  rejected : r.accepted = false → (∃ s, r.steps.getLast? = some s ∧ s.entry.action = "error" ∧
    s.entry.message = r.message) ∧ r.position = r.steps.countP Step.isShift
  trace_eq : r.trace = r.steps.map fun s => s.entry.text

namespace Traced

variable {tokens : List String} {steps : List Step} {c : Configuration}

theorem numbers_concat (h : Traced g t tokens steps c) (event : Event) :
    (steps ++ [c.shown (steps.length + 1) event]).map Step.number =
      List.range' 1 (steps ++ [c.shown (steps.length + 1) event]).length := by
  rw [List.map_append, h.numbers, List.length_append, List.length_singleton, List.range'_1_concat, Nat.add_comm 1]
  rfl

theorem exists_first_entry (h : Traced g t tokens steps c) (event : Event) :
    ∃ s, (steps ++ [c.shown (steps.length + 1) event]).head? = some s ∧ s.entry.stack = ["0"] ∧
      s.entry.input = tokens ++ ["$"] := by
  obtain ⟨s, rest, hhead, hmarks, hinput⟩ := h.head_eq event
  refine ⟨s, by rw [hhead]; rfl, ?_, ?_⟩
  · rw [Step.entry, hmarks]
    rfl
  · simp [Step.entry, hinput, initial, Symbol.terminal, Symbol.endMarker, Function.comp_def]

/-- No move reads as a verdict, so that a verdict behind the moves is the only one. -/
theorem verdict_iff_last (h : Traced g t tokens steps c) {last s : Step} {i : Nat}
    (hlast : last.event = .accept ∨ ∃ reason, last.event = .reject reason) (hs : (steps ++ [last])[i]? = some s) :
    (s.entry.action = "accept" ∨ s.entry.action = "error") ↔ i + 1 = (steps ++ [last]).length := by
  rw [show s.entry.action = s.event.action from rfl, Event.action_verdict_iff, List.length_append,
    List.length_singleton, Nat.add_right_cancel_iff]
  rcases Nat.lt_trichotomy i steps.length with hlt | rfl | hgt
  · rw [List.getElem?_append_left hlt] at hs
    constructor
    · intro hverdict
      rcases h.event_cases s (List.mem_of_getElem? hs) with ⟨x, target, hevent⟩ | ⟨p, target, hevent⟩ <;>
        rcases hverdict with hverdict | ⟨reason, hverdict⟩ <;> rw [hevent] at hverdict <;> cases hverdict
    · intro heq
      omega
  · rw [List.getElem?_concat_length] at hs
    cases hs
    exact ⟨fun _ => rfl, fun _ => hlast⟩
  · rw [List.getElem?_eq_none (by simp; omega)] at hs
    cases hs

theorem countP_isShift_of_accept (h : Traced g t tokens steps c) (hmove : c.move g t = .accept) :
    steps.countP Step.isShift = tokens.length := by
  obtain ⟨x, hinput, -⟩ := of_move_eq_accept hmove
  obtain ⟨read, hread, hlength⟩ := h.input_eq
  have htokens := congrArg List.length hread
  rw [hinput] at htokens
  rw [← h.shifted_eq, ← hlength]
  simpa [initial] using htokens.symm

end Traced

namespace Run.Closed

variable {r : Run} {steps : List Step}

theorem exists_verdict (h : r.Closed g t steps) :
    ∃ event, r.steps = steps ++ [r.configuration.shown (steps.length + 1) event] ∧
      (event = .accept ∨ ∃ reason, event = .reject reason) := by
  cases h with
  | accept steps_eq => exact ⟨_, steps_eq, Or.inl rfl⟩
  | reject steps_eq => exact ⟨_, steps_eq, Or.inr ⟨_, rfl⟩⟩

theorem countP_isShift (h : r.Closed g t steps) : r.steps.countP Step.isShift = steps.countP Step.isShift := by
  obtain ⟨event, hsteps, hevent⟩ := h.exists_verdict
  rw [hsteps, List.countP_append]
  rcases hevent with rfl | ⟨reason, rfl⟩ <;> rfl

end Run.Closed

namespace Machine

variable {m : Machine} {tokens : List String} {n : Nat}

theorem replays_of_verdict (hended : (m.advance n (.start tokens)).ending.isSome = true)
    (hverdict : (m.advance n (.start tokens)).fault? = none) : (m.advance n (.start tokens)).Replays m tokens := by
  obtain ⟨steps, htraced, hclosed⟩ := exists_traced_of_verdict hended hverdict
  generalize m.advance n (.start tokens) = r at *
  obtain ⟨event, hsteps, hevent⟩ := hclosed.exists_verdict
  have hshifts := hclosed.countP_isShift
  have hleads : r.steps.IsChain (Step.LeadsTo m.grammar m.table) := by
    rw [hsteps]
    exact htraced.isChain (fun _ hmakes number event' => Step.leadsTo_of_makes hmakes _ number event') _ event
  exact {
    numbered := by
      rw [hsteps]
      exact htraced.numbers_concat event
    first := by
      rw [hsteps]
      exact htraced.exists_first_entry event
    leads := hleads
    reads := by
      rw [List.isChain_map]
      exact hleads.imp fun _ _ h => h.entry
    verdict_last := by
      intro i s hs
      rw [hsteps] at hs ⊢
      exact htraced.verdict_iff_last hevent hs
    accepted := by
      intro haccepted
      cases hclosed with
      | accept steps_eq move_eq ending_eq =>
        refine ⟨⟨_, by rw [steps_eq, List.getLast?_concat], rfl⟩, by rw [Run.position, ending_eq], ?_⟩
        rw [hshifts, htraced.countP_isShift_of_accept move_eq]
      | reject steps_eq ending_eq =>
        rw [Run.accepted, ending_eq] at haccepted
        cases haccepted
    rejected := by
      intro hrejected
      cases hclosed with
      | accept steps_eq move_eq ending_eq =>
        rw [Run.accepted, ending_eq] at hrejected
        cases hrejected
      | reject steps_eq ending_eq =>
        refine ⟨⟨_, by rw [steps_eq, List.getLast?_concat], rfl, ?_⟩, ?_⟩
        · rw [Run.message, ending_eq]
          rfl
        · rw [Run.position, ending_eq, hshifts, htraced.shifted_eq]
    trace_eq := rfl }

/-- The second reduction is stopped, so that the last of four steps shows the stack behind it. -/
theorem replays_turning : (turning.advance 3 (.start ["a"])).steps.length = 4 ∧
    (turning.advance 3 (.start ["a"])).Replays turning ["a"] :=
  ⟨rfl, replays_of_verdict rfl rfl⟩

end Machine

end CanonicalLR
