import CanonicalLR.Proofs.Termination

/-! # Runs without the reduce guard

Without the guard a run makes every reduction that the moves ask for and keeps no stacks. As long as the guard lets
the reductions pass, both runs go side by side. Where it stops one, the view has come back, so that the moves go on
for ever on the same input, with reductions only. Conversely, if the moves go on for ever under a bound on the
height of the stack, then there are too few stacks for the guard to let them all pass.
-/
namespace CanonicalLR

namespace Configuration

variable {g : Grammar} {t : Table} {c d e : Configuration} {k m n : Nat}

/-- From the first of the two views on the input stays as it is. -/
theorem Repeats.input_eq (h : c.Repeats g t m n) (hd : c.after? g t m = some d) (hle : m ≤ k)
    (he : c.after? g t k = some e) : e.input = d.input := by
  obtain ⟨hlt, d', f, hd', hf, hview⟩ := h
  rw [hd] at hd'
  cases hd'
  induction k using Nat.strongRecOn generalizing e with
  | ind k ih =>
    rcases Nat.lt_or_ge n k with hk | hk
    · -- After the second view the moves are those after the first one.
      rw [show k = n + (k - n) by omega, after?_add, hf, Option.bind_some] at he
      obtain ⟨e', he', hview'⟩ := exists_after?_of_view_eq hview.symm he
      have hearlier : c.after? g t (m + (k - n)) = some e' := by rw [after?_add, hd, Option.bind_some, he']
      exact (congrArg Prod.snd hview').trans (ih (m + (k - n)) (by omega) (by omega) hearlier)
    · have hinput : d.input = f.input := congrArg Prod.snd hview
      have hshorter := (input_suffix hle hd he).length_le
      have hlonger := (input_suffix hk he hf).length_le
      rw [← hinput] at hlonger
      exact (input_suffix hle hd he).eq_of_length_le hlonger

/-- Only the guard rejects a stack for being there again. -/
theorem move_ne_cycle (c : Configuration) (q : Int) (x : Symbol) : c.move g t ≠ .reject (.cycle q x) := by
  intro h
  unfold move at h
  split at h
  · cases h
  · split at h
    · cases h
    · cases h
    · next id _ =>
      unfold reduction at h
      split at h
      · cases h
      · split at h
        · cases h
        · dsimp only at h
          split at h <;> cases h
    · split at h <;> cases h

end Configuration

/-- The run without the stacks that it has seen. -/
def Run.unseen (r : Run) : Run := { r with seen := [] }

namespace Machine

open CanonicalLR.Configuration

variable {m : Machine} {r : Run} {tokens : List String} {c d : Configuration} {k n : Nat}

/-- Every reduction is made, whether or not its stack has been there before. -/
def stepUnguarded (m : Machine) (r : Run) : Run :=
  match r.configuration.move m.grammar m.table with
  | .shift a target next => r.shift a target next
  | .reduce p target next => r.reduce p target next
  | .accept => r.accept
  | .reject reason => r.reject reason
  | .fail fault => r.fail fault

/-- The run after at most `n` steps, without a guard and without a limit. -/
def unguarded (m : Machine) (tokens : List String) : Nat → Run
  | 0 => .start tokens
  | n + 1 =>
    if (m.unguarded tokens n).ending.isSome then m.unguarded tokens n else m.stepUnguarded (m.unguarded tokens n)

theorem unguarded_succ_of_underway (h : (m.unguarded tokens n).ending = none) :
    m.unguarded tokens (n + 1) = m.stepUnguarded (m.unguarded tokens n) := by
  simp [unguarded, h]

theorem unguarded_succ_of_ended (h : (m.unguarded tokens n).ending.isSome = true) :
    m.unguarded tokens (n + 1) = m.unguarded tokens n := by
  simp [unguarded, h]

/-- The guard stops the reduction of pass `k`, up to which the runs went side by side. -/
structure StopsAt (m : Machine) (tokens : List String) (k : Nat) : Prop where
  underway : (m.advance k (.start tokens)).ending = none
  same : m.unguarded tokens k = (m.advance k (.start tokens)).unseen
  stopped : ∃ p target next, (m.advance k (.start tokens)).configuration.move m.grammar m.table =
      .reduce p target next ∧ next.outline ∈ (m.advance k (.start tokens)).seen ∧
    m.advance (k + 1) (.start tokens) =
      ((m.advance k (.start tokens)).reduce p target next).reject (.cycle target (next.input.headD .endMarker))

theorem step_cases (m : Machine) (r : Run) :
    m.stepUnguarded r.unseen = (m.step r).unseen ∨
      ∃ p target next, r.configuration.move m.grammar m.table = .reduce p target next ∧ next.outline ∈ r.seen ∧
        m.step r = (r.reduce p target next).reject (.cycle target (next.input.headD .endMarker)) := by
  unfold stepUnguarded step
  rw [show r.unseen.configuration = r.configuration from rfl]
  cases r.configuration.move m.grammar m.table with
  | shift a target next => exact Or.inl rfl
  | reduce p target next =>
    dsimp only
    by_cases hold : next.outline ∈ r.seen
    · exact Or.inr ⟨p, target, next, rfl, hold, by rw [Run.reduceGuarded, if_pos hold]⟩
    · left
      rw [Run.reduceGuarded, if_neg hold]
      rfl
  | accept => exact Or.inl rfl
  | reject reason => exact Or.inl rfl
  | fail fault => exact Or.inl rfl

/-- The runs go side by side unless the guard has stopped one of them. -/
theorem unguarded_cases (hlimit : m.limit = none) (n : Nat) :
    m.unguarded tokens n = (m.advance n (.start tokens)).unseen ∨ ∃ k < n, m.StopsAt tokens k := by
  induction n with
  | zero => exact Or.inl rfl
  | succ n ih =>
    rcases ih with hsame | ⟨k, hk, hstops⟩
    · have hending : (m.unguarded tokens n).ending = (m.advance n (.start tokens)).ending := by rw [hsame]; rfl
      cases hrun : (m.advance n (.start tokens)).ending with
      | some e =>
        rw [unguarded_succ_of_ended (by rw [hending, hrun]; rfl), advance_succ, if_pos (by rw [hrun]; rfl)]
        exact Or.inl hsame
      | none =>
        have hpass : m.advance (n + 1) (.start tokens) = m.step (m.advance n (.start tokens)) := by
          rw [advance_succ_of_underway hrun, pass, hlimit]
        rw [unguarded_succ_of_underway (hending.trans hrun), hpass, hsame]
        refine (step_cases m (m.advance n (.start tokens))).imp_right ?_
        rintro ⟨p, target, next, hmove, hseen, hstep⟩
        exact ⟨n, Nat.lt_succ_self n, hrun, hsame, p, target, next, hmove, hseen, hpass.trans hstep⟩
    · exact Or.inr ⟨k, Nat.lt_succ_of_lt hk, hstops⟩

/-- As long as the moves go on, the run without a guard makes them. -/
theorem unguarded_of_after? (h : (initial tokens).after? m.grammar m.table n = some c) :
    (m.unguarded tokens n).ending = none ∧ (m.unguarded tokens n).configuration = c := by
  induction n generalizing c with
  | zero =>
    cases h
    exact ⟨rfl, rfl⟩
  | succ n ih =>
    rw [after?_succ] at h
    obtain ⟨d, hd, hnext⟩ := Option.bind_eq_some_iff.mp h
    obtain ⟨hunderway, rfl⟩ := ih hd
    rw [unguarded_succ_of_underway hunderway, stepUnguarded]
    rcases move_of_next? hnext with ⟨x, target, hmove⟩ | ⟨p, target, hmove⟩
    · rw [hmove]
      exact ⟨hunderway, rfl⟩
    · rw [hmove]
      exact ⟨hunderway, rfl⟩

/-- A step that keeps the input records a reduction. -/
theorem steps_unguarded_succ (hc : (initial tokens).after? m.grammar m.table n = some c)
    (hd : (initial tokens).after? m.grammar m.table (n + 1) = some d) (hinput : d.input = c.input) :
    ∃ p target, (m.unguarded tokens (n + 1)).steps = (m.unguarded tokens n).record (.reduce p target) := by
  obtain ⟨hunderway, rfl⟩ := unguarded_of_after? hc
  have hnext : (m.unguarded tokens n).configuration.next? m.grammar m.table = some d := by
    rwa [after?_succ, hc, Option.bind_some] at hd
  rw [unguarded_succ_of_underway hunderway, stepUnguarded]
  rcases move_of_next? hnext with ⟨x, target, hmove⟩ | ⟨p, target, hmove⟩
  · have hshorter := (next?_of_move_eq_shift hmove).2
    rw [hinput] at hshorter
    exact absurd hshorter (Nat.lt_irrefl _)
  · rw [hmove]
    exact ⟨p, target, rfl⟩

/-- On one input only reductions are recorded. -/
theorem exists_reductions (hafter : ∀ n, ∃ c, (initial tokens).after? m.grammar m.table n = some c)
    (hinput : ∀ n c d, k ≤ n → (initial tokens).after? m.grammar m.table n = some c →
      (initial tokens).after? m.grammar m.table (n + 1) = some d → d.input = c.input) (hle : k ≤ n) :
    ∃ more, (m.unguarded tokens n).steps = (m.unguarded tokens k).steps ++ more ∧
      ∀ s ∈ more, ∃ p target, s.event = .reduce p target := by
  induction hle with
  | refl => exact ⟨[], by simp, by simp⟩
  | @step n hle ih =>
    obtain ⟨more, hmore, hreductions⟩ := ih
    obtain ⟨c, hc⟩ := hafter n
    obtain ⟨d, hd⟩ := hafter (n + 1)
    obtain ⟨p, target, hsteps⟩ := steps_unguarded_succ hc hd (hinput n c d hle hc hd)
    refine ⟨more ++ [_], by rw [hsteps, Run.record, hmore, List.append_assoc], ?_⟩
    intro s hs
    rcases List.mem_append.mp hs with hs | hs
    · exact hreductions s hs
    · rw [List.mem_singleton.mp hs]
      exact ⟨p, target, rfl⟩

theorem ending_unguarded_ne_cycle (m : Machine) (tokens : List String) (n : Nat) (q : Int) (x : Symbol)
    (position : Nat) : (m.unguarded tokens n).ending ≠ some (.rejected (.cycle q x) position) := by
  induction n with
  | zero => exact fun h => nomatch h
  | succ n ih =>
    cases hending : (m.unguarded tokens n).ending with
    | some e =>
      rw [unguarded_succ_of_ended (by rw [hending]; rfl)]
      exact ih
    | none =>
      rw [unguarded_succ_of_underway hending, stepUnguarded]
      cases hmove : (m.unguarded tokens n).configuration.move m.grammar m.table with
      | shift a target next => simp [Run.shift, hending]
      | reduce p target next => simp [Run.reduce, hending]
      | accept => simp [Run.accept]
      | fail fault => simp [Run.fail]
      | reject reason =>
        intro h
        cases h
        exact move_ne_cycle _ q x hmove

namespace StopsAt

theorem exists_repeats (h : m.StopsAt tokens k) :
    ∃ j, (initial tokens).Repeats m.grammar m.table j (k + 1) := by
  obtain ⟨p, target, next, hmove, hseen, -⟩ := h.stopped
  obtain ⟨hnext, hinput⟩ := next?_of_move_eq_reduce hmove
  exact (tracks_advance h.underway).repeats hnext hinput hseen

theorem exists_after? (h : m.StopsAt tokens k) (n : Nat) :
    ∃ c, (initial tokens).after? m.grammar m.table n = some c := by
  obtain ⟨j, hrepeats⟩ := h.exists_repeats
  exact hrepeats.exists_after? n

theorem unguarded_underway (h : m.StopsAt tokens k) (n : Nat) : (m.unguarded tokens n).ending = none := by
  obtain ⟨c, hc⟩ := h.exists_after? n
  exact (unguarded_of_after? hc).1

theorem reductions (h : m.StopsAt tokens k) (hle : k + 1 ≤ n) :
    ∃ more, (m.unguarded tokens n).steps = (m.unguarded tokens (k + 1)).steps ++ more ∧
      ∀ s ∈ more, ∃ p target, s.event = .reduce p target := by
  obtain ⟨j, hrepeats⟩ := h.exists_repeats
  obtain ⟨e, he⟩ := h.exists_after? j
  have hlt := hrepeats.lt
  apply exists_reductions h.exists_after? ?_ hle
  intro n c d hn hc hd
  exact (hrepeats.input_eq he (by omega) hd).trans (hrepeats.input_eq he (by omega) hc).symm

/-- What is recorded when the guard stops the run is what the other run records, and the rejection. -/
theorem steps_eq (h : m.StopsAt tokens k) (hle : k + 1 ≤ n) :
    ∃ state symbol position s, (m.advance n (.start tokens)).ending = some (.rejected (.cycle state symbol) position) ∧
      (m.advance n (.start tokens)).steps = (m.unguarded tokens (k + 1)).steps ++ [s] := by
  obtain ⟨p, target, next, hmove, -, hstop⟩ := h.stopped
  have hlater : m.advance n (.start tokens) = m.advance (k + 1) (.start tokens) :=
    advance_eq_of_le (by rw [hstop]; rfl) hle
  have hsame : m.unguarded tokens (k + 1) = ((m.advance k (.start tokens)).reduce p target next).unseen := by
    rw [unguarded_succ_of_underway (h.unguarded_underway k), h.same, stepUnguarded,
      show (m.advance k (.start tokens)).unseen.configuration = (m.advance k (.start tokens)).configuration from rfl,
      hmove]
    rfl
  rw [hlater, hstop, hsame]
  exact ⟨_, _, _, _, rfl, rfl⟩

end StopsAt

/-- How a run compares with the run that has no reduce guard, on any tables and without a limit. -/
structure GuardStopsEndless (m : Machine) (tokens : List String) : Prop where
  same_end : ∀ n, (m.unguarded tokens n).ending.isSome = true →
    (m.advance n (.start tokens)).ending = (m.unguarded tokens n).ending ∧
      (m.advance n (.start tokens)).steps = (m.unguarded tokens n).steps
  endless : ∀ n state symbol position,
    (m.advance n (.start tokens)).ending = some (.rejected (.cycle state symbol) position) →
      (∀ j, (m.unguarded tokens j).ending = none) ∧
        ∃ k s, (m.advance n (.start tokens)).steps = (m.unguarded tokens k).steps ++ [s] ∧
          ∀ j ≥ k, ∃ more, (m.unguarded tokens j).steps = (m.unguarded tokens k).steps ++ more ∧
            ∀ s ∈ more, ∃ p target, s.event = .reduce p target
  bounded : ∀ height, (∀ n, (m.unguarded tokens n).ending = none ∧
      (m.unguarded tokens n).configuration.frames.length ≤ height) →
    ∃ n state symbol position, (m.advance n (.start tokens)).ending = some (.rejected (.cycle state symbol) position)

theorem exists_stopsAt (hlimit : m.limit = none) {height : Nat}
    (h : ∀ n, (m.unguarded tokens n).configuration.frames.length ≤ height)
    (hunderway : ∀ n, (m.unguarded tokens n).ending = none) : ∃ k, m.StopsAt tokens k := by
  by_contra hnever
  have hsame : ∀ n, m.unguarded tokens n = (m.advance n (.start tokens)).unseen := by
    intro n
    refine (unguarded_cases hlimit n).resolve_right ?_
    rintro ⟨k, -, hstops⟩
    exact hnever ⟨k, hstops⟩
  have hguarded : ∀ n, (m.advance n (.start tokens)).ending = none := by
    intro n
    have hn := hunderway n
    rwa [hsame n] at hn
  have hendless := endless_of_underway hguarded
  obtain ⟨N, hN⟩ := hendless.exists_settled
  apply Set.infinite_univ (α := Nat)
  refine (hendless.finite_heights hN height).subset ?_
  intro n _
  have hn := h n
  rwa [hsame n] at hn

theorem guard_stops_endless (g : Grammar) (t : Table) (tokens : List String) :
    GuardStopsEndless ⟨g, t, none⟩ tokens where
  same_end n hended := by
    rcases unguarded_cases (m := ⟨g, t, none⟩) rfl n with hsame | ⟨k, -, hstops⟩
    · rw [hsame]
      exact ⟨rfl, rfl⟩
    · rw [hstops.unguarded_underway n] at hended
      cases hended
  endless n state symbol position hcycle := by
    rcases unguarded_cases (m := ⟨g, t, none⟩) rfl n with hsame | ⟨k, hk, hstops⟩
    · -- Side by side with the run without a guard this one is not stopped by it.
      apply absurd _ (ending_unguarded_ne_cycle ⟨g, t, none⟩ tokens n state symbol position)
      rw [hsame]
      exact hcycle
    · obtain ⟨-, -, -, s, -, hsteps⟩ := hstops.steps_eq hk
      exact ⟨hstops.unguarded_underway, k + 1, s, hsteps, fun j hj => hstops.reductions hj⟩
  bounded height h := by
    obtain ⟨k, hstops⟩ := exists_stopsAt (m := ⟨g, t, none⟩) rfl (fun n => (h n).2) fun n => (h n).1
    obtain ⟨state, symbol, position, -, hending, -⟩ := hstops.steps_eq (Nat.le_refl (k + 1))
    exact ⟨k + 1, state, symbol, position, hending⟩

/-- On the end marker state 1 reduces by a rule that gives its own left side, back to state 1. -/
def turning : Machine where
  grammar := ⟨.nonterminal "A", [⟨.nonterminal "A", [.nonterminal "A"]⟩]⟩
  table := {
    actions := .ofList [((0, .terminal "a"), .shift 1), ((1, .endMarker), .reduce 1)]
    gotos := .ofList [((0, .nonterminal "A"), 1)]
    terminals := [.terminal "a", .endMarker]
    nonterminals := [.nonterminal "A"]
    states := [0, 1]
    conflicts := [] }
  limit := none

/-- The guard stops the second of the reductions, which have no end without it. -/
theorem guard_stops_turning :
    (turning.advance 3 (.start ["a"])).ending = some (.rejected (.cycle 1 .endMarker) 1) ∧
      ∀ n, (turning.unguarded ["a"] n).ending = none :=
  ⟨rfl, ((guard_stops_endless turning.grammar turning.table ["a"]).endless 3 1 .endMarker 1 rfl).1⟩

end Machine

end CanonicalLR
