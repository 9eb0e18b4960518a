import CanonicalLR.Proofs.Moves

/-! # What the reduce guard lets pass

A run under way has followed the moves. The guard ends it only where the marks and the input repeat, and
since the last shift it lets no stack come back that a reduction has made. So as long as nothing repeats,
the machine without a limit follows its moves, and where these end it ends.
-/
namespace CanonicalLR

namespace Machine

open CanonicalLR.Configuration

variable {m : Machine} {r : Run} {tokens : List String} {n : Nat} {c d e : Configuration}

theorem advance_succ (m : Machine) (n : Nat) (r : Run) :
    m.advance (n + 1) r = if (m.advance n r).ending.isSome then m.advance n r else m.pass (m.advance n r) := by
  rw [advance_add]
  rfl

theorem advance_succ_of_underway (h : (m.advance n r).ending = none) :
    m.advance (n + 1) r = m.pass (m.advance n r) := by
  rw [advance_succ, h]
  rfl

theorem underway_of_succ (h : (m.advance (n + 1) r).ending = none) : (m.advance n r).ending = none := by
  rw [advance_succ] at h
  split at h
  · exact h
  · next hunderway => simpa using hunderway

/-- Nothing is done to an ended run any more. -/
theorem advance_eq_of_le {k : Nat} (h : (m.advance n r).ending.isSome = true) (hle : n ≤ k) :
    m.advance k r = m.advance n r := by
  rw [show k = n + (k - n) by omega, advance_add, advance_of_ended _ h]

/-- A run ends in one way only. -/
theorem advance_unique {k : Nat} (h : (m.advance n r).ending.isSome = true)
    (h' : (m.advance k r).ending.isSome = true) : m.advance n r = m.advance k r := by
  rw [← advance_eq_of_le h (Nat.le_max_left n k), ← advance_eq_of_le h' (Nat.le_max_right n k)]

theorem ending_unique {k : Nat} {e e' : Ending} (h : (m.advance n r).ending = some e)
    (h' : (m.advance k r).ending = some e') : e = e' := by
  rw [advance_unique (by rw [h]; rfl) (show (m.advance k r).ending.isSome = true by rw [h']; rfl), h'] at h
  exact (Option.some.inj h).symm

/-- What every pass of a run under way keeps, the whole run keeps. -/
theorem advance_induction (Kept : Run → Prop) (hpass : ∀ r, r.ending = none → Kept r → Kept (m.pass r))
    (hr : Kept r) (n : Nat) : Kept (m.advance n r) := by
  induction n with
  | zero => exact hr
  | succ n ih =>
    rw [advance_succ]
    split
    · exact ih
    · next hunderway => exact hpass _ (by simpa using hunderway) ih

/-- All that a pass can make of a run. -/
inductive Pass (m : Machine) (r : Run) : Run → Prop
  | stepLimit {limit : Int} (limit_eq : m.limit = some limit) : Pass m r (r.reject (.stepLimit limit))
  | shift {x : Symbol} {target : Int} {next : Configuration}
      (move_eq : r.configuration.move m.grammar m.table = .shift x target next) : Pass m r (r.shift x target next)
  | reduce {p : Production} {target : Int} {next : Configuration}
      (move_eq : r.configuration.move m.grammar m.table = .reduce p target next) (new : next.outline ∉ r.seen) :
      Pass m r { r.reduce p target next with seen := next.outline :: r.seen }
  | cycle {p : Production} {target : Int} {next : Configuration}
      (move_eq : r.configuration.move m.grammar m.table = .reduce p target next) (old : next.outline ∈ r.seen) :
      Pass m r ((r.reduce p target next).reject (.cycle target (next.input.headD .endMarker)))
  | accept (move_eq : r.configuration.move m.grammar m.table = .accept) : Pass m r r.accept
  | reject {reason : Rejection} (move_eq : r.configuration.move m.grammar m.table = .reject reason) :
      Pass m r (r.reject reason)
  | fail {fault : Fault} (move_eq : r.configuration.move m.grammar m.table = .fail fault) :
      Pass m r (r.fail fault)

theorem pass_step (m : Machine) (r : Run) : m.Pass r (m.step r) := by
  unfold step
  split
  · next hmove => exact .shift hmove
  · next hmove =>
    unfold Run.reduceGuarded
    dsimp only
    split
    · next hold => exact .cycle hmove hold
    · next hnew => exact .reduce hmove hnew
  · next hmove => exact .accept hmove
  · next hmove => exact .reject hmove
  · next hmove => exact .fail hmove

theorem pass_pass (m : Machine) (r : Run) : m.Pass r (m.pass r) := by
  unfold pass
  split
  · exact pass_step m r
  · next limit hlimit =>
    split
    · exact .stepLimit hlimit
    · exact pass_step m r

/-- A run under way has followed the moves, and has seen the stacks made since the last shift. -/
structure Tracks (m : Machine) (tokens : List String) (n : Nat) (r : Run) : Prop where
  after_eq : (initial tokens).after? m.grammar m.table n = some r.configuration
  seen_after : ∀ o ∈ r.seen, ∃ k ≤ n, ∃ d, (initial tokens).after? m.grammar m.table k = some d ∧
    d.outline = o ∧ d.input = r.configuration.input
  mem_seen : ∀ j k d e, j < k → k ≤ n → (initial tokens).after? m.grammar m.table j = some d →
    (initial tokens).after? m.grammar m.table k = some e → d.input = r.configuration.input → e.outline ∈ r.seen

theorem Tracks.after_next (h : m.Tracks tokens n r) (hnext : r.configuration.next? m.grammar m.table = some c) :
    (initial tokens).after? m.grammar m.table (n + 1) = some c := by
  rw [after?_succ, h.after_eq, Option.bind_some, hnext]

/-- A reduction that the guard stops repeats a view. -/
theorem Tracks.repeats (h : m.Tracks tokens n r) (hnext : r.configuration.next? m.grammar m.table = some c)
    (hinput : c.input = r.configuration.input) (hseen : c.outline ∈ r.seen) :
    ∃ k, (initial tokens).Repeats m.grammar m.table k (n + 1) := by
  obtain ⟨k, hk, d, hd, houtline, hd'⟩ := h.seen_after _ hseen
  refine ⟨k, by omega, d, c, hd, h.after_next hnext, ?_⟩
  exact Prod.ext (outline_eq_iff.mp houtline) (hd'.trans hinput.symm)

theorem next?_of_move_eq_shift {g : Grammar} {t : Table} {x : Symbol} {target : Int}
    (h : c.move g t = .shift x target d) : c.next? g t = some d ∧ d.input.length < c.input.length := by
  have hnext : c.next? g t = some d := by rw [next?, h]; rfl
  refine ⟨hnext, ?_⟩
  cases next_of_next? hnext with
  | shift input_eq action =>
    rw [input_eq]
    exact Nat.lt_succ_self _
  | reduce input_eq action production le_length goto =>
    simp only [move, input_eq, action, reduction, production, if_neg (Nat.not_lt.mpr le_length), goto] at h
    cases h

theorem next?_of_move_eq_reduce {g : Grammar} {t : Table} {p : Production} {target : Int}
    (h : c.move g t = .reduce p target d) : c.next? g t = some d ∧ d.input = c.input := by
  have hnext : c.next? g t = some d := by rw [next?, h]; rfl
  refine ⟨hnext, ?_⟩
  cases next_of_next? hnext with
  | shift input_eq action =>
    simp only [move, input_eq, action] at h
    cases h
  | reduce => rfl

/-- A pass that does not end the run shortens the input and forgets the stacks seen, or keeps the input and
remembers a new stack. -/
theorem pass_cases (h : (m.pass r).ending = none) :
    r.configuration.next? m.grammar m.table = some (m.pass r).configuration ∧
      ((m.pass r).configuration.input.length < r.configuration.input.length ∧ (m.pass r).seen = [] ∨
        (m.pass r).configuration.input = r.configuration.input ∧
          (m.pass r).configuration.outline ∉ r.seen ∧
            (m.pass r).seen = (m.pass r).configuration.outline :: r.seen) := by
  have hpass := pass_pass m r
  generalize m.pass r = r' at hpass h
  cases hpass with
  | shift move_eq =>
    obtain ⟨hnext, hshorter⟩ := next?_of_move_eq_shift move_eq
    exact ⟨hnext, Or.inl ⟨hshorter, rfl⟩⟩
  | reduce move_eq new =>
    obtain ⟨hnext, hinput⟩ := next?_of_move_eq_reduce move_eq
    exact ⟨hnext, Or.inr ⟨hinput, new, rfl⟩⟩
  | stepLimit => cases h
  | cycle => cases h
  | accept => cases h
  | reject => cases h
  | fail => cases h

theorem Tracks.pass (h : m.Tracks tokens n r) (hunderway : (m.pass r).ending = none) :
    m.Tracks tokens (n + 1) (m.pass r) := by
  obtain ⟨hnext, hcases⟩ := pass_cases hunderway
  generalize m.pass r = r' at hnext hcases
  rcases hcases with ⟨hshorter, hseen⟩ | ⟨hinput, -, hseen⟩
  · refine ⟨h.after_next hnext, by simp [hseen], ?_⟩
    -- Before the shift the input was longer, so no earlier configuration has the present one.
    intro j k d e hjk hk hd _ hd'
    have hle := (input_suffix (by omega) hd h.after_eq).length_le
    rw [hd'] at hle
    omega
  · refine ⟨h.after_next hnext, ?_, ?_⟩
    · intro o ho
      rw [hseen] at ho
      rcases List.mem_cons.mp ho with rfl | ho
      · exact ⟨n + 1, Nat.le_refl _, r'.configuration, h.after_next hnext, rfl, rfl⟩
      · obtain ⟨k, hk, d, hd, houtline, hd'⟩ := h.seen_after o ho
        exact ⟨k, by omega, d, hd, houtline, hd'.trans hinput.symm⟩
    · intro j k d e hjk hk hd he hd'
      rw [hseen]
      rcases Nat.le_succ_iff.mp hk with hk | rfl
      · exact List.mem_cons_of_mem _ (h.mem_seen j k d e hjk hk hd he (hd'.trans hinput))
      · rw [h.after_next hnext] at he
        cases he
        exact List.mem_cons_self

theorem tracks_advance (h : (m.advance n (.start tokens)).ending = none) :
    m.Tracks tokens n (m.advance n (.start tokens)) := by
  induction n with
  | zero => exact ⟨rfl, by simp [advance, Run.start], by omega⟩
  | succ n ih =>
    have hunderway := underway_of_succ h
    rw [advance_succ_of_underway hunderway] at h ⊢
    exact (ih hunderway).pass h

/-- The guard lets no view come back that a reduction has made since the last shift. -/
theorem view_ne_of_underway {j k l : Nat} (h : (m.advance l (.start tokens)).ending = none) (hjk : j < k)
    (hkl : k < l) (hc : (initial tokens).after? m.grammar m.table j = some c)
    (hd : (initial tokens).after? m.grammar m.table k = some d)
    (he : (initial tokens).after? m.grammar m.table l = some e) (hinput : c.input = e.input) :
    d.view ≠ e.view := by
  obtain ⟨l, rfl⟩ := Nat.exists_eq_succ_of_ne_zero (show l ≠ 0 by omega)
  have hunderway := underway_of_succ h
  have htracks := tracks_advance hunderway
  have hlast := (tracks_advance h).after_eq
  rw [he] at hlast
  rw [advance_succ_of_underway hunderway] at h hlast
  obtain ⟨-, hcases⟩ := pass_cases h
  obtain rfl := Option.some.inj hlast
  rcases hcases with ⟨hshorter, -⟩ | ⟨hsame, hnew, -⟩
  · have hle := (input_suffix (by omega) hc htracks.after_eq).length_le
    rw [hinput] at hle
    omega
  · intro hview
    apply hnew
    have houtline : d.outline = _ := outline_eq_iff.mpr (congrArg Prod.fst hview)
    rw [← houtline]
    exact htracks.mem_seen j k c d hjk (by omega) hc hd (hinput.trans hsame)

/-- Without a limit a pass makes the next move, or the guard stops it at a stack it has seen. -/
theorem pass_of_next? (hlimit : m.limit = none) (hnext : r.configuration.next? m.grammar m.table = some c) :
    (m.pass r).ending = r.ending ∧ (m.pass r).configuration = c ∨
      c.input = r.configuration.input ∧ c.outline ∈ r.seen := by
  have hpass := pass_pass m r
  generalize m.pass r = r' at hpass
  cases hpass with
  | stepLimit limit_eq =>
    rw [hlimit] at limit_eq
    cases limit_eq
  | shift move_eq =>
    rw [next?, move_eq] at hnext
    cases hnext
    exact Or.inl ⟨rfl, rfl⟩
  | reduce move_eq new =>
    rw [next?, move_eq] at hnext
    cases hnext
    exact Or.inl ⟨rfl, rfl⟩
  | cycle move_eq old =>
    obtain ⟨hnext', hinput⟩ := next?_of_move_eq_reduce move_eq
    rw [hnext] at hnext'
    cases hnext'
    exact Or.inr ⟨hinput, old⟩
  | accept move_eq =>
    rw [next?, move_eq] at hnext
    cases hnext
  | reject move_eq =>
    rw [next?, move_eq] at hnext
    cases hnext
  | fail move_eq =>
    rw [next?, move_eq] at hnext
    cases hnext

/-- Without a limit only the moves themselves or a repeated view can end a run. -/
theorem underway_of_after? (hlimit : m.limit = none)
    (h : (initial tokens).after? m.grammar m.table n = some c)
    (hdistinct : ∀ k l, l ≤ n → ¬ (initial tokens).Repeats m.grammar m.table k l) :
    (m.advance n (.start tokens)).ending = none ∧ (m.advance n (.start tokens)).configuration = c := by
  induction n generalizing c with
  | zero =>
    cases h
    exact ⟨rfl, rfl⟩
  | succ n ih =>
    obtain ⟨d, hd⟩ := exists_after?_of_le (Nat.le_succ n) h
    obtain ⟨hunderway, rfl⟩ := ih hd fun k l hl => hdistinct k l (by omega)
    have hnext : (m.advance n (.start tokens)).configuration.next? m.grammar m.table = some c := by
      rwa [after?_succ, hd, Option.bind_some] at h
    rw [advance_succ_of_underway hunderway]
    rcases pass_of_next? hlimit hnext with ⟨hending, hconfiguration⟩ | ⟨hinput, hseen⟩
    · exact ⟨hending.trans hunderway, hconfiguration⟩
    · obtain ⟨k, hrepeats⟩ := (tracks_advance hunderway).repeats hnext hinput hseen
      exact absurd hrepeats (hdistinct k _ (by omega))

/-- Moves that come to an end do not repeat a view, so that the guard lets them pass. -/
theorem underway_of_next?_eq_none (hlimit : m.limit = none)
    (h : (initial tokens).after? m.grammar m.table n = some c) (hend : c.next? m.grammar m.table = none) :
    (m.advance n (.start tokens)).ending = none ∧ (m.advance n (.start tokens)).configuration = c := by
  apply underway_of_after? hlimit h
  intro k l _ hrepeats
  obtain ⟨d, hd⟩ := hrepeats.exists_after? (n + 1)
  rw [after?_succ, h, Option.bind_some, hend] at hd
  cases hd

/-- Without a limit a pass from where no move goes on gives a verdict, or the machine fails. -/
theorem pass_of_next?_eq_none (hlimit : m.limit = none)
    (hend : r.configuration.next? m.grammar m.table = none) :
    r.configuration.move m.grammar m.table = .accept ∧ m.pass r = r.accept ∨
      (∃ reason, r.configuration.move m.grammar m.table = .reject reason ∧ m.pass r = r.reject reason) ∨
        ∃ fault, r.configuration.move m.grammar m.table = .fail fault := by
  rw [pass, hlimit]
  simp only [step]
  rw [next?] at hend
  cases hmove : r.configuration.move m.grammar m.table with
  | shift x target next =>
    rw [hmove] at hend
    cases hend
  | reduce p target next =>
    rw [hmove] at hend
    cases hend
  | accept => exact Or.inl ⟨rfl, rfl⟩
  | reject reason => exact Or.inr (Or.inl ⟨reason, rfl, rfl⟩)
  | fail fault => exact Or.inr (Or.inr ⟨fault, rfl⟩)

theorem event_of_getLast? (h : (m.pass r).ending = none)
    (hinput : (m.pass r).configuration.input ≠ r.configuration.input) :
    ∀ s ∈ (m.pass r).steps.getLast?, ∃ x target, s.event = .shift x target := by
  have hpass := pass_pass m r
  generalize m.pass r = r' at hpass h hinput
  cases hpass with
  | @shift x target next move_eq =>
    intro s hs
    rw [Run.shift, Run.record, List.getLast?_concat] at hs
    cases hs
    exact ⟨x, target, rfl⟩
  | reduce move_eq new => exact absurd (next?_of_move_eq_reduce move_eq).2 hinput
  | stepLimit => cases h
  | cycle => cases h
  | accept => cases h
  | reject => cases h
  | fail => cases h

theorem accepted_of_after? (hlimit : m.limit = none)
    (h : (initial tokens).after? m.grammar m.table n = some c) (hmove : c.move m.grammar m.table = .accept) :
    (m.advance (n + 1) (.start tokens)).ending = some (.accepted (c.frames.head?.map Frame.tree)) := by
  obtain ⟨hunderway, hconfiguration⟩ :=
    underway_of_next?_eq_none hlimit h (show c.next? m.grammar m.table = none by rw [next?, hmove]; rfl)
  rw [advance_succ_of_underway hunderway, pass, hlimit]
  simp only [step, hconfiguration, hmove, Run.accept]

end Machine

end CanonicalLR
