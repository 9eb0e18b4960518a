import CanonicalLR.Proofs.Moves

/-! # What the machine knows of its input

The moves depend on the symbols read and on the next one, and on nothing behind it. So a configuration is
viable if its stack can be led to acceptance with some input that begins with the next symbol. Then there is
an action on this symbol, and the reductions on it come to an end and keep the configuration viable.
-/
namespace CanonicalLR.Configuration

variable {g : Grammar} {t : Table} {c d c' : Configuration} {n k : Nat} {frames : List Frame}
  {front rest : List Symbol} {x : Symbol}

/-- As long as the back of the input has not been reached, the moves are those before any other back. -/
theorem after?_of_append (h : after? g t n ⟨frames, k, front ++ rest⟩ = some d)
    (hlt : rest.length < d.input.length) (rest' : List Symbol) :
    ∃ front', d.input = front' ++ rest ∧
      after? g t n ⟨frames, k, front ++ rest'⟩ = some ⟨d.frames, d.shifted, front' ++ rest'⟩ := by
  induction n generalizing d with
  | zero =>
    cases h
    exact ⟨front, rfl, rfl⟩
  | succ n ih =>
    rw [after?_succ] at h
    obtain ⟨e, he, hnext⟩ := Option.bind_eq_some_iff.mp h
    have hle := (input_suffix_of_next? hnext).length_le
    obtain ⟨front', hinput, he'⟩ := ih he (by omega)
    obtain ⟨x, front', rfl⟩ : ∃ x front'', front' = x :: front'' := by
      apply List.exists_cons_of_ne_nil
      rintro rfl
      rw [hinput, List.nil_append] at hle
      omega
    cases next_of_next? hnext with
    | @shift y others target input_eq action =>
      rw [hinput] at input_eq
      obtain ⟨rfl, rfl⟩ := List.cons.inj input_eq
      refine ⟨front', rfl, ?_⟩
      rw [after?_succ, he', Option.bind_some]
      exact (Next.shift (c := ⟨e.frames, e.shifted, x :: front' ++ rest'⟩) rfl action).next?_eq
    | @reduce y others id p target input_eq action production le_length goto =>
      rw [hinput] at input_eq
      obtain ⟨rfl, -⟩ := List.cons.inj input_eq
      refine ⟨x :: front', hinput, ?_⟩
      rw [after?_succ, he', Option.bind_some]
      exact (Next.reduce (c := ⟨e.frames, e.shifted, x :: front' ++ rest'⟩) rfl action production le_length
        goto).next?_eq

/-- The moves lead to acceptance. -/
def Accepting (g : Grammar) (t : Table) (c : Configuration) : Prop :=
  ∃ n d, c.after? g t n = some d ∧ d.move g t = .accept

theorem next?_eq_none_of_accept (h : c.move g t = .accept) : c.next? g t = none := by
  rw [next?, h]
  rfl

theorem Accepting.cases (h : c.Accepting g t) :
    c.move g t = .accept ∨ ∃ d, c.next? g t = some d ∧ d.Accepting g t := by
  obtain ⟨n, e, he, hmove⟩ := h
  cases n with
  | zero =>
    cases he
    exact Or.inl hmove
  | succ n =>
    obtain ⟨d, hnext, he⟩ := Option.bind_eq_some_iff.mp he
    exact Or.inr ⟨d, hnext, n, e, he, hmove⟩

theorem Accepting.next (h : c.Accepting g t) (hnext : c.next? g t = some d) : d.Accepting g t := by
  rcases h.cases with hmove | ⟨d', hnext', hd⟩
  · rw [next?_eq_none_of_accept hmove] at hnext
    cases hnext
  · rw [hnext'] at hnext
    cases hnext
    exact hd

theorem Accepting.after (h : c.Accepting g t) (hd : c.after? g t n = some d) : d.Accepting g t := by
  induction n generalizing d with
  | zero =>
    cases hd
    exact h
  | succ n ih =>
    rw [after?_succ] at hd
    obtain ⟨e, he, hnext⟩ := Option.bind_eq_some_iff.mp hd
    exact (ih he).next hnext

theorem Accepting.move_ne_reject (h : c.Accepting g t) (reason : Rejection) : c.move g t ≠ .reject reason := by
  intro hmove
  rcases h.cases with haccept | ⟨d, hnext, -⟩
  · rw [hmove] at haccept
    cases haccept
  · rw [next?, hmove] at hnext
    cases hnext

/-- The ways in which the machine rejects. -/
inductive Rejects (g : Grammar) (t : Table) (c : Configuration) : Rejection → Prop
  | noAction {x : Symbol} {rest : List Symbol} (input_eq : c.input = x :: rest)
      (action : t.action? (topState c.frames) x = none) : Rejects g t c (.noAction (topState c.frames) x)
  | earlyEnd {x : Symbol} {rest : List Symbol} (input_eq : c.input = x :: rest)
      (action : t.action? (topState c.frames) x = some .accept) (ne_nil : rest ≠ []) :
      Rejects g t c (.earlyEnd c.shifted)
  | underflow {x : Symbol} {rest : List Symbol} {id : Int} {p : Production} (input_eq : c.input = x :: rest)
      (action : t.action? (topState c.frames) x = some (.reduce id)) (production : g.production? id = some p)
      (lt_length : c.frames.length < p.rhs.length) : Rejects g t c (.underflow p)
  | noGoto {x : Symbol} {rest : List Symbol} {id : Int} {p : Production} (input_eq : c.input = x :: rest)
      (action : t.action? (topState c.frames) x = some (.reduce id)) (production : g.production? id = some p)
      (goto : t.goto? (topState (c.frames.drop p.rhs.length)) p.lhs = none) :
      Rejects g t c (.noGoto (topState (c.frames.drop p.rhs.length)) p.lhs)

theorem rejects_of_move {reason : Rejection} (h : c.move g t = .reject reason) : Rejects g t c reason := by
  unfold move at h
  split at h
  · cases h
  · next x rest hinput =>
    split at h
    · next haction =>
      cases h
      exact .noAction hinput haction
    · cases h
    · next id haction =>
      unfold reduction at h
      split at h
      · cases h
      · next p hproduction =>
        split at h
        · next hlength =>
          cases h
          exact .underflow hinput haction hproduction hlength
        · dsimp only at h
          split at h
          · next hgoto =>
            cases h
            exact .noGoto hinput haction hproduction hgoto
          · cases h
    · next haction =>
      split at h
      · cases h
      · next hrest =>
        cases h
        exact .earlyEnd hinput haction fun hnil => hrest (List.isEmpty_iff.mpr hnil)

/-- The same stack and the same next symbol. -/
structure Agrees (c d : Configuration) : Prop where
  frames_eq : c.frames = d.frames
  head_eq : c.input.head? = d.input.head?

theorem Agrees.next (h : c.Agrees d) (hnext : c.next? g t = some c') (hinput : c'.input = c.input) :
    ∃ d', d.next? g t = some d' ∧ c'.Agrees d' := by
  obtain ⟨x, rest, id, p, target, hx, haction, hproduction, hlength, hgoto, rfl⟩ :=
    exists_reduce_of_input_eq hnext hinput
  obtain ⟨hframes, hhead⟩ := h
  rw [hframes] at haction hlength hgoto
  have hd : d.input.head? = some x := by
    rw [← hhead, hx]
    rfl
  obtain ⟨rest', hrest⟩ := List.head?_eq_some_iff.mp hd
  refine ⟨d.reduce p target, (Next.reduce hrest haction hproduction hlength hgoto).next?_eq, ?_, hhead⟩
  rw [reduce, reduce, hframes]

/-- Some input that begins with the next symbol is accepted from here. -/
def Viable (g : Grammar) (t : Table) (c : Configuration) : Prop :=
  ∃ d, c.Agrees d ∧ d.Accepting g t

theorem Viable.next (h : c.Viable g t) (hnext : c.next? g t = some c') (hinput : c'.input = c.input) :
    c'.Viable g t := by
  obtain ⟨d, hagrees, haccepting⟩ := h
  obtain ⟨d', hd', hagrees'⟩ := hagrees.next hnext hinput
  exact ⟨d', hagrees', haccepting.next hd'⟩

theorem Viable.move_ne_noAction (h : c.Viable g t) (q : Int) (x : Symbol) :
    c.move g t ≠ .reject (.noAction q x) := by
  intro hmove
  obtain ⟨d, ⟨hframes, hhead⟩, haccepting⟩ := h
  cases rejects_of_move hmove with
  | @noAction x rest input_eq action =>
    rw [input_eq] at hhead
    obtain ⟨rest', hinput⟩ := List.head?_eq_some_iff.mp hhead.symm
    apply haccepting.move_ne_reject (.noAction (topState d.frames) x)
    rw [hframes] at action
    simp only [move, hinput, action]

/-- After finitely many reductions on the next symbol a move follows that is none. -/
theorem Viable.settles (h : c.Viable g t) :
    ∃ n d, c.after? g t n = some d ∧ d.input = c.input ∧ ∀ e, d.next? g t = some e → e.input ≠ d.input := by
  obtain ⟨d, hagrees, n, e, he, hmove⟩ := h
  induction n generalizing c d with
  | zero =>
    cases he
    refine ⟨0, c, rfl, rfl, ?_⟩
    intro c' hnext hinput
    obtain ⟨d', hd', -⟩ := hagrees.next hnext hinput
    rw [next?_eq_none_of_accept hmove] at hd'
    cases hd'
  | succ n ih =>
    by_cases hreduces : ∃ c', c.next? g t = some c' ∧ c'.input = c.input
    · obtain ⟨c', hnext, hinput⟩ := hreduces
      obtain ⟨d', hd', hagrees'⟩ := hagrees.next hnext hinput
      rw [after?, hd', Option.bind_some] at he
      obtain ⟨m, f, hf, hinput', hlast⟩ := ih d' hagrees' he
      refine ⟨m + 1, f, ?_, hinput'.trans hinput, hlast⟩
      rw [after?, hnext, Option.bind_some, hf]
    · exact ⟨0, c, rfl, rfl, fun c' hnext hinput => hreduces ⟨c', hnext, hinput⟩⟩

end CanonicalLR.Configuration
