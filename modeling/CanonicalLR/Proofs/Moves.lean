import CanonicalLR.Machine.Run
import Mathlib.Data.Option.Basic

/-! # The moves of the machine, without its guards

The moves alone make one configuration after another until none follows. What they do depends on the marks
and the input only, so once these repeat there is always a next configuration.
-/
namespace CanonicalLR

/-- The configuration with which a run goes on. -/
def Move.next? : Move → Option Configuration
  | .shift _ _ next => some next
  | .reduce _ _ next => some next
  | _ => none

namespace Configuration

variable {g : Grammar} {t : Table} {c d e : Configuration} {m n : Nat}

def next? (g : Grammar) (t : Table) (c : Configuration) : Option Configuration := (c.move g t).next?

theorem move_of_next? (h : c.next? g t = some d) :
    (∃ x target, c.move g t = .shift x target d) ∨ ∃ p target, c.move g t = .reduce p target d := by
  rw [next?] at h
  cases hmove : c.move g t with
  | shift x target next =>
    rw [hmove] at h
    cases h
    exact Or.inl ⟨x, target, rfl⟩
  | reduce p target next =>
    rw [hmove] at h
    cases h
    exact Or.inr ⟨p, target, rfl⟩
  | accept =>
    rw [hmove] at h
    cases h
  | reject reason =>
    rw [hmove] at h
    cases h
  | fail fault =>
    rw [hmove] at h
    cases h

/-- The configuration after some moves. -/
def after? (g : Grammar) (t : Table) : Nat → Configuration → Option Configuration
  | 0, c => some c
  | n + 1, c => (c.next? g t).bind (after? g t n)

/-- All of a configuration that its moves depend on. -/
def view (c : Configuration) : List Mark × List Symbol := (c.marks, c.input)

theorem after?_add (m n : Nat) (c : Configuration) :
    c.after? g t (m + n) = (c.after? g t m).bind (after? g t n) := by
  induction m generalizing c with
  | zero => rw [Nat.zero_add]; rfl
  | succ m ih =>
    rw [Nat.succ_add, after?, after?, Option.bind_assoc]
    exact congrArg _ (funext ih)

theorem after?_succ (n : Nat) (c : Configuration) :
    c.after? g t (n + 1) = (c.after? g t n).bind (next? g t) := by
  rw [after?_add]
  congr 1
  funext d
  simp [after?]

theorem exists_after?_of_le (h : m ≤ n) (hn : c.after? g t n = some d) : ∃ e, c.after? g t m = some e := by
  rw [show n = m + (n - m) by omega, after?_add] at hn
  obtain ⟨e, he, -⟩ := Option.bind_eq_some_iff.mp hn
  exact ⟨e, he⟩

theorem topState_eq_of_marks_eq {frames frames' : List Frame}
    (h : frames.map Frame.mark = frames'.map Frame.mark) : topState frames = topState frames' := by
  cases frames with
  | nil => rw [List.map_eq_nil_iff.mp h.symm]
  | cons f frames =>
    obtain ⟨f', frames', rfl, hmark, -⟩ := List.map_eq_cons_iff.mp h.symm
    exact (congrArg Prod.snd hmark).symm

/-- The ways in which a run goes on: the top of the stack and the input decide. -/
inductive Next (g : Grammar) (t : Table) (c : Configuration) : Configuration → Prop
  | shift {x : Symbol} {rest : List Symbol} {target : Int} (input_eq : c.input = x :: rest)
      (action : t.action? (topState c.frames) x = some (.shift target)) : Next g t c (c.shift x target rest)
  | reduce {x : Symbol} {rest : List Symbol} {id : Int} {p : Production} {target : Int}
      (input_eq : c.input = x :: rest) (action : t.action? (topState c.frames) x = some (.reduce id))
      (production : g.production? id = some p) (le_length : p.rhs.length ≤ c.frames.length)
      (goto : t.goto? (topState (c.frames.drop p.rhs.length)) p.lhs = some target) :
      Next g t c (c.reduce p target)

theorem next_of_next? (h : c.next? g t = some d) : Next g t c d := by
  unfold next? move at h
  split at h
  · cases h
  · next x rest hinput =>
    split at h
    · cases h
    · next target haction =>
      cases h
      exact .shift hinput haction
    · next id haction =>
      unfold reduction at h
      split at h
      · cases h
      · next p hproduction =>
        split at h
        · cases h
        · next hlength =>
          dsimp only at h
          split at h
          · cases h
          · next target hgoto =>
            cases h
            exact .reduce hinput haction hproduction (Nat.not_lt.mp hlength) hgoto
    · split at h <;> cases h

theorem Next.next?_eq (h : Next g t c d) : c.next? g t = some d := by
  cases h with
  | shift input_eq action => simp only [next?, move, input_eq, action, Move.next?]
  | reduce input_eq action production le_length goto =>
    simp only [next?, move, input_eq, action, reduction, production, if_neg (Nat.not_lt.mpr le_length), goto,
      Move.next?]

/-- The input only gets shorter. -/
theorem input_suffix_of_next? (h : c.next? g t = some d) : d.input <:+ c.input := by
  cases next_of_next? h with
  | shift input_eq =>
    rw [input_eq]
    exact List.suffix_cons _ _
  | reduce => exact List.suffix_rfl

theorem input_suffix (hle : m ≤ n) (hd : c.after? g t m = some d) (he : c.after? g t n = some e) :
    e.input <:+ d.input := by
  induction hle generalizing e with
  | refl =>
    rw [hd] at he
    cases he
    exact List.suffix_rfl
  | step hle ih =>
    rw [after?_succ] at he
    obtain ⟨e', he', hnext⟩ := Option.bind_eq_some_iff.mp he
    exact (input_suffix_of_next? hnext).trans (ih he')

/-- A move that keeps the input is a reduction. -/
theorem exists_reduce_of_input_eq (h : c.next? g t = some d) (hinput : d.input = c.input) :
    ∃ x rest id p target, c.input = x :: rest ∧ t.action? (topState c.frames) x = some (.reduce id) ∧
      g.production? id = some p ∧ p.rhs.length ≤ c.frames.length ∧
        t.goto? (topState (c.frames.drop p.rhs.length)) p.lhs = some target ∧ d = c.reduce p target := by
  cases next_of_next? h with
  | @shift x rest target input_eq action =>
    have hlength := congrArg List.length hinput
    rw [input_eq] at hlength
    exact absurd hlength (Nat.ne_of_lt (Nat.lt_succ_self _))
  | @reduce x rest id p target input_eq action production le_length goto =>
    exact ⟨x, rest, id, p, target, input_eq, action, production, le_length, goto, rfl⟩

theorem move_eq_accept {x : Symbol} (hinput : c.input = [x])
    (haction : t.action? (topState c.frames) x = some .accept) : c.move g t = .accept := by
  simp [move, hinput, haction]

theorem marks_shift (c : Configuration) (x : Symbol) (target : Int) (rest : List Symbol) :
    (c.shift x target rest).marks = (x, target) :: c.marks := rfl

theorem marks_reduce (c : Configuration) (p : Production) (target : Int) :
    (c.reduce p target).marks = (p.lhs, target) :: c.marks.drop p.rhs.length := by
  simp [marks, reduce, Frame.mark, List.map_drop]

theorem length_marks (c : Configuration) : c.marks.length = c.frames.length :=
  List.length_map _

theorem topState_drop_eq_of_marks_eq (h : c.marks = d.marks) (k : Nat) :
    topState (c.frames.drop k) = topState (d.frames.drop k) := by
  apply topState_eq_of_marks_eq
  rw [List.map_drop, List.map_drop]
  exact congrArg (List.drop k) h

/-- Configurations with one view go on to configurations with one view. -/
theorem exists_next?_of_view_eq {c' : Configuration} (h : c.view = d.view) (hc : c.next? g t = some c') :
    ∃ d', d.next? g t = some d' ∧ c'.view = d'.view := by
  obtain ⟨hmarks, hinput⟩ := Prod.mk.inj h
  have htop : topState c.frames = topState d.frames := topState_eq_of_marks_eq hmarks
  cases next_of_next? hc with
  | @shift x rest target input_eq action =>
    refine ⟨d.shift x target rest, (Next.shift (hinput ▸ input_eq) (htop ▸ action)).next?_eq, ?_⟩
    exact Prod.ext (by rw [view, view, marks_shift, marks_shift, hmarks]) rfl
  | @reduce x rest id p target input_eq action production le_length goto =>
    rw [← length_marks, hmarks, length_marks] at le_length
    rw [topState_drop_eq_of_marks_eq hmarks] at goto
    refine ⟨d.reduce p target, (Next.reduce (hinput ▸ input_eq) (htop ▸ action) production le_length
      goto).next?_eq, ?_⟩
    exact Prod.ext (by rw [view, view, marks_reduce, marks_reduce, hmarks]) hinput

theorem exists_after?_of_view_eq {c' : Configuration} (h : c.view = d.view) (hc : c.after? g t n = some c') :
    ∃ d', d.after? g t n = some d' ∧ c'.view = d'.view := by
  induction n generalizing c' with
  | zero =>
    cases hc
    exact ⟨d, rfl, h⟩
  | succ n ih =>
    rw [after?_succ] at hc
    obtain ⟨e, he, hc⟩ := Option.bind_eq_some_iff.mp hc
    obtain ⟨e', he', hview⟩ := ih he
    obtain ⟨d', hd', hview⟩ := exists_next?_of_view_eq hview hc
    exact ⟨d', by rw [after?_succ, he', Option.bind_some, hd'], hview⟩

/-- The view comes back after more moves. -/
structure Repeats (g : Grammar) (t : Table) (c : Configuration) (m n : Nat) : Prop where
  lt : m < n
  view_eq : ∃ d e, c.after? g t m = some d ∧ c.after? g t n = some e ∧ d.view = e.view

/-- Once the view has come back, the moves never come to an end. -/
theorem Repeats.exists_after? (h : Repeats g t c m n) (k : Nat) : ∃ d, c.after? g t k = some d := by
  obtain ⟨hlt, d, e, hd, he, hview⟩ := h
  induction k using Nat.strongRecOn with
  | ind k ih =>
    by_cases hk : k ≤ n
    · exact exists_after?_of_le hk he
    · -- As many moves after the first of the two views lead as far as `k` moves do.
      obtain ⟨d', hd'⟩ := ih (m + (k - n)) (by omega)
      rw [after?_add, hd, Option.bind_some] at hd'
      obtain ⟨e', he', -⟩ := exists_after?_of_view_eq hview hd'
      refine ⟨e', ?_⟩
      rw [show k = n + (k - n) by omega, after?_add, he, Option.bind_some, he']

end Configuration

end CanonicalLR
