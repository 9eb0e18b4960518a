import CanonicalLR.Proofs.Guard
import CanonicalLR.Proofs.Stack
import CanonicalLR.Recognizer

/-! # The machine on the grammar's own tables

On a stack that is a path the machine has few moves. A shift or a reduction gives a path again, a
reduction finds its right side on the stack and a GOTO below it, and only a missing action or an end
marker before the end of the input rejects.
-/
namespace CanonicalLR

/-- The moves that the machine can make on a path of the canonical automaton. -/
inductive Configuration.Lawful (g : Grammar) (a : Automaton) (c : Configuration) : Move → Prop
  | shift {x : Symbol} {rest : List Symbol} {t : State} (input_eq : c.input = x :: rest) (written : x.IsWritten)
      (mem : x ∈ g.writtenTerminals) (path : a.Path (c.shift x t.id rest).frames t) :
      Lawful g a c (.shift x t.id (c.shift x t.id rest))
  | reduce {p : Production} {t : State} (mem : p ∈ g.productions) (id_ne_zero : p.id ≠ 0)
      (le_length : p.rhs.length ≤ c.frames.length)
      (spelt : (c.frames.take p.rhs.length).reverse.map Frame.symbol = p.rhs)
      (goto : (a.table g).goto? (topState (c.frames.drop p.rhs.length)) p.lhs = some t.id)
      (path : a.Path (c.reduce p t.id).frames t) : Lawful g a c (.reduce p t.id (c.reduce p t.id))
  | accept {f : Frame} (frames_eq : c.frames = [f]) (symbol_eq : f.symbol = g.start)
      (input_eq : c.input = [.endMarker]) : Lawful g a c .accept
  | noAction (x : Symbol) : Lawful g a c (.reject (.noAction (topState c.frames) x))
  | earlyEnd : Lawful g a c (.reject (.earlyEnd c.shifted))

namespace Automaton.Path

variable {g : Grammar} {a : Automaton} {c : Configuration} {s : State} {x : Symbol}

theorem shift (ha : g.IsCanonical a) (h : a.Path c.frames s) (rest : List Symbol) {n : Int}
    (htarget : a.target? s.id x = some n) :
    ∃ t, t.id = n ∧ a.Path (c.shift x t.id rest).frames t := by
  obtain ⟨-, t, ht, rfl, -⟩ := ha.goto_of_target h.mem htarget
  exact ⟨t, rfl, .cons h ht rfl htarget⟩

/-- What a reduction by a complete item of the top state finds on the stack. -/
theorem reduce (hg : g.WellFormed) (ha : g.IsCanonical a) (h : a.Path c.frames s) {i : Item} (hi : i ∈ s.items)
    (hcomplete : i.isComplete = true) (hid : i.production.id ≠ 0) :
    i.production.rhs.length ≤ c.frames.length ∧
      (c.frames.take i.production.rhs.length).reverse.map Frame.symbol = i.production.rhs ∧
        ∃ t, (a.table g).goto? (topState (c.frames.drop i.production.rhs.length)) i.production.lhs = some t.id ∧
          a.Path (c.reduce i.production t.id).frames t := by
  have hitem := (ha.regular s h.mem).hasItem i hi
  have hdot : i.dot = i.production.rhs.length := Nat.le_antisymm hitem.dot_le (of_decide_eq_true hcomplete)
  obtain ⟨hle, hspelt, -⟩ := h.walkBack ha hi
  obtain ⟨s', hpath, t, ht, htarget⟩ := h.exists_goto ha hi hid
  rw [hdot] at hle hspelt hpath
  rw [List.take_length] at hspelt
  refine ⟨hle, hspelt, t, ?_, .cons hpath ht rfl htarget⟩
  rw [goto?_table, hpath.topState_eq, if_pos (Grammar.lhs_isNonterminal hg hitem.production_mem), htarget]

/-- The complete item of production 0 stands on the start symbol alone. -/
theorem accept (hg : g.WellFormed) (ha : g.IsCanonical a) (h : a.Path c.frames s) {i : Item} (hi : i ∈ s.items)
    (hcomplete : i.isComplete = true) (hid : i.production.id = 0) :
    ∃ f, c.frames = [f] ∧ f.symbol = g.start := by
  have hitem := (ha.regular s h.mem).hasItem i hi
  have hproduction := Grammar.eq_augmentedProduction_of_id_eq_zero hitem.production_mem hid
  have hdot : i.dot = 1 := by
    have hle := hitem.dot_le
    have hge : i.production.rhs.length ≤ i.dot := of_decide_eq_true hcomplete
    rw [hproduction] at hle hge
    exact Nat.le_antisymm hle hge
  have hlength := (h.augmented_item hg ha hi hid).1
  rw [hdot] at hlength
  obtain ⟨f, hframes⟩ := List.length_eq_one_iff.mp hlength
  obtain ⟨-, hspelt, -⟩ := h.walkBack ha hi
  rw [hdot, hframes, hproduction] at hspelt
  exact ⟨f, hframes, (List.cons.inj hspelt).1⟩

theorem lawful_reduction (hg : g.WellFormed) (ha : g.IsCanonical a) (h : a.Path c.frames s) {i : Item}
    (hi : i ∈ s.items) (hcomplete : i.isComplete = true) (hid : i.production.id ≠ 0) :
    c.Lawful g a (c.reduction g (a.table g) i.production.id) := by
  have hmem := ((ha.regular s h.mem).hasItem i hi).production_mem
  obtain ⟨hle, hspelt, t, hgoto, hpath⟩ := h.reduce hg ha hi hcomplete hid
  unfold Configuration.reduction
  rw [Grammar.production?_eq_some_iff.mpr ⟨hmem, rfl⟩]
  simp only [if_neg (Nat.not_lt.mpr hle), hgoto]
  exact .reduce hmem hid hle hspelt hgoto hpath

theorem lawful_move (hg : g.WellFormed) (ha : g.IsCanonical a) (h : a.Path c.frames s) (hinput : c.input ≠ []) :
    c.Lawful g a (c.move g (a.table g)) := by
  obtain ⟨x, rest, hx⟩ := List.exists_cons_of_ne_nil hinput
  unfold Configuration.move
  rw [hx]
  cases haction : (a.table g).action? (topState c.frames) x with
  | none =>
    simp only [haction]
    exact .noAction x
  | some act =>
    simp only [haction]
    rw [h.topState_eq] at haction
    have hcandidate := candidate_of_action? haction
    cases hcandidate with
    | @shift n terminal target =>
      obtain ⟨t, rfl, hpath⟩ := h.shift ha rest target
      obtain ⟨p, hp, hmem⟩ := ha.mem_rhs_of_target? target
      exact .shift hx (Grammar.rhs_written hg hp x hmem) (Grammar.mem_writtenTerminals hg hp hmem terminal) hpath
    | @complete s' i state_mem id_eq item_mem complete lookahead_eq =>
      cases ha.eq_of_id_eq state_mem h.mem id_eq
      by_cases haccept : i.completion = .accept
      · rw [haccept]
        obtain ⟨hid, hlookahead⟩ := Item.completion_eq_accept_iff.mp haccept
        dsimp only
        split
        · next hrest =>
          obtain ⟨f, hframes, hsymbol⟩ := h.accept hg ha item_mem complete hid
          refine .accept hframes hsymbol ?_
          rw [hx, ← lookahead_eq, hlookahead, List.isEmpty_iff.mp hrest]
        · exact .earlyEnd
      · have hid : i.production.id ≠ 0 := by
          intro hid
          exact haccept (Item.completion_eq_accept_iff.mpr ⟨hid, (h.augmented_item hg ha item_mem hid).2⟩)
        rw [Item.completion_eq_reduce hid]
        exact h.lawful_reduction hg ha item_mem complete hid

end Automaton.Path

namespace Configuration

variable {g : Grammar} {a : Automaton} {tokens : List String} {c d : Configuration}

/-- The stack is a path, and the tokens not read yet stand before the end marker. -/
structure Grounded (a : Automaton) (tokens : List String) (c : Configuration) : Prop where
  path : ∃ s, a.Path c.frames s
  shifted_le : c.shifted ≤ tokens.length
  input_eq : c.input = (tokens.drop c.shifted).map .terminal ++ [.endMarker]

theorem grounded_initial (ha : g.IsCanonical a) (tokens : List String) : (initial tokens).Grounded a tokens where
  path := ⟨_, .nil ha.start_mem rfl⟩
  shifted_le := Nat.zero_le _
  input_eq := rfl

theorem Grounded.lawful_move (hg : g.WellFormed) (ha : g.IsCanonical a) (h : c.Grounded a tokens) :
    c.Lawful g a (c.move g (a.table g)) := by
  obtain ⟨s, hpath⟩ := h.path
  apply hpath.lawful_move hg ha
  rw [h.input_eq]
  simp

/-- A symbol other than the end marker is the next token. -/
theorem Grounded.next_token (h : c.Grounded a tokens) {x : Symbol} {rest : List Symbol}
    (hinput : c.input = x :: rest) (hx : x ≠ .endMarker) :
    ∃ token, tokens[c.shifted]? = some token ∧ x = .terminal token ∧
      rest = (tokens.drop (c.shifted + 1)).map .terminal ++ [.endMarker] := by
  rw [h.input_eq] at hinput
  cases hdrop : tokens.drop c.shifted with
  | nil =>
    rw [hdrop] at hinput
    exact absurd (List.cons.inj hinput).1.symm hx
  | cons token others =>
    rw [hdrop, List.map_cons, List.cons_append] at hinput
    obtain ⟨rfl, rfl⟩ := List.cons.inj hinput
    refine ⟨token, ?_, rfl, ?_⟩
    · rw [← List.head?_drop, hdrop]
      rfl
    · rw [← List.tail_drop, hdrop]
      rfl

theorem Grounded.next {move : Move} (h : c.Grounded a tokens) (hlawful : c.Lawful g a move)
    (hnext : move.next? = some d) : d.Grounded a tokens := by
  cases hlawful with
  | @shift x rest t input_eq written mem path =>
    cases hnext
    obtain ⟨token, htoken, -, hrest⟩ := h.next_token input_eq written.ne_endMarker
    exact ⟨⟨t, path⟩, (List.getElem?_eq_some_iff.mp htoken).1, hrest⟩
  | @reduce p t mem id_ne_zero le_length spelt goto path =>
    cases hnext
    exact ⟨⟨t, path⟩, h.shifted_le, h.input_eq⟩
  | accept => cases hnext
  | noAction => cases hnext
  | earlyEnd => cases hnext

end Configuration

/-- How a run on the grammar's own tables can stand, or can have ended. -/
inductive Run.Standing (g : Grammar) (limit : Option Int) (c : Configuration) : Option Ending → Prop
  | underway : Standing g limit c none
  | accepted {f : Frame} (frames_eq : c.frames = [f]) (symbol_eq : f.symbol = g.start)
      (input_eq : c.input = [.endMarker]) : Standing g limit c (some (.accepted (some f.tree)))
  | noAction (q : Int) (x : Symbol) (position : Nat) :
      Standing g limit c (some (.rejected (.noAction q x) position))
  | earlyEnd (place position : Nat) : Standing g limit c (some (.rejected (.earlyEnd place) position))
  | cycle (q : Int) (x : Symbol) (position : Nat) :
      Standing g limit c (some (.rejected (.cycle q x) position))
  | stepLimit {n : Int} (limit_eq : limit = some n) (position : Nat) :
      Standing g limit c (some (.rejected (.stepLimit n) position))

namespace Machine

variable {g : Grammar} {a : Automaton} {tokens : List String} {limit : Option Int} {r : Run}

theorem standing_pass (hg : g.WellFormed) (ha : g.IsCanonical a) (h : r.configuration.Grounded a tokens)
    (hunderway : r.ending = none) :
    (pass ⟨g, a.table g, limit⟩ r).configuration.Grounded a tokens ∧
      Run.Standing g limit (pass ⟨g, a.table g, limit⟩ r).configuration
        (pass ⟨g, a.table g, limit⟩ r).ending := by
  have hlawful := h.lawful_move hg ha
  have hpass := pass_pass ⟨g, a.table g, limit⟩ r
  generalize pass ⟨g, a.table g, limit⟩ r = r' at hpass
  cases hpass with
  | stepLimit limit_eq => exact ⟨h, .stepLimit limit_eq _⟩
  | shift move_eq =>
    rw [move_eq] at hlawful
    refine ⟨h.next hlawful rfl, ?_⟩
    rw [show (r.shift _ _ _).ending = none from hunderway]
    exact .underway
  | @reduce p target next move_eq new =>
    rw [move_eq] at hlawful
    refine ⟨h.next hlawful rfl, ?_⟩
    rw [show (r.reduce p target next).ending = none from hunderway]
    exact .underway
  | cycle move_eq old =>
    rw [move_eq] at hlawful
    exact ⟨h.next hlawful rfl, .cycle _ _ _⟩
  | accept move_eq =>
    rw [move_eq] at hlawful
    refine ⟨h, ?_⟩
    cases hlawful with
    | accept frames_eq symbol_eq input_eq =>
      rw [Run.accept, frames_eq]
      exact .accepted frames_eq symbol_eq input_eq
  | reject move_eq =>
    rw [move_eq] at hlawful
    refine ⟨h, ?_⟩
    cases hlawful with
    | noAction x => exact .noAction _ _ _
    | earlyEnd => exact .earlyEnd _ _
  | fail move_eq =>
    rw [move_eq] at hlawful
    cases hlawful

theorem standing_advance (hg : g.WellFormed) (limit : Option Int) (tokens : List String) (n : Nat) :
    ((Recognizer.ofGrammar g limit).machine.advance n (.start tokens)).configuration.Grounded g.automaton tokens ∧
      Run.Standing g limit ((Recognizer.ofGrammar g limit).machine.advance n (.start tokens)).configuration
        ((Recognizer.ofGrammar g limit).machine.advance n (.start tokens)).ending := by
  have ha := Grammar.isCanonical_automaton hg
  have hstart := Configuration.grounded_initial ha tokens
  apply advance_induction (fun r => r.configuration.Grounded g.automaton tokens ∧
    Run.Standing g limit r.configuration r.ending) ?_ ⟨hstart, .underway⟩ n
  intro r hunderway h
  exact standing_pass hg ha h.1 hunderway

end Machine

/-- The rejections that do not blame the tables. -/
inductive Rejection.Expected (limit : Option Int) : Rejection → Prop
  | noAction (q : Int) (x : Symbol) : Expected limit (.noAction q x)
  | earlyEnd (position : Nat) : Expected limit (.earlyEnd position)
  | cycle (q : Int) (x : Symbol) : Expected limit (.cycle q x)
  | stepLimit {n : Int} (limit_eq : limit = some n) : Expected limit (.stepLimit n)

/-- Nothing goes wrong in a run: it neither fails nor is rejected for a lack of frames or of a GOTO, a
reduction has its right side on the stack and a GOTO below it, and the end marker is never shifted. -/
structure Run.Safe (m : Machine) (r : Run) : Prop where
  not_failed : ∀ fault, r.ending ≠ some (.failed fault)
  expected : ∀ reason position, r.ending = some (.rejected reason position) → reason.Expected m.limit
  reduces : ∀ x rest id, r.configuration.input = x :: rest →
    m.table.action? (topState r.configuration.frames) x = some (.reduce id) →
      ∃ p, m.grammar.production? id = some p ∧ p.rhs.length ≤ r.configuration.frames.length ∧
        (r.configuration.frames.take p.rhs.length).reverse.map Frame.symbol = p.rhs ∧
          ∃ target, m.table.goto? (topState (r.configuration.frames.drop p.rhs.length)) p.lhs = some target
  shifts : ∀ x rest target, r.configuration.input = x :: rest →
    m.table.action? (topState r.configuration.frames) x = some (.shift target) → x ≠ .endMarker

namespace Recognizer

variable {g : Grammar}

theorem reduces_of_lawful {a : Automaton} {c : Configuration} {id : Int}
    (h : c.Lawful g a (c.reduction g (a.table g) id)) :
    ∃ p, g.production? id = some p ∧ p.rhs.length ≤ c.frames.length ∧
      (c.frames.take p.rhs.length).reverse.map Frame.symbol = p.rhs ∧
        ∃ target, (a.table g).goto? (topState (c.frames.drop p.rhs.length)) p.lhs = some target := by
  unfold Configuration.reduction at h
  split at h
  · cases h
  · next p hp =>
    split at h
    · cases h
    · next hlength =>
      dsimp only at h
      split at h
      · cases h
      · next target hgoto =>
        refine ⟨p, hp, Nat.not_lt.mp hlength, ?_, target, hgoto⟩
        generalize c.reduce p target = d at h
        cases h with
        | reduce mem id_ne_zero le_length spelt goto path => exact spelt

/-- On the tables of a grammar that can be read no run goes wrong, whatever the tokens and the limit. -/
theorem safe_run {text : String} (hread : Grammar.read text = .ok g) (limit : Option Int)
    (tokens : List String) (n : Nat) :
    ((ofGrammar g limit).machine.advance n (.start tokens)).Safe (ofGrammar g limit).machine := by
  have hg := Grammar.wellFormed_of_read hread
  have ha := Grammar.isCanonical_automaton hg
  obtain ⟨hgrounded, hstanding⟩ := Machine.standing_advance hg limit tokens n
  generalize (ofGrammar g limit).machine.advance n (.start tokens) = r at hgrounded hstanding
  have hlawful := hgrounded.lawful_move hg ha
  exact {
    not_failed := by
      intro fault hending
      rw [hending] at hstanding
      cases hstanding
    expected := by
      intro reason position hending
      rw [hending] at hstanding
      cases hstanding with
      | noAction q x => exact .noAction q x
      | earlyEnd place => exact .earlyEnd place
      | cycle q x => exact .cycle q x
      | stepLimit limit_eq => exact .stepLimit limit_eq
    reduces := by
      intro x rest id hinput haction
      apply reduces_of_lawful
      have hmove : r.configuration.move g (g.automaton.table g) =
          r.configuration.reduction g (g.automaton.table g) id := by
        unfold Configuration.move
        rw [hinput]
        simp only [show (g.automaton.table g).action? (topState r.configuration.frames) x = _ from haction]
      rwa [hmove] at hlawful
    shifts := by
      intro x rest target _ haction
      exact (ha.isWritten_of_target? hg (Automaton.target?_of_action?_eq_shift haction)).ne_endMarker }

theorem safe_run_nested :
    Grammar.read "S -> a S b\nS ->" = .ok .nested ∧
      ((ofGrammar .nested (some 3)).machine.advance 4 (.start ["a", "$", "S"])).Safe
        (ofGrammar .nested (some 3)).machine :=
  ⟨Grammar.read_nested, safe_run Grammar.read_nested (some 3) ["a", "$", "S"] 4⟩

end Recognizer

end CanonicalLR
