import CanonicalLR.Proofs.Completeness
import CanonicalLR.Proofs.Soundness
import CanonicalLR.Proofs.ValidItems
import CanonicalLR.Proofs.Viable

/-! # Errors are found at the first wrong token

Let every nonterminal derive words, and let the tables have no conflicts. The stack and any item of the top
state stand for a sentence that begins with the tokens read; with a complete item what follows them begins
with its lookahead. So a reduction is only made before a symbol with which some sentence goes on: what it
leads to is viable. Hence the moves end, and no missing action follows a reduction. And what has a sentence
before it is read as in the run on this sentence, where no move rejects.
-/
namespace CanonicalLR

open CanonicalLR.Configuration

namespace Grammar

variable {g : Grammar} {a : Automaton} {tokens more : List String} {c d : Configuration} {s : State} {i : Item}
  {n : Nat} {rest : List Symbol}

theorem grounded_and_built (hg : g.WellFormed) (ha : g.IsCanonical a)
    (h : (initial tokens).after? g (a.table g) n = some c) : c.Grounded a tokens ∧ c.Built g tokens := by
  induction n generalizing c with
  | zero =>
    cases h
    exact ⟨grounded_initial ha tokens, built_initial g tokens⟩
  | succ n ih =>
    rw [after?_succ] at h
    obtain ⟨d, hd, hnext⟩ := Option.bind_eq_some_iff.mp h
    obtain ⟨hgrounded, hbuilt⟩ := ih hd
    have hlawful := hgrounded.lawful_move hg ha
    exact ⟨hgrounded.next hlawful hnext, hbuilt.next hg hgrounded hlawful hnext⟩

theorem derives_of_built (hg : g.WellFormed) (h : c.Built g tokens) :
    g.Derives (c.frames.reverse.map Frame.symbol) ((tokens.take c.shifted).map .terminal) := by
  rw [← h.map_symbol fun f hf => List.mem_reverse.mp hf, ← h.yield_eq]
  apply derives_yieldAll
  intro t ht
  obtain ⟨f, hf, rfl⟩ := List.mem_map.mp ht
  exact derives_yield hg (h.derived f (List.mem_reverse.mp hf)).1

/-- With trees for what stands behind the dot of an item, what has been read is the beginning of a sentence. -/
theorem exists_sentence (hg : g.WellFormed) (ha : g.IsCanonical a) (hproductive : g.Productive)
    (hbuilt : c.Built g tokens) (hpath : a.Path c.frames s) (hi : i ∈ s.items) :
    ∃ (ts : List Tree) (right : List String), ts.map Tree.symbol = i.production.rhs.drop i.dot ∧
      i.lookahead = ahead right ∧ g.Generates (tokens.take c.shifted ++ Tree.yieldAll ts ++ right) := by
  have hvalid := ha.valid_of_mem hg hproductive hpath.mem hpath.follow?_eq i hi
  obtain ⟨left, right, hderives, hγ, hlookahead⟩ := hvalid.derived
  have hform := derives_of_rewritesRightmost hg (derives_of_derivesRightmost hg hderives)
    (.intro hvalid.production_mem left right)
  obtain ⟨ts, hts, hsymbols⟩ := exists_trees
    fun X hX => hproductive.hasTree_of_mem_rhs hg hvalid.production_mem X (List.mem_of_mem_drop hX)
  refine ⟨ts, right, hsymbols, hlookahead, hform.trans ?_⟩
  have hbehind : g.Derives (ts.map Tree.symbol) ((Tree.yieldAll ts).map .terminal) :=
    derives_yieldAll fun t ht => derives_yield hg (hts t ht)
  rw [List.map_append, List.map_append, ← List.take_append_drop i.dot i.production.rhs, ← List.append_assoc, ← hγ,
    ← hsymbols]
  exact ((derives_of_built hg hbuilt).append hbehind).append Relation.ReflTransGen.refl

theorem accepting_of_generates (hg : g.WellFormed) (ha : g.IsCanonical a) (hconflicts : (a.table g).conflicts = [])
    (h : g.Generates tokens) : (initial tokens).Accepting g (a.table g) := by
  obtain ⟨t, ht, hroot, rfl⟩ := (generates_iff_exists_tree hg).mp h
  obtain ⟨n, d, hd, hmove, -⟩ := accept_of_isDerivation hg ha hconflicts ht hroot
  exact ⟨n, d, hd, hmove⟩

/-- When the tokens read and the next one are the beginning of a sentence, the machine comes to the same stack on
this sentence. -/
theorem viable_of_generates (hg : g.WellFormed) (ha : g.IsCanonical a) (hconflicts : (a.table g).conflicts = [])
    (h : (initial tokens).after? g (a.table g) n = some c) (hinput : c.input = ahead more :: rest)
    (hsentence : g.Generates (tokens.take c.shifted ++ more)) : c.Viable g (a.table g) := by
  obtain ⟨rest', hmore⟩ := exists_cons_ahead more []
  rw [List.append_nil] at hmore
  have htokens : initial tokens = ⟨[], 0, (tokens.take c.shifted).map .terminal ++ [ahead more] ++ rest⟩ := by
    have hdrop := (grounded_and_built hg ha h).1.input_eq
    rw [initial, List.append_assoc, List.singleton_append, ← hinput, hdrop, ← List.append_assoc, ← List.map_append,
      List.take_append_drop]
  have hsentence' : initial (tokens.take c.shifted ++ more) =
      ⟨[], 0, (tokens.take c.shifted).map .terminal ++ [ahead more] ++ rest'⟩ := by
    rw [initial, List.append_assoc, List.singleton_append, ← hmore, List.map_append, List.append_assoc]
    rfl
  have haccepting := accepting_of_generates hg ha hconflicts hsentence
  rw [htokens] at h
  rw [hsentence'] at haccepting
  obtain ⟨front, hfront, hd⟩ := after?_of_append h (by simp [hinput]) rest'
  rw [hinput] at hfront
  obtain rfl : front = [ahead more] := (List.append_cancel_right (show [ahead more] ++ rest = _ from hfront)).symm
  refine ⟨⟨c.frames, c.shifted, [ahead more] ++ rest'⟩, ⟨rfl, ?_⟩, haccepting.after hd⟩
  rw [hinput]
  rfl

/-- A reduction is made only before a symbol with which some sentence goes on. -/
theorem viable_of_reduction (hg : g.WellFormed) (ha : g.IsCanonical a) (hconflicts : (a.table g).conflicts = [])
    (hproductive : g.Productive) (h : (initial tokens).after? g (a.table g) n = some c)
    (hnext : c.next? g (a.table g) = some d) (hinput : d.input = c.input) : d.Viable g (a.table g) := by
  obtain ⟨hgrounded, hbuilt⟩ := grounded_and_built hg ha h
  obtain ⟨s, hpath⟩ := hgrounded.path
  obtain ⟨x, rest, id, p, target, hx, haction, -⟩ := exists_reduce_of_input_eq hnext hinput
  obtain ⟨s', hs', hid, i, hi, hcomplete, hx', -⟩ := Automaton.exists_complete_of_action? haction (by simp)
  cases ha.eq_of_id_eq hs' hpath.mem (hid.trans hpath.topState_eq)
  obtain ⟨ts, right, hsymbols, hlookahead, hsentence⟩ := exists_sentence hg ha hproductive hbuilt hpath hi
  have hts : ts = [] := by
    rw [List.drop_eq_nil_of_le (of_decide_eq_true hcomplete)] at hsymbols
    exact List.map_eq_nil_iff.mp hsymbols
  rw [hts, Tree.yieldAll_nil, List.append_nil] at hsentence
  rw [← hx', hlookahead] at hx
  exact (viable_of_generates hg ha hconflicts h hx hsentence).next hnext hinput

/-- Every run of moves comes to an end: reductions lead on to a shift. -/
theorem exists_last (hg : g.WellFormed) (ha : g.IsCanonical a) (hconflicts : (a.table g).conflicts = [])
    (hproductive : g.Productive) (h : (initial tokens).after? g (a.table g) n = some c) :
    ∃ m d, (initial tokens).after? g (a.table g) m = some d ∧ d.next? g (a.table g) = none := by
  -- Induction on the length of the input, which every move shortens that is no reduction.
  induction hlength : c.input.length using Nat.strongRecOn generalizing n c with
  | ind length ih =>
    subst hlength
    have hstep : ∀ {k d e}, (initial tokens).after? g (a.table g) k = some d → d.input = c.input →
        d.next? g (a.table g) = some e → e.input ≠ d.input →
          ∃ m f, (initial tokens).after? g (a.table g) m = some f ∧ f.next? g (a.table g) = none := by
      intro k d e hd hinput hnext hne
      have hsuffix := input_suffix_of_next? hnext
      have hlt : e.input.length < d.input.length :=
        Nat.lt_of_le_of_ne hsuffix.length_le fun heq => hne (hsuffix.eq_of_length heq)
      rw [hinput] at hlt
      exact ih _ hlt (by rw [after?_succ, hd, Option.bind_some, hnext]) rfl
    cases hnext : c.next? g (a.table g) with
    | none => exact ⟨n, c, h, hnext⟩
    | some d =>
      by_cases hinput : d.input = c.input
      · obtain ⟨k, e, he, hinput', hlast⟩ :=
          (viable_of_reduction hg ha hconflicts hproductive h hnext hinput).settles
        have he' : (initial tokens).after? g (a.table g) (n + 1 + k) = some e := by
          rw [after?_add, after?_succ, h, Option.bind_some, hnext, Option.bind_some, he]
        cases hnext' : e.next? g (a.table g) with
        | none => exact ⟨_, e, he', hnext'⟩
        | some f => exact hstep he' (hinput'.trans hinput) hnext' (hlast f hnext')
      · exact hstep h rfl hnext hinput

theorem input_of_earlyEnd {position : Nat} (h : c.move g (a.table g) = .reject (.earlyEnd position)) :
    ∃ rest, c.input = .endMarker :: rest := by
  cases rejects_of_move h with
  | @earlyEnd x rest input_eq action ne_nil =>
    obtain ⟨-, -, -, i, -, -, hlookahead, haccept⟩ := Automaton.exists_complete_of_action? action (by simp)
    rw [← hlookahead, (Item.completion_eq_accept_iff.mp haccept).2] at input_eq
    exact ⟨rest, input_eq⟩

/-- Where the moves end in a rejection, no sentence goes on with the next token. -/
theorem not_generates_of_reject (hg : g.WellFormed) (ha : g.IsCanonical a) (hconflicts : (a.table g).conflicts = [])
    (h : (initial tokens).after? g (a.table g) n = some c) {reason : Rejection}
    (hmove : c.move g (a.table g) = .reject reason) (hlt : c.shifted < tokens.length) (more : List String) :
    ¬ g.Generates (tokens.take (c.shifted + 1) ++ more) := by
  intro hsentence
  have hgrounded := (grounded_and_built hg ha h).1
  have hinput := hgrounded.input_eq
  rw [List.drop_eq_getElem_cons hlt, List.map_cons, List.cons_append] at hinput
  rw [List.take_add_one, List.getElem?_eq_getElem hlt, Option.toList_some, List.append_assoc,
    List.singleton_append] at hsentence
  have hahead : c.input = ahead (tokens[c.shifted] :: more) :: _ := hinput
  have hviable := viable_of_generates hg ha hconflicts h hahead hsentence
  have hlawful := hgrounded.lawful_move hg ha
  rw [hmove] at hlawful
  cases hlawful with
  | noAction x => exact hviable.move_ne_noAction _ x hmove
  | earlyEnd =>
    obtain ⟨rest, hend⟩ := input_of_earlyEnd hmove
    rw [hinput] at hend
    have hwritten := Derives.isWritten_of_start hg hsentence (.terminal tokens[c.shifted]) (by simp)
    exact hwritten.ne_endMarker (List.cons.inj hend).1

end Grammar

/-- The rejection of a run is at the first token with which no sentence goes on, and a missing action is met
before anything is reduced on this token. -/
structure Run.FirstError (g : Grammar) (tokens : List String) (r : Run) (reason : Rejection) (position : Nat) :
    Prop where
  not_cycle : ∀ q x, reason ≠ .cycle q x
  position_le : position ≤ tokens.length
  begins : ∃ more, g.Generates (tokens.take position ++ more)
  ends : position < tokens.length → ∀ more, ¬ g.Generates (tokens.take (position + 1) ++ more)
  not_sentence : ¬ g.Generates tokens
  after_shift : ∀ q x, reason = .noAction q x → ∃ before last, r.steps = before ++ [last] ∧
    last.event = .reject reason ∧ ∀ s ∈ before.getLast?, ∃ y target, s.event = .shift y target

namespace Recognizer

variable {g : Grammar}

/-- The run follows the moves to their end and gives the verdict of the last one. -/
theorem exists_verdict (hg : g.WellFormed) (hconflicts : (g.automaton.table g).conflicts = [])
    (hproductive : g.Productive) (tokens : List String) :
    ∃ n r, (ofGrammar g none).machine.advance n (.start tokens) = r ∧ r.ending = none ∧
      (initial tokens).after? g (g.automaton.table g) n = some r.configuration ∧
        ((ofGrammar g none).machine.advance (n + 1) (.start tokens) = r.accept ∨
          ∃ reason, r.configuration.move g (g.automaton.table g) = .reject reason ∧
            (ofGrammar g none).machine.advance (n + 1) (.start tokens) = r.reject reason) := by
  have ha := Grammar.isCanonical_automaton hg
  obtain ⟨n, c, hc, hlast⟩ :=
    Grammar.exists_last (n := 0) (c := initial tokens) hg ha hconflicts hproductive rfl
  obtain ⟨hunderway, hconfiguration⟩ :=
    Machine.underway_of_next?_eq_none (m := (ofGrammar g none).machine) rfl hc hlast
  subst hconfiguration
  refine ⟨n, _, rfl, hunderway, hc, ?_⟩
  have hlawful := (Grammar.grounded_and_built hg ha hc).1.lawful_move hg ha
  rw [Machine.advance_succ_of_underway hunderway]
  rcases Machine.pass_of_next?_eq_none (m := (ofGrammar g none).machine) rfl hlast with
    ⟨-, hpass⟩ | ⟨reason, hmove, hpass⟩ | ⟨fault, hmove⟩
  · exact Or.inl hpass
  · exact Or.inr ⟨reason, hmove, hpass⟩
  · rw [show Configuration.move g (g.automaton.table g) _ = _ from hmove] at hlawful
    cases hlawful

/-- A missing action is met at the start of the run or after a shift. -/
theorem event_of_noAction (hg : g.WellFormed) (hconflicts : (g.automaton.table g).conflicts = [])
    (hproductive : g.Productive) {tokens : List String} {n : Nat} {q : Int} {x : Symbol}
    (hunderway : ((ofGrammar g none).machine.advance n (.start tokens)).ending = none)
    (hmove : ((ofGrammar g none).machine.advance n (.start tokens)).configuration.move g (g.automaton.table g) =
      .reject (.noAction q x)) :
    ∀ s ∈ ((ofGrammar g none).machine.advance n (.start tokens)).steps.getLast?,
      ∃ y target, s.event = .shift y target := by
  cases n with
  | zero =>
    intro s hs
    cases hs
  | succ n =>
    have hbefore := Machine.underway_of_succ hunderway
    rw [Machine.advance_succ_of_underway hbefore] at hunderway hmove ⊢
    apply Machine.event_of_getLast? hunderway
    intro hinput
    have hviable := Grammar.viable_of_reduction hg (Grammar.isCanonical_automaton hg) hconflicts hproductive
      (Machine.tracks_advance hbefore).after_eq (Machine.pass_cases hunderway).1 hinput
    exact hviable.move_ne_noAction q x hmove

theorem firstError_of_reject (hg : g.WellFormed) (hconflicts : (g.automaton.table g).conflicts = [])
    (hproductive : g.Productive) {tokens : List String} {n : Nat} {r : Run} {reason : Rejection}
    (hr : (ofGrammar g none).machine.advance n (.start tokens) = r) (hunderway : r.ending = none)
    (hc : (initial tokens).after? g (g.automaton.table g) n = some r.configuration)
    (hmove : r.configuration.move g (g.automaton.table g) = .reject reason) :
    (r.reject reason).FirstError g tokens reason r.configuration.shifted := by
  have ha := Grammar.isCanonical_automaton hg
  obtain ⟨hgrounded, hbuilt⟩ := Grammar.grounded_and_built hg ha hc
  have hlawful := hgrounded.lawful_move hg ha
  rw [hmove] at hlawful
  exact {
    not_cycle := by
      rintro q x rfl
      cases hlawful
    position_le := hgrounded.shifted_le
    begins := by
      obtain ⟨s, hpath⟩ := hgrounded.path
      obtain ⟨i, hi⟩ := List.exists_mem_of_ne_nil _ (ha.regular s hpath.mem).ne_nil
      obtain ⟨ts, right, -, -, hsentence⟩ := Grammar.exists_sentence hg ha hproductive hbuilt hpath hi
      rw [List.append_assoc] at hsentence
      exact ⟨_, hsentence⟩
    ends := Grammar.not_generates_of_reject hg ha hconflicts hc hmove
    not_sentence := by
      intro hsentence
      exact ((Grammar.accepting_of_generates hg ha hconflicts hsentence).after hc).move_ne_reject reason hmove
    after_shift := by
      rintro q x rfl
      subst hr
      exact ⟨_, _, rfl, rfl, event_of_noAction hg hconflicts hproductive hunderway hmove⟩ }

/-- Without conflicts, and if every nonterminal derives words, every run without a limit comes to a verdict, and
it rejects at the first token with which no sentence goes on. -/
theorem rejects_at_first_error {text : String} (hread : Grammar.read text = .ok g)
    (hconflicts : (g.automaton.table g).conflicts = []) (hproductive : g.Productive) (tokens : List String) :
    (∃ n, (∃ tree, ((ofGrammar g none).machine.advance n (.start tokens)).ending = some (.accepted tree)) ∨
      ∃ reason position,
        ((ofGrammar g none).machine.advance n (.start tokens)).ending = some (.rejected reason position)) ∧
    ∀ n reason position,
      ((ofGrammar g none).machine.advance n (.start tokens)).ending = some (.rejected reason position) →
        ((ofGrammar g none).machine.advance n (.start tokens)).FirstError g tokens reason position := by
  have hg := Grammar.wellFormed_of_read hread
  obtain ⟨m, r, hr, hunderway, hc, hverdict⟩ := exists_verdict hg hconflicts hproductive tokens
  constructor
  · rcases hverdict with haccept | ⟨reason, -, hreject⟩
    · exact ⟨m + 1, Or.inl ⟨_, by rw [haccept]; rfl⟩⟩
    · exact ⟨m + 1, Or.inr ⟨reason, r.configuration.shifted, by rw [hreject]; rfl⟩⟩
  · intro n reason position hending
    rcases hverdict with haccept | ⟨reason', hmove, hreject⟩
    · have haccepted : ((ofGrammar g none).machine.advance (m + 1) (.start tokens)).ending =
          some (.accepted (r.configuration.frames.head?.map Frame.tree)) := by
        rw [haccept]
        rfl
      cases Machine.ending_unique hending haccepted
    · have hrun : (ofGrammar g none).machine.advance n (.start tokens) = r.reject reason' := by
        rw [← hreject]
        apply Machine.advance_unique
        · rw [hending]
          rfl
        · rw [hreject]
          rfl
      rw [hrun] at hending ⊢
      cases hending
      exact firstError_of_reject hg hconflicts hproductive hr hunderway hc hmove

theorem rejects_at_first_error_nested :
    Grammar.read "S -> a S b\nS ->" = .ok .nested ∧ (Grammar.nested.automaton.table .nested).conflicts = [] ∧
      Grammar.nested.Productive ∧
        ∃ q, ((ofGrammar .nested none).machine.advance 5 (.start ["a", "b", "b"])).FirstError .nested ["a", "b", "b"]
          (.noAction q (.terminal "b")) 2 :=
  ⟨Grammar.read_nested, rfl, Grammar.productive_nested, _,
    (rejects_at_first_error Grammar.read_nested rfl Grammar.productive_nested ["a", "b", "b"]).2 5 _ 2 rfl⟩

end Recognizer

end CanonicalLR
