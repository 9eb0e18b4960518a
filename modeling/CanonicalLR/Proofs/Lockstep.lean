import CanonicalLR.Machine.Loop
import CanonicalLR.Proofs.Climbing
import CanonicalLR.Proofs.Postorder
import CanonicalLR.Proofs.Unreached

/-! # Stack and trees keep step

The two lists of the loop are those that a configuration gives, with a symbol and a state on the stack for every
frame and its tree in the other list. Every pass of the loop is the pass of the machine on them, so that the lists
cannot fall out of step whatever the table says: what the check before a reduction lets pass has its trees, and only
what a table names or reads beyond the end of the input is not there.
-/
namespace CanonicalLR

section Ends

variable {α : Type} {k : Nat} {xs : List α}

theorem cutEnd_append_takeEnd (k : Nat) (xs : List α) : cutEnd k xs ++ takeEnd k xs = xs := by
  unfold cutEnd takeEnd
  split
  · exact List.append_nil xs
  · exact List.take_append_drop _ xs

theorem length_takeEnd (h : k ≤ xs.length) : (takeEnd k xs).length = k := by
  unfold takeEnd placeFromEnd
  split
  · next hk => exact hk.symm
  · rw [List.length_drop]
    omega

theorem ends_append (front back : List α) :
    cutEnd back.length (front ++ back) = front ∧ takeEnd back.length (front ++ back) = back := by
  have hlength : back.length ≤ (front ++ back).length := by simp
  exact List.append_inj' (cutEnd_append_takeEnd back.length (front ++ back)) (length_takeEnd hlength)

theorem fromEnd?_append (front back : List α) : fromEnd? back.length (front ++ back) = front.getLast? := by
  unfold fromEnd?
  rw [List.length_append, List.getLast?_eq_getElem?]
  split
  · rw [show front.length + back.length - 1 - back.length = front.length - 1 by omega,
      List.getElem?_append_left (by omega)]
  · rw [List.getElem?_eq_none (by omega)]

end Ends

/-! ## The lists of a configuration -/

namespace Loop

variable {marks marks' : List Mark}

/-- The marks of some frames, the top first, as entries of the stack. -/
def slots (marks : List Mark) : List Slot := marks.reverse.flatMap fun (X, q) => [.symbol X, .state q]

def stackOf (marks : List Mark) : List Slot := .state 0 :: slots marks

theorem slots_append (marks marks' : List Mark) : slots (marks ++ marks') = slots marks' ++ slots marks := by
  rw [slots, List.reverse_append, List.flatMap_append]
  rfl

theorem length_slots (marks : List Mark) : (slots marks).length = 2 * marks.length := by
  simp [slots, Nat.mul_comm]

theorem stackOf_cons (mark : Mark) (marks : List Mark) :
    stackOf (mark :: marks) = stackOf marks ++ [.symbol mark.1, .state mark.2] :=
  congrArg (Slot.state 0 :: ·) (slots_append [mark] marks)

theorem stackOf_drop (k : Nat) (marks : List Mark) :
    stackOf marks = stackOf (marks.drop k) ++ slots (marks.take k) := by
  rw [stackOf, stackOf, List.cons_append, ← slots_append, List.take_append_drop]

theorem length_stackOf (marks : List Mark) : (stackOf marks).length = 2 * marks.length + 1 := by
  rw [stackOf, List.length_cons, length_slots]

theorem getLast?_stackOf (marks : List Mark) :
    (stackOf marks).getLast? = some (.state (Configuration.topOf marks)) := by
  cases marks with
  | nil => rfl
  | cons mark marks =>
    rw [stackOf_cons, List.getLast?_append]
    rfl

theorem stackOf_injective (h : stackOf marks = stackOf marks') : marks = marks' := by
  have hlength := congrArg List.length h
  rw [length_stackOf, length_stackOf] at hlength
  induction marks generalizing marks' with
  | nil => exact (List.eq_nil_of_length_eq_zero (by simp only [List.length_nil] at hlength; omega)).symm
  | cons mark marks ih =>
    obtain ⟨mark', marks', rfl⟩ := List.exists_cons_of_length_pos (l := marks') (by
      simp only [List.length_cons] at hlength; omega)
    rw [stackOf_cons, stackOf_cons] at h
    obtain ⟨hrest, hmark⟩ := List.append_inj' h rfl
    simp only [List.cons.injEq, Slot.symbol.injEq, Slot.state.injEq] at hmark
    rw [ih hrest (by simpa [Nat.mul_add] using hlength), Prod.ext hmark.1 hmark.2.1]

theorem map_text_stackOf (marks : List Mark) : (stackOf marks).map Slot.text = Step.stackTexts marks := by
  simp [stackOf, slots, Step.stackTexts, Slot.text, List.map_flatMap]

end Loop

namespace Configuration

variable {symbols : List Symbol} {g : Grammar} {t : Table} {c d : Configuration}

/-- The input is what the symbols leave behind those read, which the leaves of the trees spell, and every tree has the
name of its symbol. -/
structure Matched (symbols : List Symbol) (c : Configuration) : Prop where
  input_eq : c.input = symbols.drop c.shifted
  labels : ∀ f ∈ c.frames, f.tree.label = f.symbol.name
  yield_eq : Tree.yieldAll c.trees = (symbols.take c.shifted).map Symbol.name

theorem length_trees (c : Configuration) : c.trees.length = c.frames.length := by
  rw [trees, List.length_map, List.length_reverse]

theorem map_name_initial (tokens : List String) :
    (initial tokens).input.map Symbol.name = tokens ++ [Symbol.endMarker.name] := by
  simp [initial, Symbol.terminal, Function.comp_def]

theorem matched_initial (tokens : List String) : (initial tokens).Matched (initial tokens).input where
  input_eq := rfl
  labels := fun _ h => nomatch h
  yield_eq := by simp [trees, initial]

theorem Matched.shift (h : c.Matched symbols) {a : Symbol} {rest : List Symbol} (hinput : c.input = a :: rest)
    (target : Int) : (c.shift a target rest).Matched symbols := by
  have hdrop : symbols.drop c.shifted = a :: rest := h.input_eq.symm.trans hinput
  have hfirst : symbols[c.shifted]? = some a := by rw [← List.head?_drop, hdrop, List.head?_cons]
  refine ⟨?_, List.forall_mem_cons.mpr ⟨rfl, h.labels⟩, ?_⟩
  · rw [Configuration.shift, ← List.drop_drop, hdrop, List.drop_one, List.tail_cons]
  · rw [trees_shift, Tree.yieldAll_append, h.yield_eq, Configuration.shift, List.take_add_one, hfirst]
    simp

theorem Matched.reduce (h : c.Matched symbols) (p : Production) (target : Int) :
    (c.reduce p target).Matched symbols where
  input_eq := h.input_eq
  labels := List.forall_mem_cons.mpr ⟨rfl, fun f hf => h.labels f (List.mem_of_mem_drop hf)⟩
  yield_eq := by
    have hyield := h.yield_eq
    rw [trees_eq_drop_append_take c p.rhs.length, Tree.yieldAll_append] at hyield
    rw [trees_reduce, Tree.yieldAll_append, Tree.yieldAll_cons, Tree.yield_branch, Tree.yieldAll_nil, List.append_nil]
    exact hyield

theorem Matched.next (h : c.Matched symbols) (hnext : c.next? g t = some d) : d.Matched symbols := by
  cases next_of_next? hnext with
  | shift input_eq => exact h.shift input_eq _
  | reduce => exact h.reduce _ _

end Configuration

def Ending.outcome : Ending → Outcome
  | accepted tree => .accepted tree
  | rejected reason position => .rejected reason.message position
  | failed (.unknownProduction id) => .raised (.noProduction id)
  | failed .inputExhausted => .raised .noSymbol

namespace Run

open Loop

def loop (r : Run) : Loop where
  stack := stackOf r.configuration.marks
  trees := r.configuration.trees
  cursor := r.configuration.shifted
  seen := r.seen.map fun outline => stackOf outline.2
  steps := r.steps.map Step.entry
  outcome := r.ending.map Ending.outcome

/-- The configuration belongs to the symbols, and the outlines seen tell the heights of their marks. -/
structure Reads (symbols : List Symbol) (r : Run) : Prop where
  matched : r.configuration.Matched symbols
  outlines : ∀ outline ∈ r.seen, outline.1 = outline.2.length

variable {symbols : List Symbol} {r : Run} {m : Machine} {t : Table}

theorem Reads.record (h : r.Reads symbols) (event : Event) :
    (r.record event).map Step.entry = r.loop.record symbols event.action event.message := by
  simp [Run.record, Loop.record, Run.loop, Step.entry, map_text_stackOf, h.matched.input_eq]

theorem Reads.reject (h : r.Reads symbols) (reason : Rejection) :
    (r.reject reason).loop = r.loop.reject symbols reason.message := by
  have hsteps := h.record (.reject reason)
  simp only [Event.action, Event.message] at hsteps
  rw [Loop.reject, ← hsteps]
  rfl

theorem Reads.accept (h : r.Reads symbols) : r.accept.loop = r.loop.accept symbols := by
  have hsteps := h.record .accept
  simp only [Event.action, Event.message] at hsteps
  rw [Loop.accept, ← hsteps]
  simp [Run.accept, loop, Ending.outcome, Configuration.trees]

theorem Reads.shift (h : r.Reads symbols) (a : Symbol) (target : Int) (rest : List Symbol) :
    (r.shift a target (r.configuration.shift a target rest)).loop = r.loop.shift symbols a target := by
  have hsteps := h.record (.shift a target)
  simp only [Event.action, Event.message] at hsteps
  rw [Loop.shift, ← hsteps]
  simp only [Run.shift, loop, Configuration.trees_shift, Configuration.marks_shift, stackOf_cons]
  rfl

/-- The right side of a production goes from the stack with its frames. -/
theorem cutEnd_stack {k : Nat} (hle : k ≤ r.configuration.frames.length) :
    cutEnd (2 * k) r.loop.stack = stackOf (r.configuration.marks.drop k) ∧
      fromEnd? (2 * k) r.loop.stack = some (.state (topState (r.configuration.frames.drop k))) := by
  rw [← Configuration.length_marks] at hle
  have hlength : 2 * k = (slots (r.configuration.marks.take k)).length := by
    rw [length_slots, List.length_take_of_le hle]
  rw [hlength, loop, stackOf_drop k, Configuration.topState_drop_eq_topOf]
  exact ⟨(ends_append _ _).1, (fromEnd?_append _ _).trans (getLast?_stackOf _)⟩

theorem underflows_eq (r : Run) (p : Production) :
    r.loop.underflows p = decide (r.configuration.frames.length < p.rhs.length) := by
  rw [underflows, loop, length_stackOf, Configuration.length_marks]
  exact decide_eq_decide.mpr (by omega)

theorem ends_trees {k : Nat} {c : Configuration} (h : k ≤ c.frames.length) :
    cutEnd k c.trees = (c.frames.drop k).reverse.map Frame.tree ∧
      takeEnd k c.trees = (c.frames.take k).reverse.map Frame.tree := by
  have hlength : k = ((c.frames.take k).reverse.map Frame.tree).length := by
    rw [List.length_map, List.length_reverse, List.length_take_of_le h]
  rw [Configuration.trees_eq_drop_append_take c k]
  have hends := ends_append ((c.frames.drop k).reverse.map Frame.tree) ((c.frames.take k).reverse.map Frame.tree)
  rwa [← hlength] at hends

theorem Reads.replace (h : r.Reads symbols) {p : Production} (hle : p.rhs.length ≤ r.configuration.frames.length)
    (target : Int) :
    (r.reduce p target (r.configuration.reduce p target)).loop = r.loop.replace symbols p target := by
  have hsteps := h.record (.reduce p target)
  simp only [Event.action, Event.message] at hsteps
  obtain ⟨hcut, htake⟩ := ends_trees hle
  rw [Loop.replace, ← hsteps, (cutEnd_stack hle).1, show r.loop.trees = r.configuration.trees from rfl, hcut, htake]
  simp only [Run.reduce, loop, Configuration.trees_reduce, Configuration.marks_reduce, stackOf_cons]
  rfl

/-- The stack is among those seen when its outline is. -/
theorem Reads.stack_mem_seen_iff (h : r.Reads symbols) :
    r.loop.stack ∈ r.loop.seen ↔ r.configuration.outline ∈ r.seen := by
  rw [loop, List.mem_map]
  constructor
  · rintro ⟨outline, hmem, hstack⟩
    have hmarks := stackOf_injective hstack
    have hlength : r.configuration.outline.1 = outline.1 := by
      rw [h.outlines outline hmem, hmarks]
      exact r.configuration.length_marks.symm
    rwa [show r.configuration.outline = outline from Prod.ext hlength hmarks.symm]
  · intro hmem
    exact ⟨r.configuration.outline, hmem, rfl⟩

theorem Reads.reduce (h : r.Reads symbols) (p : Production) (target : Int) :
    (r.reduce p target (r.configuration.reduce p target)).Reads symbols :=
  ⟨h.matched.reduce p target, h.outlines⟩

theorem Reads.reduceGuarded (h : r.Reads symbols) {a : Symbol} {rest : List Symbol} {p : Production}
    (hinput : r.configuration.input = a :: rest) (hle : p.rhs.length ≤ r.configuration.frames.length) (target : Int) :
    (r.reduceGuarded p target (r.configuration.reduce p target)).loop = r.loop.guarded symbols a p target := by
  have hseen := (h.reduce p target).stack_mem_seen_iff
  have hheadD : (r.configuration.reduce p target).input.headD .endMarker = a := by
    rw [show (r.configuration.reduce p target).input = _ from hinput, List.headD_cons]
  rw [Loop.guarded, ← h.replace hle target, Run.reduceGuarded, hheadD]
  by_cases hmem : (r.configuration.reduce p target).outline ∈ r.seen
  · rw [if_pos hmem, if_pos (hseen.mpr hmem)]
    exact (h.reduce p target).reject (.cycle target a)
  · rw [if_neg hmem, if_neg fun hstack => hmem (hseen.mp hstack)]
    rfl

theorem getLast?_stack (r : Run) : r.loop.stack.getLast? = some (.state (topState r.configuration.frames)) := by
  rw [loop, getLast?_stackOf, Configuration.topState_eq_topOf]

theorem Reads.symbol_eq (h : r.Reads symbols) : symbols[r.loop.cursor]? = r.configuration.input.head? := by
  rw [h.matched.input_eq, List.head?_drop]
  rfl

theorem Reads.last_iff (h : r.Reads symbols) {a : Symbol} {rest : List Symbol}
    (hinput : r.configuration.input = a :: rest) : rest.isEmpty = true ↔ r.loop.cursor + 1 = symbols.length := by
  have hlength := congrArg List.length (h.matched.input_eq.symm.trans hinput)
  rw [List.length_drop, List.length_cons] at hlength
  rw [List.isEmpty_iff_length_eq_zero, show r.loop.cursor = r.configuration.shifted from rfl]
  omega

theorem Reads.step (h : r.Reads symbols) : (m.step r).loop = r.loop.step symbols m := by
  unfold Machine.step Loop.step Configuration.move
  rw [getLast?_stack, h.symbol_eq]
  cases hinput : r.configuration.input with
  | nil => rfl
  | cons a rest =>
    simp only [List.head?_cons, Slot.action?]
    cases haction : m.table.action? (topState r.configuration.frames) a with
    | none => exact h.reject (.noAction _ a)
    | some action =>
      cases action with
      | shift target => exact h.shift a target rest
      | accept =>
        by_cases hrest : rest.isEmpty = true
        · simp only [if_pos hrest, if_pos ((h.last_iff hinput).mp hrest)]
          exact h.accept
        · simp only [if_neg hrest, if_neg fun hlast => hrest ((h.last_iff hinput).mpr hlast)]
          exact h.reject (.earlyEnd _)
      | reduce id =>
        simp only [Configuration.reduction]
        cases hproduction : m.grammar.production? id with
        | none => rfl
        | some p =>
          simp only [Loop.reduce, underflows_eq, decide_eq_true_eq]
          by_cases hlt : r.configuration.frames.length < p.rhs.length
          · rw [if_pos hlt, if_pos hlt]
            exact h.reject (.underflow p)
          · rw [if_neg hlt, if_neg hlt, (cutEnd_stack (Nat.not_lt.mp hlt)).2]
            simp only [Slot.goto?]
            cases hgoto : m.table.goto? (topState (r.configuration.frames.drop p.rhs.length)) p.lhs with
            | none => exact h.reject (.noGoto _ p.lhs)
            | some target => exact h.reduceGuarded hinput (Nat.not_lt.mp hlt) target

theorem Reads.pass_loop (h : r.Reads symbols) : (m.pass r).loop = r.loop.pass symbols m := by
  unfold Machine.pass Loop.pass
  cases m.limit with
  | none => exact h.step
  | some limit =>
    simp only [show r.loop.steps.length = r.steps.length from List.length_map ..]
    split
    · exact h.reject (.stepLimit limit)
    · exact h.step

theorem Reads.pass (h : r.Reads symbols) : (m.pass r).Reads symbols := by
  constructor
  · rcases Machine.configuration_pass m r with hsame | hnext
    · exact hsame ▸ h.matched
    · exact h.matched.next hnext
  · have hpass := Machine.pass_pass m r
    generalize m.pass r = r' at hpass
    cases hpass with
    | shift => exact fun _ h => nomatch h
    | @reduce p target next => exact List.forall_mem_cons.mpr ⟨next.length_marks.symm, h.outlines⟩
    | cycle => exact h.outlines
    | stepLimit => exact h.outlines
    | accept => exact h.outlines
    | reject => exact h.outlines
    | fail => exact h.outlines

theorem reads_start (tokens : List String) : (start tokens).Reads (Configuration.initial tokens).input :=
  ⟨Configuration.matched_initial tokens, fun _ h => nomatch h⟩

theorem Reads.advance_loop (h : r.Reads symbols) (n : Nat) :
    (m.advance n r).loop = r.loop.advance symbols m n := by
  induction n generalizing r with
  | zero => rfl
  | succ n ih =>
    have hended : r.loop.outcome.isSome = r.ending.isSome := Option.isSome_map ..
    rw [Machine.advance, Loop.advance, hended]
    split
    · rfl
    · rw [ih h.pass, h.pass_loop]

end Run

/-! ## What holds of every state of the loop -/

namespace Loop

/-- What the loop asks for and does not find. -/
inductive Lacks (m : Machine) (symbols : List Symbol) (s : Loop) : LoopError → Prop
  | production {id : Int} {top : Slot} {a : Symbol} (top_eq : s.stack.getLast? = some top)
      (symbol_eq : symbols[s.cursor]? = some a) (action : top.action? m.table a = some (.reduce id))
      (unknown : ∀ p ∈ m.grammar.productions, (p.id : Int) ≠ id) : Lacks m symbols s (.noProduction id)
  | symbol {last : TraceEntry} {target : Int} (cursor_eq : s.cursor = symbols.length)
      (last_eq : s.steps.getLast? = some last) (input_eq : last.input = [Symbol.endMarker.name])
      (action_eq : last.action = (Action.shift target).text) : Lacks m symbols s .noSymbol

structure InStep (m : Machine) (tokens : List String) (symbols : List Symbol) (s : Loop) : Prop where
  stack_eq : ∃ marks : List Mark, s.stack = .state 0 :: marks.flatMap (fun (X, q) => [.symbol X, .state q]) ∧
    s.trees.map Tree.label = marks.map fun (X, _) => X.name
  length_eq : s.stack.length = 2 * s.trees.length + 1
  yield_eq : Tree.yieldAll s.trees = (tokens ++ [Symbol.endMarker.name]).take s.cursor
  takes : ∀ (p : Production) (target : Int), s.underflows p = false → ∃ kept children,
    s.trees = kept ++ children ∧ children.length = p.rhs.length ∧
      (s.replace symbols p target).trees = kept ++ [.branch p.lhs.name children]
  lacks : ∀ error, s.outcome = some (.raised error) → s.Lacks m symbols error

end Loop

namespace Configuration

variable {g : Grammar} {t : Table} {c : Configuration} {fault : Fault}

theorem of_move_eq_fail (h : c.move g t = .fail fault) :
    c.input = [] ∧ fault = .inputExhausted ∨ ∃ a rest id, c.input = a :: rest ∧ fault = .unknownProduction id ∧
      t.action? (topState c.frames) a = some (.reduce id) ∧ g.production? id = none := by
  unfold move at h
  split at h
  · next hinput => exact Or.inl ⟨hinput, (Move.fail.inj h).symm⟩
  · next a rest hinput =>
    split at h
    · cases h
    · cases h
    · next id haction =>
      unfold reduction at h
      split at h
      · next hproduction => exact Or.inr ⟨a, rest, id, hinput, (Move.fail.inj h).symm, haction, hproduction⟩
      · split at h
        · cases h
        · dsimp only at h
          split at h <;> cases h
    · split at h <;> cases h

end Configuration

/-- Only a shift of the end marker leaves nothing to read. -/
theorem Traced.getLast?_of_input_eq_nil {g : Grammar} {t : Table} {tokens : List String} {steps : List Step}
    {c : Configuration} (h : Traced g t tokens steps c) (hinput : c.input = []) :
    ∃ last target, steps.getLast? = some last ∧ last.input = [.endMarker] ∧
      last.event = .shift .endMarker target := by
  cases h with
  | start => simp [Configuration.initial] at hinput
  | @move steps c d event before made =>
    cases made with
    | @shift x rest target input_eq action =>
      obtain rfl : rest = [] := hinput
      obtain ⟨read, hread, -⟩ := before.input_eq
      rw [input_eq] at hread
      obtain ⟨-, hx⟩ := List.append_inj' hread rfl
      obtain rfl : Symbol.endMarker = x := (List.cons.inj hx).1
      exact ⟨_, target, List.getLast?_concat, input_eq, rfl⟩
    | reduce input_eq =>
      rw [show c.input = [] from hinput] at input_eq
      cases input_eq

namespace Machine

variable {m : Machine} {tokens : List String} {n : Nat} {fault : Fault}

/-- A run that has failed stands where it made its last move. -/
theorem exists_traced_of_failed (h : (m.advance n (.start tokens)).ending = some (.failed fault)) :
    Traced m.grammar m.table tokens (m.advance n (.start tokens)).steps
        (m.advance n (.start tokens)).configuration ∧
      (m.advance n (.start tokens)).configuration.move m.grammar m.table = .fail fault := by
  have hended : (m.advance n (.start tokens)).ending.isSome = true := by rw [h]; rfl
  obtain ⟨k, -, hunderway, hlast⟩ := exists_last_pass hended
  have htraced := traced_of_underway hunderway
  have hpass := pass_pass m (m.advance k (.start tokens))
  rw [hlast] at h ⊢
  clear hlast
  generalize m.advance k (.start tokens) = r at *
  generalize m.pass r = r' at *
  cases hpass with
  | fail move_eq =>
    cases h
    exact ⟨htraced, move_eq⟩
  | shift => exact absurd (h.symm.trans hunderway) nofun
  | @reduce p target next => exact absurd (h.symm.trans hunderway) nofun
  | stepLimit => cases h
  | cycle => cases h
  | accept => cases h
  | reject => cases h

/-- The loop on some tokens, which it reads as terminals of the grammar or else as new ones. -/
def loop (m : Machine) (tokens : List String) (n : Nat) : Loop :=
  Loop.advance (tokens.map m.grammar.terminalOf ++ [.endMarker]) m n .start

/-- The loop makes the passes of the machine. -/
theorem loop_eq (m : Machine) (tokens : List String) (n : Nat) :
    m.loop tokens n = (m.advance n (.start tokens)).loop := by
  rw [loop, ← m.grammar.input_initial tokens, (Run.reads_start tokens).advance_loop]
  rfl

theorem reads_advance (m : Machine) (tokens : List String) (n : Nat) :
    (m.advance n (.start tokens)).Reads (Configuration.initial tokens).input :=
  advance_induction (Run.Reads (Configuration.initial tokens).input) (fun _ _ h => h.pass) (Run.reads_start tokens) n

theorem lacks_of_failed (h : (m.advance n (.start tokens)).ending = some (.failed fault)) :
    ∃ error, (Ending.failed fault).outcome = .raised error ∧
      (m.advance n (.start tokens)).loop.Lacks m (Configuration.initial tokens).input error := by
  obtain ⟨htraced, hmove⟩ := exists_traced_of_failed h
  rcases Configuration.of_move_eq_fail hmove with ⟨hinput, rfl⟩ | ⟨a, rest, id, hinput, rfl, haction, hproduction⟩
  · obtain ⟨last, target, hlast, hsymbols, hevent⟩ := htraced.getLast?_of_input_eq_nil hinput
    obtain ⟨read, hread, hlength⟩ := htraced.input_eq
    rw [hinput, List.append_nil] at hread
    have hcursor : (m.advance n (.start tokens)).loop.cursor = (Configuration.initial tokens).input.length := by
      rw [hread, hlength]
      rfl
    have hentry : (m.advance n (.start tokens)).loop.steps.getLast? = some last.entry := by
      rw [Run.loop, List.getLast?_map, hlast]
      rfl
    exact ⟨_, rfl, .symbol hcursor hentry (congrArg (List.map Symbol.name) hsymbols) (congrArg Event.action hevent)⟩
  · refine ⟨_, rfl, .production (Run.getLast?_stack _) ?_ haction ?_⟩
    · rw [(reads_advance m tokens n).symbol_eq, hinput]
      rfl
    · intro p hp hid
      rw [Grammar.production?_eq_some_iff.mpr ⟨hp, hid⟩] at hproduction
      cases hproduction

/-- In every state of the loop, whatever the grammar and the table, the stack has a symbol and a state for each tree,
the trees have the names of these symbols and spell what has been read, and a reduction that the check lets pass takes
as many of them as its right side has symbols. Only a production or a symbol can be missing. -/
theorem loop_inStep (m : Machine) (tokens : List String) (n : Nat) :
    m.loop tokens n = (m.advance n (.start tokens)).loop ∧
      (m.loop tokens n).InStep m tokens (tokens.map m.grammar.terminalOf ++ [.endMarker]) := by
  rw [loop_eq, ← m.grammar.input_initial tokens]
  have hreads := reads_advance m tokens n
  have hfailed := fun fault => @lacks_of_failed m tokens n fault
  generalize m.advance n (.start tokens) = r at hreads hfailed
  refine ⟨rfl, ?_⟩
  constructor
  · refine ⟨r.configuration.marks.reverse, rfl, ?_⟩
    rw [Run.loop, Configuration.trees, Configuration.marks, ← List.map_reverse, List.map_map, List.map_map]
    exact List.map_congr_left fun f hf => hreads.matched.labels f (List.mem_reverse.mp hf)
  · rw [Run.loop, Loop.length_stackOf, Configuration.length_marks, Configuration.length_trees]
  · rw [Run.loop, hreads.matched.yield_eq, List.map_take, Configuration.map_name_initial]
  · intro p target hunderflows
    rw [Run.underflows_eq, decide_eq_false_iff_not, Nat.not_lt] at hunderflows
    rw [← r.configuration.length_trees] at hunderflows
    exact ⟨_, _, (cutEnd_append_takeEnd p.rhs.length r.loop.trees).symm, length_takeEnd hunderflows, rfl⟩
  · intro error herror
    rw [Run.loop, Option.map_eq_some_iff] at herror
    obtain ⟨ending, hending, houtcome⟩ := herror
    cases ending with
    | accepted tree => cases houtcome
    | rejected reason position => cases houtcome
    | failed fault =>
      obtain ⟨error', herror', hlacks⟩ := hfailed fault hending
      rw [houtcome] at herror'
      cases herror'
      exact hlacks

end Machine

end CanonicalLR
