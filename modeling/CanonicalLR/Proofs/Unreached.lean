import CanonicalLR.Machine.Run
import CanonicalLR.Proofs.Reach
import CanonicalLR.Proofs.Spelling
import CanonicalLR.Proofs.Tables

/-! # Lines that the start symbol cannot reach

Lines may be written below a grammar without any effect, as long as the start symbol reaches none of their left sides:
the exploration visits the same lists of items in the same order, the tables are filled from the same automaton, and
the machine reduces by productions of this automaton only. The terminals that such lines bring along are no more than
tokens without a column.
-/
namespace CanonicalLR

namespace Grammar

variable {g : Grammar} {added : List Rule} {items : ItemSet} {found final : Exploration} {n : Nat}

def LiveSets (g : Grammar) (added : List Rule) (found : Exploration) : Prop :=
  ∀ set ∈ found.sets, ∀ i ∈ set.items, g.LiveItem added i

theorem LiveSets.connect (hfound : g.LiveSets added found) {set : SignedSet}
    (hset : ∀ i ∈ set.items, g.LiveItem added i) (source : Nat) (X : Symbol) :
    g.LiveSets added (found.connect source X set) := by
  unfold Exploration.connect
  split
  · exact hfound
  · intro other hother
    rcases List.mem_append.mp hother with hother | hother
    · exact hfound other hother
    · rw [List.mem_singleton.mp hother]
      exact hset

namespace Inert

variable (h : g.Inert added)

include h

theorem liveSets_visit (hfound : g.LiveSets added found) (hitems : ∀ i ∈ items, g.LiveItem added i) (n : Nat) :
    g.LiveSets added (g.predictor.visit n items found) := by
  unfold Predictor.visit
  induction items.nextSymbols generalizing found with
  | nil => exact hfound
  | cons X Xs ih => exact ih (hfound.connect (h.liveItem_of_mem_goto hitems X) n X)

theorem visit_eq (hitems : ∀ i ∈ items, g.LiveItem added i) (n : Nat) (found : Exploration) :
    (g.extend added).predictor.visit n items found = g.predictor.visit n items found := by
  have hgoto : ∀ X, (g.extend added).predictor.goto items X = g.predictor.goto items X := h.goto_eq hitems
  simp only [Predictor.visit, hgoto]

theorem emptied_extend (hemptied : Emptied g.predictor n found final) (hfound : g.LiveSets added found) :
    Emptied (g.extend added).predictor n found final := by
  induction hemptied with
  | done empty => exact .done empty
  | @visit n found final set waiting first rest ih =>
    have hset : set ∈ found.sets := List.mem_of_mem_drop (first ▸ List.mem_cons_self)
    have hlive := hfound set hset
    refine .visit first ?_
    rw [h.visit_eq hlive]
    exact ih (h.liveSets_visit hfound hlive n)

theorem exploration_eq : (g.extend added).exploration = g.exploration := by
  have hstart : ∀ i ∈ [g.startItem], g.LiveItem added i := by
    intro i hi
    rw [List.mem_singleton.mp hi]
    exact liveItem_startItem g added
  have hclosure : (g.extend added).closure [(g.extend added).startItem] = g.closure [g.startItem] := h.closure_eq hstart
  have hfirst : g.LiveSets added ⟨[(g.closure [g.startItem]).signed], []⟩ := by
    intro set hset
    rw [List.mem_singleton.mp hset]
    exact h.liveItem_of_mem_closure hstart
  have hemptied := emptied_exploration h.extended
  rw [hclosure] at hemptied
  exact hemptied.unique (h.emptied_extend (emptied_exploration h.wellFormed) hfirst)

theorem automaton_eq : (g.extend added).automaton = g.automaton :=
  congrArg Exploration.toAutomaton h.exploration_eq

/-- The automaton reduces by productions of the grammar, and the added ones have other numbers. -/
theorem production?_eq {q : Int} {X : Symbol} {id : Int}
    (hreduce : (g.automaton.table g).action? q X = some (.reduce id)) :
    (g.extend added).production? id = g.production? id := by
  obtain ⟨s, hs, -, i, hi, -, -, hcompletion⟩ := Automaton.exists_complete_of_action? hreduce (by simp)
  have hp := (((isCanonical_automaton h.wellFormed).regular s hs).hasItem i hi).production_mem
  have hid : (i.production.id : Int) = id := by
    unfold Item.completion at hcompletion
    split at hcompletion
    · cases hcompletion
    · exact Action.reduce.inj hcompletion
  rw [production?_eq_some_iff.mpr ⟨hp, hid⟩, production?_eq_some_iff.mpr ⟨mem_productions_extend hp, hid⟩]

end Inert

/-- The symbol that a token is read as: the terminal of the grammar with this name, or else a new one. -/
def terminalOf (g : Grammar) (token : String) : Symbol :=
  match g.symbol? token with
  | some X => if X.isTerminal then X else .terminal token
  | none => .terminal token

theorem terminalOf_eq (g : Grammar) (token : String) : g.terminalOf token = .terminal token := by
  unfold terminalOf
  split
  · next X hX =>
    split
    · next hterminal =>
      have hname : X.name = token := by simpa using List.find?_some hX
      rw [Symbol.eq_terminal_of_isTerminal hterminal, hname]
    · rfl
  · rfl

/-- The machine reads terminals whatever grammar it looks the tokens up in. -/
theorem input_initial (g : Grammar) (tokens : List String) :
    (Configuration.initial tokens).input = tokens.map g.terminalOf ++ [.endMarker] := by
  rw [show g.terminalOf = Symbol.terminal from funext g.terminalOf_eq]
  rfl

end Grammar

namespace Configuration

variable {g g' : Grammar} {t t' : Table}

theorem reduction_congr (hgotos : ∀ q X, t'.goto? q X = t.goto? q X) {id : Int}
    (hproduction : g'.production? id = g.production? id) (c : Configuration) :
    c.reduction g' t' id = c.reduction g t id := by
  simp only [reduction, hgotos, hproduction]

/-- The machine looks at the entries of its tables and at the productions that they reduce by. -/
theorem move_congr (hactions : ∀ q X, t'.action? q X = t.action? q X) (hgotos : ∀ q X, t'.goto? q X = t.goto? q X)
    (hproductions : ∀ q X id, t.action? q X = some (.reduce id) → g'.production? id = g.production? id)
    (c : Configuration) : c.move g' t' = c.move g t := by
  unfold move
  cases c.input with
  | nil => rfl
  | cons a rest =>
    simp only [hactions]
    cases hact : t.action? (topState c.frames) a with
    | none => rfl
    | some act =>
      cases act with
      | shift target => rfl
      | reduce id => exact reduction_congr hgotos (hproductions _ _ _ hact) c
      | accept => rfl

end Configuration

namespace Machine

variable {g g' : Grammar} {t t' : Table}

theorem pass_congr (hmove : ∀ c : Configuration, c.move g' t' = c.move g t) (limit : Option Int) (r : Run) :
    (⟨g', t', limit⟩ : Machine).pass r = (⟨g, t, limit⟩ : Machine).pass r := by
  simp only [pass, step, hmove]

/-- Machines that move alike run alike. -/
theorem advance_congr (hmove : ∀ c : Configuration, c.move g' t' = c.move g t) (limit : Option Int) (n : Nat)
    (r : Run) : (⟨g', t', limit⟩ : Machine).advance n r = (⟨g, t, limit⟩ : Machine).advance n r := by
  induction n generalizing r with
  | zero => rfl
  | succ n ih => rw [advance, advance, pass_congr hmove, ih]

theorem run_congr (hmove : ∀ c : Configuration, c.move g' t' = c.move g t) (limit : Option Int)
    (tokens : List String) : (⟨g', t', limit⟩ : Machine).run tokens = (⟨g, t, limit⟩ : Machine).run tokens := by
  have hpasses : (⟨g', t', limit⟩ : Machine).passes = (⟨g, t, limit⟩ : Machine).passes := rfl
  rw [run, run, advance_congr hmove, hpasses]

end Machine

namespace Grammar

variable {g g' : Grammar} {added : List Rule}

/-- Nothing that is built from the two grammars differs, and no run on them does. -/
structure Indistinguishable (g g' : Grammar) : Prop where
  automaton_eq : g'.automaton = g.automaton
  actions_eq : (g'.automaton.table g').actions = (g.automaton.table g).actions
  gotos_eq : (g'.automaton.table g').gotos = (g.automaton.table g).gotos
  conflicts_eq : (g'.automaton.table g').conflicts = (g.automaton.table g).conflicts
  initial_input : ∀ tokens, (Configuration.initial tokens).input = tokens.map g.terminalOf ++ [.endMarker] ∧
    (Configuration.initial tokens).input = tokens.map g'.terminalOf ++ [.endMarker]
  advance_eq : ∀ limit tokens n, (⟨g', g'.automaton.table g', limit⟩ : Machine).advance n (.start tokens) =
    (⟨g, g.automaton.table g, limit⟩ : Machine).advance n (.start tokens)
  run_eq : ∀ limit tokens, (⟨g', g'.automaton.table g', limit⟩ : Machine).run tokens =
    (⟨g, g.automaton.table g, limit⟩ : Machine).run tokens

theorem Inert.indistinguishable (h : g.Inert added) : g.Indistinguishable (g.extend added) := by
  have hactions : ((g.extend added).automaton.table (g.extend added)).actions = (g.automaton.table g).actions := by
    rw [h.automaton_eq]
    rfl
  have hgotos : ((g.extend added).automaton.table (g.extend added)).gotos = (g.automaton.table g).gotos := by
    rw [h.automaton_eq]
    rfl
  have hmove : ∀ c : Configuration, c.move (g.extend added) ((g.extend added).automaton.table (g.extend added)) =
      c.move g (g.automaton.table g) :=
    Configuration.move_congr (fun _ _ => by rw [Table.action?, hactions, Table.action?])
      (fun _ _ => by rw [Table.goto?, hgotos, Table.goto?]) fun _ _ _ => h.production?_eq
  exact {
    automaton_eq := h.automaton_eq
    actions_eq := hactions
    gotos_eq := hgotos
    conflicts_eq := by
      rw [h.automaton_eq]
      rfl
    initial_input := fun tokens => ⟨input_initial _ tokens, input_initial _ tokens⟩
    advance_eq := fun limit tokens n => Machine.advance_congr hmove limit n (.start tokens)
    run_eq := fun limit tokens => Machine.run_congr hmove limit tokens }

theorem read_extend {text more : String} (hread : read text = .ok g)
    (hmore : List.Forall₂ Spells (writtenLines more) added) : read (text ++ "\n" ++ more) = .ok (g.extend added) := by
  obtain ⟨first, rest, hspelt, rfl⟩ := read_eq_ok_iff.mp hread
  refine read_eq_ok_iff.mpr ⟨first, rest ++ added, ?_, rfl⟩
  rw [writtenLines_append]
  exact List.rel_append hspelt hmore

/-- Lines below a grammar whose left sides the start symbol does not reach have no effect. -/
theorem indistinguishable_of_unreached {text more : String} (hread : read text = .ok g)
    (hmore : List.Forall₂ Spells (writtenLines more) added)
    (hunreached : ∀ rule ∈ added, ¬ (g.extend added).Reaches rule.lhs) :
    read (text ++ "\n" ++ more) = .ok (g.extend added) ∧ g.Indistinguishable (g.extend added) := by
  have hread' := read_extend hread hmore
  have hinert : g.Inert added := ⟨wellFormed_of_read hread, wellFormed_of_read hread', hunreached⟩
  exact ⟨hread', hinert.indistinguishable⟩

/-- Rules that bring in a new terminal, use an old one and turn back to the start symbol. -/
def detached : List Rule :=
  [⟨.nonterminal "A", [.terminal "c", .nonterminal "S"]⟩, ⟨.nonterminal "B", [.nonterminal "A", .terminal "a"]⟩]

theorem indistinguishable_of_unreached_nested :
    read ("S -> a S b\nS ->" ++ "\n" ++ "\nA -> c S\nB -> A a") = .ok (nested.extend detached) ∧
      nested.Indistinguishable (nested.extend detached) := by
  have hmore : List.Forall₂ Spells (writtenLines "\nA -> c S\nB -> A a") detached := by
    rw [← map_fst_numberedLines]
    exact readRules_eq_ok_iff.mp rfl
  have hunreached : ∀ rule ∈ detached, ¬ (nested.extend detached).Reaches rule.lhs := by
    intro rule hrule hreached
    have hmem := hreached.mem_of_closed [.nonterminal "S"] (by decide) (by decide)
    have hnone : ∀ rule ∈ detached, rule.lhs ∉ [Symbol.nonterminal "S"] := by decide
    exact hnone rule hrule hmem
  exact indistinguishable_of_unreached read_nested hmore hunreached

end Grammar

end CanonicalLR
