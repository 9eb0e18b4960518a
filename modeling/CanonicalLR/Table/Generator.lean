import CanonicalLR.Table.Generation

/-! # Generators

A generator keeps the tables of its last run. A new run clears them first, then takes the edges in one
pass, each into the table of its kind, and then enters the complete items.
-/
namespace CanonicalLR

structure Generator where
  actions : Entries Cell Action
  gotos : Entries Cell Int
  conflicts : List Conflict

namespace Generator

def clear (_ : Generator) : Generator := ⟨.empty, .empty, []⟩

/-- Edges over symbols of no kind that a grammar has are passed over. -/
def enterEdge (w : Generator) (e : Edge) : Generator :=
  if e.symbol.isTerminal then { w with actions := w.actions.put (e.source, e.symbol) (.shift e.target) }
  else if e.symbol.isNonterminal then { w with gotos := w.gotos.put (e.source, e.symbol) e.target }
  else w

def enterItems (w : Generator) (states : List State) : Generator :=
  let filled := states.foldl Filling.enterState ⟨w.actions, w.conflicts⟩
  { w with actions := filled.actions, conflicts := filled.conflicts }

def run (w : Generator) (a : Automaton) : Generator :=
  (a.edges.foldl enterEdge w.clear).enterItems a.states

/-- The tables of the last run, which was on the automaton of the grammar. -/
def table (w : Generator) (a : Automaton) (g : Grammar) : Table where
  actions := w.actions
  gotos := w.gotos
  terminals := g.terminals
  nonterminals := g.nonterminals.filter (· ≠ g.augmentedStart)
  states := a.states.map State.id
  conflicts := w.conflicts

end Generator

end CanonicalLR
