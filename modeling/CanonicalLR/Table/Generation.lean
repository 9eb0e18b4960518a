import CanonicalLR.Automaton
import CanonicalLR.Table

/-! # Filling the tables of an automaton

Terminal edges shift and nonterminal edges give GOTO entries, the later edge over the earlier. Then
the complete items of every state are entered in order. The complete item of production 0 with `$`
accepts, and nothing replaces it. Any other complete item reduces, unless the cell shifts; of two
reductions the one entered later, which has the higher number, stays. Every action that is put aside
this way is recorded as a conflict.
-/
namespace CanonicalLR

structure Filling where
  actions : Entries Cell Action
  conflicts : List Conflict

namespace Filling

def reduce (f : Filling) (cell : Cell) (production : Int) : Filling :=
  let new := Action.reduce production
  let conflict (kind : ConflictKind) (kept discarded : Action) : List Conflict :=
    f.conflicts ++ [⟨cell.1, cell.2, kind, kept, discarded⟩]
  match f.actions.get? cell with
  | none => ⟨f.actions.put cell new, f.conflicts⟩
  | some (.shift target) => ⟨f.actions, conflict .shiftReduce (.shift target) new⟩
  | some .accept => ⟨f.actions, conflict .acceptReduce .accept new⟩
  | some (.reduce old) =>
    if old = production then f
    else ⟨f.actions.put cell new, conflict .reduceReduce new (.reduce old)⟩

def enter (state : Int) (f : Filling) (i : Item) : Filling :=
  if i.production.id = 0 ∧ i.lookahead = .endMarker then
    ⟨f.actions.put (state, i.lookahead) .accept, f.conflicts⟩
  else f.reduce (state, i.lookahead) i.production.id

def enterState (f : Filling) (s : State) : Filling :=
  (sort Item.precedes (s.items.filter Item.isComplete)).foldl (enter s.id) f

end Filling

namespace Automaton

def shifts (a : Automaton) : Entries Cell Action :=
  .ofList ((a.edges.filter (·.symbol.isTerminal)).map fun e => ((e.source, e.symbol), .shift e.target))

def gotos (a : Automaton) : Entries Cell Int :=
  .ofList ((a.edges.filter (·.symbol.isNonterminal)).map fun e => ((e.source, e.symbol), e.target))

def filling (a : Automaton) : Filling :=
  a.states.foldl Filling.enterState ⟨a.shifts, []⟩

def table (a : Automaton) (g : Grammar) : Table where
  actions := a.filling.actions
  gotos := a.gotos
  terminals := g.terminals
  nonterminals := g.nonterminals.filter (· ≠ g.augmentedStart)
  states := a.states.map State.id
  conflicts := a.filling.conflicts

end Automaton

end CanonicalLR
