import CanonicalLR.Action
import CanonicalLR.Collection.Entries
import CanonicalLR.Collection.Sorted
import CanonicalLR.Symbol

/-! # ACTION and GOTO tables

A cell is a state with a symbol. A table may have been filled with conflicts; each conflict names the
action that its cell kept and the action that was discarded.
-/
namespace CanonicalLR

abbrev Cell := Int × Symbol

inductive ConflictKind where
  | shiftReduce
  | reduceReduce
  | acceptReduce
deriving DecidableEq

def ConflictKind.text : ConflictKind → String
  | shiftReduce => "shift/reduce"
  | reduceReduce => "reduce/reduce"
  | acceptReduce => "accept/reduce"

structure Conflict where
  state : Int
  symbol : Symbol
  kind : ConflictKind
  kept : Action
  discarded : Action
deriving DecidableEq

def Conflict.text (c : Conflict) : String :=
  s!"{c.kind.text} conflict in state {c.state} on symbol '{c.symbol.name}': " ++
    s!"kept {c.kept.text}, discarded {c.discarded.text}"

structure Table where
  actions : Entries Cell Action
  gotos : Entries Cell Int
  terminals : List Symbol
  nonterminals : List Symbol
  states : List Int
  conflicts : List Conflict

namespace Table

def action? (t : Table) (state : Int) (a : Symbol) : Option Action := t.actions.get? (state, a)

def goto? (t : Table) (state : Int) (A : Symbol) : Option Int := t.gotos.get? (state, A)

/-- Cells are listed by state, then by the name of the symbol. -/
def cellPrecedes (c d : Cell) : Bool :=
  c.1 < d.1 || c.1 = d.1 && c.2.name ≤ d.2.name

def text (t : Table) : String :=
  String.intercalate "\n" (["Parsing Tables:", "\nAction Table:"] ++
    (sort (fun x y => cellPrecedes x.1 y.1) t.actions.toList).map
      (fun ((state, a), action) => s!"  ACTION[{state}, {a.name}] = {action.text}") ++
    ["\nGoto Table:"] ++
    (sort (fun x y => cellPrecedes x.1 y.1) t.gotos.toList).map
      (fun ((state, A), target) => s!"  GOTO[{state}, {A.name}] = {target}"))

end Table

end CanonicalLR
