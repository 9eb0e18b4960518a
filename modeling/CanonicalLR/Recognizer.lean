import CanonicalLR.Automaton.Construction
import CanonicalLR.Grammar.Reader
import CanonicalLR.Machine.Run
import CanonicalLR.Table.Generation
import CanonicalLR.Table.Listing

/-! # Recognizers

A recognizer has the automaton and the tables of one grammar, and validates any number of inputs.
Its machine keeps nothing from one input to the next.
-/
namespace CanonicalLR

structure Recognizer where
  grammar : Grammar
  automaton : Automaton
  table : Table
  limit : Option Int

/-- What there is to say about a recognizer. -/
structure Description where
  grammar : Grammar
  automaton : Automaton
  listing : Listing
  conflicts : List String
  statesCount : Nat
  edgesCount : Nat
  actionEntries : Nat
  gotoEntries : Nat
  conflictsCount : Nat

structure Validation where
  accepted : Bool
  trace : List String
  message : String
  position : Int
  tree : Option Tree

namespace Recognizer

def ofGrammar (g : Grammar) (limit : Option Int) : Recognizer where
  grammar := g
  automaton := g.automaton
  table := g.automaton.table g
  limit := limit

def ofText (text : String) (limit : Option Int) : Except GrammarError Recognizer := do
  let g ← Grammar.read text
  return ofGrammar g limit

def machine (r : Recognizer) : Machine := ⟨r.grammar, r.table, r.limit⟩

def describe (r : Recognizer) : Except UnlistedState Description := do
  let listing ← r.table.listing
  return {
    grammar := r.grammar
    automaton := r.automaton
    listing := listing
    conflicts := r.table.conflicts.map Conflict.text
    statesCount := r.automaton.states.length
    edgesCount := r.automaton.edges.length
    actionEntries := r.table.actions.size
    gotoEntries := r.table.gotos.size
    conflictsCount := r.table.conflicts.length }

def run (r : Recognizer) (input : String) : Run :=
  r.machine.run (Text.wordsOf input)

def validate (r : Recognizer) (input : String) : Except Fault Validation :=
  let run := r.run input
  match run.fault? with
  | some fault => .error fault
  | none => .ok {
      accepted := run.accepted
      trace := run.trace
      message := run.message
      position := run.position
      tree := run.tree? }

end Recognizer

end CanonicalLR
