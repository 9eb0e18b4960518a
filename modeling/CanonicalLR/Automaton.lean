import CanonicalLR.ItemSet

/-! # Automata of item sets

An automaton is a list of numbered item sets with labelled edges between them. Numbers may be any
integers and edges may repeat: of two edges from one state with one label, the later one counts.
-/
namespace CanonicalLR

structure State where
  id : Int
  items : ItemSet
deriving DecidableEq

structure Edge where
  source : Int
  target : Int
  symbol : Symbol
deriving DecidableEq

structure Automaton where
  states : List State
  edges : List Edge
  start : Int
deriving DecidableEq

def State.text (s : State) : String :=
  s!"State {s.id}:\n  " ++ String.intercalate "\n  " (s.items.map fun i => s!"[{i.text}]")

def Edge.text (e : Edge) : String :=
  s!"GOTO({e.source}, {e.symbol.name}) = {e.target}"

namespace Automaton

def target? (a : Automaton) (source : Int) (X : Symbol) : Option Int :=
  (a.edges.reverse.find? fun e => e.source = source && e.symbol = X).map Edge.target

def text (a : Automaton) : String :=
  String.intercalate "\n" (
    [s!"CLR Automaton with {a.states.length} states", s!"Start state: {a.start}", "\nStates:"] ++
    a.states.map State.text ++ ["\nTransitions:"] ++ a.edges.map fun e => s!"  {e.text}")

end Automaton

end CanonicalLR
