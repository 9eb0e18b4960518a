import CanonicalLR.Recognizer

/-! # Journals

What a recognizer reports about its work, record by record: the discovery of every state but the
first, the size of the automaton, the conflicts of its tables, and the steps of its runs.
-/
namespace CanonicalLR

inductive Level where
  | debug
  | info
  | warning
deriving DecidableEq

def Level.name : Level → String
  | debug => "DEBUG"
  | info => "INFO"
  | warning => "WARNING"

def Level.rank : Level → Int
  | debug => 10
  | info => 20
  | warning => 30

inductive Channel where
  | automaton
  | table
  | engine
deriving DecidableEq

def Channel.name : Channel → String
  | automaton => "clr_parser.automaton"
  | table => "clr_parser.table"
  | engine => "clr_parser.engine"

structure Record where
  channel : Channel
  level : Level
  message : String
deriving DecidableEq

namespace Automaton

/-- A state is discovered by the first edge that leads to it. -/
def discovery? (a : Automaton) (s : State) : Option Record :=
  (a.edges.find? (·.target = s.id)).map fun e =>
    ⟨.automaton, .debug, s!"state {s.id}: {s.items.length} items via {e.symbol.name} from {e.source}"⟩

def journal (a : Automaton) : List Record :=
  (a.states.drop 1).filterMap a.discovery? ++
    [⟨.automaton, .info, s!"built CLR automaton: {a.states.length} states, {a.edges.length} edges"⟩]

end Automaton

def Table.journal (t : Table) : List Record :=
  t.conflicts.map fun c => ⟨.table, .warning, c.text⟩

def Run.journal (r : Run) : List Record :=
  r.steps.map fun s => ⟨.engine, .debug, s.text⟩

/-- The records at a level or above it, of building a recognizer and of validating some inputs. -/
def Recognizer.journal (r : Recognizer) (inputs : List String) (level : Int) : List Record :=
  (r.automaton.journal ++ r.table.journal ++ inputs.flatMap fun input => (r.run input).journal).filter
    fun record => level ≤ record.level.rank

end CanonicalLR
