import CanonicalLR.Json
import CanonicalLR.Recognizer

/-! # Descriptions in JSON

Grammars, automata, tables, trees and verdicts as JSON values. Symbols appear by name, states by
number, and the rows of a table by the state number as a text.
-/
namespace CanonicalLR

def Production.toJson (p : Production) : Json :=
  .object [
    ("id", .integer p.id),
    ("lhs", .string p.lhs.name),
    ("rhs", .strings (p.rhs.map Symbol.name)),
    ("text", .string p.text)]

def Grammar.toJson (g : Grammar) : Json :=
  .object [
    ("productions", .array (g.productions.map Production.toJson)),
    ("terminals", .strings (g.terminals.map Symbol.name)),
    ("non_terminals", .strings (g.nonterminals.map Symbol.name)),
    ("start_symbol", .string g.augmentedStart.name)]

def State.toJson (s : State) : Json :=
  .object [("id", .integer s.id), ("label", .string s.items.label)]

def Edge.toJson (e : Edge) : Json :=
  .object [
    ("source", .integer e.source),
    ("target", .integer e.target),
    ("label", .string e.symbol.name)]

def Automaton.toJson (a : Automaton) : Json :=
  .object [
    ("nodes", .array (a.states.map State.toJson)),
    ("edges", .array (a.edges.map Edge.toJson))]

def Rows.toJson {α : Type} (value : α → Json) (rows : Rows α) : Json :=
  .object (rows.toList.map fun (state, row) =>
    (toString state, .object (row.toList.map fun (name, entry) => (name, value entry))))

def Listing.toJson (l : Listing) : Json :=
  .object [
    ("terminals", .strings l.terminals),
    ("non_terminals", .strings l.nonterminals),
    ("states", .array (l.states.map .integer)),
    ("action", Rows.toJson .string l.actions),
    ("goto", Rows.toJson .integer l.gotos)]

def Description.members (d : Description) : List (String × Json) := [
  ("grammar", d.grammar.toJson),
  ("automaton", d.automaton.toJson),
  ("table", d.listing.toJson),
  ("conflicts", .strings d.conflicts),
  ("table_info", .object [
    ("states_count", .integer d.statesCount),
    ("edges_count", .integer d.edgesCount),
    ("action_entries", .integer d.actionEntries),
    ("goto_entries", .integer d.gotoEntries),
    ("conflicts_count", .integer d.conflictsCount)])]

mutual

def Tree.toJson : Tree → Json
  | .node label isTerminal children =>
    .object [
      ("label", .string label),
      ("is_terminal", .bool isTerminal),
      ("children", .array (Tree.allToJson children))]

def Tree.allToJson : List Tree → List Json
  | [] => []
  | t :: rest => t.toJson :: Tree.allToJson rest

end

def Validation.members (v : Validation) : List (String × Json) := [
  ("accepted", .bool v.accepted),
  ("trace", .strings v.trace),
  ("trace_steps", .integer v.trace.length),
  ("error_message", .string v.message),
  ("error_position", .integer v.position),
  ("parse_tree", (v.tree.map Tree.toJson).getD .null)]

end CanonicalLR
