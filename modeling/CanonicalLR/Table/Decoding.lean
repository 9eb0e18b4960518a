import CanonicalLR.Json
import CanonicalLR.Table

/-! # Tables read back from JSON

The JSON form of a listed table has numbers of states as texts, names in place of symbols and codes in place of
actions. A code tells its action by the first letter, and a name is a terminal's in an ACTION row and a nonterminal's
in a GOTO row. Conflicts are not listed, so none come back.
-/
namespace CanonicalLR

def Action.ofCode? (code : String) : Option Action :=
  match code.toList with
  | ['a', 'c', 'c'] => some accept
  | 's' :: digits => (String.ofList digits).toInt?.map shift
  | 'r' :: digits => (String.ofList digits).toInt?.map reduce
  | _ => none

namespace Json

def members : Json → List (String × Json)
  | object members => members
  | _ => []

def items : Json → List Json
  | array items => items
  | _ => []

def text? : Json → Option String
  | string value => some value
  | _ => none

def integer? : Json → Option Int
  | integer value => some value
  | _ => none

def keys (j : Json) : List String := j.members.map Prod.fst

/-- The value of a name, if there is one. -/
def get? (j : Json) (name : String) : Option Json := (j.members.reverse.find? (·.1 = name)).map Prod.snd

/-- The members of all members, under both names. -/
def cells (j : Json) : List ((String × String) × Json) :=
  j.members.flatMap fun (row, entries) => entries.members.map fun (name, value) => ((row, name), value)

end Json

namespace Table

def decodeCell {α : Type} (symbol : String → Symbol) (decode : Json → Option α) :
    (String × String) × Json → Option (Cell × α)
  | ((row, name), j) => do
    let state ← row.toInt?
    let value ← decode j
    return ((state, symbol name), value)

def ofJson? (j : Json) : Option Table := do
  let action ← j.get? "action"
  let goto ← j.get? "goto"
  let terminals ← j.get? "terminals"
  let nonterminals ← j.get? "non_terminals"
  let states ← j.get? "states"
  let actions ← action.cells.mapM (decodeCell .terminal fun value => value.text?.bind Action.ofCode?)
  let gotos ← goto.cells.mapM (decodeCell .nonterminal Json.integer?)
  let terminalNames ← terminals.items.mapM Json.text?
  let nonterminalNames ← nonterminals.items.mapM Json.text?
  return {
    actions := .ofList actions
    gotos := .ofList gotos
    terminals := terminalNames.map .terminal
    nonterminals := nonterminalNames.map .nonterminal
    states := ← states.items.mapM Json.integer?
    conflicts := [] }

end Table

end CanonicalLR
