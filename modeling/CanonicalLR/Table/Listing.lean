import CanonicalLR.Table
import CanonicalLR.Text.Quoted

/-! # Tables listed by state

A listing has a row for each state of the table, and in the row the entries by the name of their
symbol. An entry of a state that the table does not list has no row to go to.
-/
namespace CanonicalLR

structure UnlistedState where
  state : Int
deriving DecidableEq

def UnlistedState.message (s : UnlistedState) : String := Text.quoted (toString s.state)

abbrev Rows (α : Type) := Entries Int (Entries String α)

structure Listing where
  terminals : List String
  nonterminals : List String
  states : List Int
  actions : Rows String
  gotos : Rows Int

namespace Rows

def blank {α : Type} (states : List Int) : Rows α :=
  .ofList (states.map fun s => (s, .empty))

def fill {α : Type} (rows : Rows α) : List (Cell × α) → Except UnlistedState (Rows α)
  | [] => .ok rows
  | ((state, symbol), value) :: rest =>
    match rows.get? state with
    | none => .error ⟨state⟩
    | some row => fill (rows.put state (row.put symbol.name value)) rest

end Rows

def Table.listing (t : Table) : Except UnlistedState Listing := do
  let actions ← (Rows.blank t.states).fill (t.actions.toList.map fun (cell, action) => (cell, action.code))
  let gotos ← (Rows.blank t.states).fill t.gotos.toList
  return {
    terminals := t.terminals.map Symbol.name
    nonterminals := t.nonterminals.map Symbol.name
    states := t.states
    actions := actions
    gotos := gotos }

end CanonicalLR
