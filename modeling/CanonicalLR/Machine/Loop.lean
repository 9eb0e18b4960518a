import CanonicalLR.Machine.Run

/-! # The machine over two lists

The same machine with its stack and its trees in two lists of their own, the bottom first. A tree takes one place in
its list and two in the stack, a symbol and a state, but nothing in the lists says so: places are counted from the
end, and whatever the count says is cut off. Only the check before a reduction looks at the length of the stack.
-/
namespace CanonicalLR

inductive Slot where
  | state (id : Int)
  | symbol (X : Symbol)
deriving DecidableEq

namespace Slot

def text : Slot → String
  | state id => toString id
  | symbol X => X.name

/-- A table has nothing for a symbol in the place of a state. -/
def action? (t : Table) (a : Symbol) : Slot → Option Action
  | state id => t.action? id a
  | symbol _ => none

def goto? (t : Table) (A : Symbol) : Slot → Option Int
  | state id => t.goto? id A
  | symbol _ => none

end Slot

section Ends

variable {α : Type}

/-- The place before the last `k`, at most the front. Zero places from the end count as the front too. -/
def placeFromEnd (k : Nat) (xs : List α) : Nat := if k = 0 then 0 else xs.length - k

def takeEnd (k : Nat) (xs : List α) : List α := if k = 0 then [] else xs.drop (placeFromEnd k xs)

def cutEnd (k : Nat) (xs : List α) : List α := if k = 0 then xs else xs.take (placeFromEnd k xs)

/-- The entry that has `k` others behind it. -/
def fromEnd? (k : Nat) (xs : List α) : Option α := if k < xs.length then xs[xs.length - 1 - k]? else none

end Ends

inductive LoopError where
  | emptyStack
  | noSymbol
  | noProduction (id : Int)
  | noEntry
deriving DecidableEq

inductive Outcome where
  | accepted (tree : Option Tree)
  | rejected (message : String) (position : Nat)
  | raised (error : LoopError)

/-- `cursor` counts the symbols read, and `seen` holds the stacks made by reductions since the last shift. -/
structure Loop where
  stack : List Slot
  trees : List Tree
  cursor : Nat
  seen : List (List Slot)
  steps : List TraceEntry
  outcome : Option Outcome

namespace Loop

def start : Loop := ⟨[.state 0], [], 0, [], [], none⟩

def raise (s : Loop) (error : LoopError) : Loop := { s with outcome := some (.raised error) }

section

variable (symbols : List Symbol)

def record (s : Loop) (action message : String) : List TraceEntry :=
  s.steps ++ [{
    number := s.steps.length + 1
    stack := s.stack.map Slot.text
    input := (symbols.drop s.cursor).map Symbol.name
    action
    message }]

def reject (s : Loop) (message : String) : Loop :=
  { s with steps := s.record symbols "error" message, outcome := some (.rejected message s.cursor) }

def accept (s : Loop) : Loop :=
  { s with
    steps := s.record symbols Action.accept.text "input accepted"
    outcome := some (.accepted s.trees.getLast?) }

def shift (s : Loop) (a : Symbol) (target : Int) : Loop :=
  { s with
    stack := s.stack ++ [.symbol a, .state target]
    trees := s.trees ++ [.leaf a.name]
    cursor := s.cursor + 1
    seen := []
    steps := s.record symbols (Action.shift target).text s!"shift '{a.name}' and go to state {target}" }

/-- The check before a reduction: everything above the bottom state is needed, and more. -/
def underflows (s : Loop) (p : Production) : Bool := s.stack.length ≤ 2 * p.rhs.length

/-- The right side goes from both lists, and the left side comes onto them over the trees that went. -/
def replace (s : Loop) (p : Production) (target : Int) : Loop :=
  { s with
    stack := cutEnd (2 * p.rhs.length) s.stack ++ [.symbol p.lhs, .state target]
    trees := cutEnd p.rhs.length s.trees ++ [.branch p.lhs.name (takeEnd p.rhs.length s.trees)]
    steps := s.record symbols (Action.reduce p.id).text s!"reduce by {p.text}, goto state {target}" }

/-- Rejects a stack that a reduction makes again before the next shift. -/
def guarded (s : Loop) (a : Symbol) (p : Production) (target : Int) : Loop :=
  let reduced := s.replace symbols p target
  if reduced.stack ∈ reduced.seen then reduced.reject symbols s!"reduce cycle in state {target} on '{a.name}'"
  else { reduced with seen := reduced.stack :: reduced.seen }

def reduce (t : Table) (s : Loop) (a : Symbol) (p : Production) : Loop :=
  if s.underflows p then s.reject symbols s!"stack underflow reducing by {p.text}"
  else
    match fromEnd? (2 * p.rhs.length) s.stack with
    | none => s.raise .noEntry
    | some exposed =>
      match exposed.goto? t p.lhs with
      | none => s.reject symbols s!"no goto for state {exposed.text} on '{p.lhs.name}'"
      | some target => s.guarded symbols a p target

def step (m : Machine) (s : Loop) : Loop :=
  match s.stack.getLast?, symbols[s.cursor]? with
  | none, _ => s.raise .emptyStack
  | some _, none => s.raise .noSymbol
  | some top, some a =>
    match top.action? m.table a with
    | none => s.reject symbols s!"no action for state {top.text} on '{a.name}'"
    | some .accept =>
      if s.cursor + 1 = symbols.length then s.accept symbols
      else s.reject symbols s!"end marker at position {s.cursor} before the end of input"
    | some (.shift target) => s.shift symbols a target
    | some (.reduce id) =>
      match m.grammar.production? id with
      | none => s.raise (.noProduction id)
      | some p => s.reduce symbols m.table a p

def pass (m : Machine) (s : Loop) : Loop :=
  match m.limit with
  | none => s.step symbols m
  | some limit =>
    if limit ≤ s.steps.length then s.reject symbols s!"step limit of {limit} exceeded" else s.step symbols m

def advance (m : Machine) : Nat → Loop → Loop
  | 0, s => s
  | n + 1, s => if s.outcome.isSome then s else advance m n (s.pass symbols m)

end

end Loop

end CanonicalLR
