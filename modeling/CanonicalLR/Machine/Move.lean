import CanonicalLR.Grammar
import CanonicalLR.Table
import CanonicalLR.Tree

/-! # Moves of the shift-reduce machine

A configuration is a stack of frames over the state 0, with the symbols still to read. A frame holds a
symbol, the state entered over it and the tree built for it, so that the three stay together. `move`
gives the only move that a table allows: on to another configuration, or to a verdict. A table that
does not fit its grammar or input can also let the machine fail.
-/
namespace CanonicalLR

structure Frame where
  symbol : Symbol
  state : Int
  tree : Tree

/-- What is visible of a frame besides its tree. -/
abbrev Mark := Symbol × Int

def Frame.mark (f : Frame) : Mark := (f.symbol, f.state)

/-- The top frame comes first; `shifted` counts the symbols already read. -/
structure Configuration where
  frames : List Frame
  shifted : Nat
  input : List Symbol

inductive Rejection where
  | noAction (state : Int) (symbol : Symbol)
  | earlyEnd (position : Nat)
  | underflow (production : Production)
  | noGoto (state : Int) (symbol : Symbol)
  | cycle (state : Int) (symbol : Symbol)
  | stepLimit (limit : Int)
deriving DecidableEq

def Rejection.message : Rejection → String
  | noAction state symbol => s!"no action for state {state} on '{symbol.name}'"
  | earlyEnd position => s!"end marker at position {position} before the end of input"
  | underflow production => s!"stack underflow reducing by {production.text}"
  | noGoto state symbol => s!"no goto for state {state} on '{symbol.name}'"
  | cycle state symbol => s!"reduce cycle in state {state} on '{symbol.name}'"
  | stepLimit limit => s!"step limit of {limit} exceeded"

inductive Fault where
  | unknownProduction (id : Int)
  | inputExhausted
deriving DecidableEq

def Fault.message : Fault → String
  | unknownProduction id => toString id
  | inputExhausted => "list index out of range"

inductive Move where
  | shift (symbol : Symbol) (target : Int) (next : Configuration)
  | reduce (production : Production) (target : Int) (next : Configuration)
  | accept
  | reject (reason : Rejection)
  | fail (fault : Fault)

def topState : List Frame → Int
  | [] => 0
  | f :: _ => f.state

namespace Configuration

/-- The tokens are read as terminals, whatever their names, and the end marker follows them. -/
def initial (tokens : List String) : Configuration :=
  ⟨[], 0, tokens.map Symbol.terminal ++ [.endMarker]⟩

def marks (c : Configuration) : List Mark := c.frames.map Frame.mark

/-- The marks behind their number, which already tells most stacks apart. -/
def outline (c : Configuration) : Nat × List Mark := (c.frames.length, c.marks)

theorem outline_eq_iff {c d : Configuration} : c.outline = d.outline ↔ c.marks = d.marks := by
  constructor
  · intro h
    exact congrArg Prod.snd h
  · intro h
    have hlength : c.marks.length = d.marks.length := congrArg List.length h
    simp only [marks, List.length_map] at hlength
    exact Prod.ext hlength h

def shift (c : Configuration) (a : Symbol) (target : Int) (rest : List Symbol) : Configuration :=
  ⟨⟨a, target, .leaf a.name⟩ :: c.frames, c.shifted + 1, rest⟩

/-- The frames of the right side become the children of a new node, the deepest frame first. -/
def reduce (c : Configuration) (p : Production) (target : Int) : Configuration :=
  let children := (c.frames.take p.rhs.length).reverse.map Frame.tree
  ⟨⟨p.lhs, target, .branch p.lhs.name children⟩ :: c.frames.drop p.rhs.length, c.shifted, c.input⟩

def reduction (g : Grammar) (t : Table) (c : Configuration) (id : Int) : Move :=
  match g.production? id with
  | none => .fail (.unknownProduction id)
  | some p =>
    if c.frames.length < p.rhs.length then .reject (.underflow p)
    else
      let exposed := topState (c.frames.drop p.rhs.length)
      match t.goto? exposed p.lhs with
      | none => .reject (.noGoto exposed p.lhs)
      | some target => .reduce p target (c.reduce p target)

def move (g : Grammar) (t : Table) (c : Configuration) : Move :=
  match c.input with
  | [] => .fail .inputExhausted
  | a :: rest =>
    match t.action? (topState c.frames) a with
    | none => .reject (.noAction (topState c.frames) a)
    | some (.shift target) => .shift a target (c.shift a target rest)
    | some (.reduce id) => c.reduction g t id
    | some .accept => if rest.isEmpty then .accept else .reject (.earlyEnd c.shifted)

end Configuration

end CanonicalLR
