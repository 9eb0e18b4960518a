import CanonicalLR.Machine.Move

/-! # Traces of runs

A step records the configuration in which something happens and what it is. Steps are numbered from
one. A trace entry is the text form of a step, with the stack from the bottom up.
-/
namespace CanonicalLR

structure TraceEntry where
  number : Int
  stack : List String
  input : List String
  action : String
  message : String
deriving DecidableEq

def TraceEntry.text (e : TraceEntry) : String :=
  let stack := String.intercalate " " e.stack
  let input := String.intercalate " " e.input
  let remark := if e.message.isEmpty then "" else s!" ({e.message})"
  s!"Step {e.number}: Stack=[{stack}] Input=[{input}] Action={e.action}{remark}"

inductive Event where
  | shift (symbol : Symbol) (target : Int)
  | reduce (production : Production) (target : Int)
  | accept
  | reject (reason : Rejection)
deriving DecidableEq

namespace Event

def action : Event → String
  | shift _ target => (Action.shift target).text
  | reduce production _ => (Action.reduce production.id).text
  | accept => Action.accept.text
  | reject _ => "error"

def message : Event → String
  | shift symbol target => s!"shift '{symbol.name}' and go to state {target}"
  | reduce production target => s!"reduce by {production.text}, goto state {target}"
  | accept => "input accepted"
  | reject reason => reason.message

end Event

/-- The marks are those of the stack, the top first. -/
structure Step where
  number : Nat
  marks : List Mark
  input : List Symbol
  event : Event
deriving DecidableEq

namespace Step

def stackTexts (marks : List Mark) : List String :=
  toString (0 : Int) :: marks.reverse.flatMap fun (symbol, state) => [symbol.name, toString state]

def entry (s : Step) : TraceEntry where
  number := s.number
  stack := stackTexts s.marks
  input := s.input.map Symbol.name
  action := s.event.action
  message := s.event.message

def text (s : Step) : String := s.entry.text

end Step

end CanonicalLR
