import CanonicalLR.Machine.Trace

/-! # Runs of the shift-reduce machine

A pass of the machine makes one move and records it. Two guards end a run that would not end by
itself: a limit on the number of recorded steps, and the rejection of a stack that a reduction makes
again before the next shift. The second guard does not end every endless run: a stack may also grow
for ever. `advance n` makes at most `n` passes, and what has not ended by then is still under way.
-/
namespace CanonicalLR

inductive Ending where
  | accepted (tree : Option Tree)
  | rejected (reason : Rejection) (position : Nat)
  | failed (fault : Fault)

/-- `seen` holds the outlines of the stacks made by reductions since the last shift. -/
structure Run where
  configuration : Configuration
  seen : List (Nat × List Mark)
  steps : List Step
  ending : Option Ending

structure Machine where
  grammar : Grammar
  table : Table
  limit : Option Int

namespace Run

def start (tokens : List String) : Run := ⟨.initial tokens, [], [], none⟩

/-- A step recorded in the present configuration. -/
def record (r : Run) (event : Event) : List Step :=
  r.steps ++ [⟨r.steps.length + 1, r.configuration.marks, r.configuration.input, event⟩]

def reject (r : Run) (reason : Rejection) : Run :=
  { r with
    steps := r.record (.reject reason)
    ending := some (.rejected reason r.configuration.shifted) }

def accept (r : Run) : Run :=
  { r with
    steps := r.record .accept
    ending := some (.accepted (r.configuration.frames.head?.map Frame.tree)) }

def fail (r : Run) (fault : Fault) : Run :=
  { r with ending := some (.failed fault) }

def shift (r : Run) (a : Symbol) (target : Int) (next : Configuration) : Run :=
  { r with configuration := next, seen := [], steps := r.record (.shift a target) }

def reduce (r : Run) (p : Production) (target : Int) (next : Configuration) : Run :=
  { r with configuration := next, steps := r.record (.reduce p target) }

/-- A reduction keeps the input, so the symbol on which it was made still comes first. -/
def reduceGuarded (r : Run) (p : Production) (target : Int) (next : Configuration) : Run :=
  let reduced := r.reduce p target next
  if next.outline ∈ r.seen then reduced.reject (.cycle target (next.input.headD .endMarker))
  else { reduced with seen := next.outline :: r.seen }

def accepted (r : Run) : Bool :=
  match r.ending with
  | some (.accepted _) => true
  | _ => false

def tree? (r : Run) : Option Tree :=
  match r.ending with
  | some (.accepted tree) => tree
  | _ => none

/-- Empty unless the run was rejected. -/
def message (r : Run) : String :=
  match r.ending with
  | some (.rejected reason _) => reason.message
  | _ => ""

/-- The number of symbols read before a rejection, and -1 without one. -/
def position (r : Run) : Int :=
  match r.ending with
  | some (.rejected _ position) => position
  | _ => -1

def fault? (r : Run) : Option Fault :=
  match r.ending with
  | some (.failed fault) => some fault
  | _ => none

def trace (r : Run) : List String := r.steps.map Step.text

end Run

namespace Machine

def step (m : Machine) (r : Run) : Run :=
  match r.configuration.move m.grammar m.table with
  | .shift a target next => r.shift a target next
  | .reduce p target next => r.reduceGuarded p target next
  | .accept => r.accept
  | .reject reason => r.reject reason
  | .fail fault => r.fail fault

/-- The limit is checked before the move, against the steps recorded so far. -/
def pass (m : Machine) (r : Run) : Run :=
  match m.limit with
  | none => m.step r
  | some limit => if limit ≤ r.steps.length then r.reject (.stepLimit limit) else m.step r

def advance (m : Machine) : Nat → Run → Run
  | 0, r => r
  | n + 1, r => if r.ending.isSome then r else m.advance n (m.pass r)

theorem advance_of_ended (m : Machine) {r : Run} (h : r.ending.isSome = true) (n : Nat) :
    m.advance n r = r := by
  cases n with
  | zero => rfl
  | succ n => simp [advance, h]

theorem advance_add (m : Machine) (a b : Nat) (r : Run) :
    m.advance (a + b) r = m.advance b (m.advance a r) := by
  induction a generalizing r with
  | zero => simp [advance]
  | succ a ih =>
    rw [Nat.succ_add]
    by_cases h : r.ending.isSome = true
    · rw [advance_of_ended m h, advance_of_ended m h, advance_of_ended m h]
    · simp only [advance, h, if_false, Bool.false_eq_true]
      exact ih (m.pass r)

/-- Every pass that does not end the run records one step, so a limit allows one pass more than
itself. Without a limit the number is beyond the length of any run that can be waited for. -/
def passes (m : Machine) : Nat :=
  match m.limit with
  | some limit => limit.toNat + 1
  | none => Nat.pow 2 62

def run (m : Machine) (tokens : List String) : Run :=
  m.advance m.passes (.start tokens)

end Machine

/-- The text of a verdict on an input. -/
def verdictText (accepted : Bool) (tree : Option Tree) (message : String) (position : Int) : String :=
  if accepted then s!"Parse successful. Tree: {(tree.map Tree.text).getD noTree}"
  else s!"Parse failed: {message} at position {position}"
where
  noTree := "None"

def Run.text (r : Run) : String :=
  verdictText r.accepted r.tree? r.message r.position

end CanonicalLR
