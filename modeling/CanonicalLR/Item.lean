import CanonicalLR.Grammar

/-! # LR(1) items

An item is a production with a position in its right side, marked by a dot, and a lookahead. The dot
may stand past the end; it is then drawn at the end.
-/
namespace CanonicalLR

structure Item where
  production : Production
  dot : Nat
  lookahead : Symbol
deriving DecidableEq

namespace Item

def next? (i : Item) : Option Symbol := i.production.rhs[i.dot]?

def isComplete (i : Item) : Bool := i.production.rhs.length ≤ i.dot

def advance (i : Item) : Item := { i with dot := i.dot + 1 }

def dottedNames (i : Item) : List String :=
  let names := i.production.rhs.map Symbol.name
  names.take i.dot ++ "•" :: names.drop i.dot

def text (i : Item) : String :=
  let body := String.intercalate " " i.dottedNames
  s!"{i.production.lhs.name} -> {body}, {i.lookahead.name}"

/-- Items are ordered by production, then dot, then lookahead. -/
def precedes (i j : Item) : Bool :=
  i.production.id < j.production.id || i.production.id = j.production.id &&
    (i.dot < j.dot || i.dot = j.dot && i.lookahead.name ≤ j.lookahead.name)

theorem next?_eq_none_iff {i : Item} : i.next? = none ↔ i.isComplete = true := by
  simp [next?, isComplete]

end Item

end CanonicalLR
