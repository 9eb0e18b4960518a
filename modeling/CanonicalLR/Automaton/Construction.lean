import CanonicalLR.Automaton

/-! # The canonical collection

States are explored in the order of their discovery, so they are numbered breadth first. For every
symbol after a dot the target is the state with the same signature, or a new one. Every step gives an
edge, whether its target is new or not.
-/
namespace CanonicalLR

/-- An item set with its signature at hand. -/
structure SignedSet where
  items : ItemSet
  signature : String
  signature_eq : signature = items.signature
deriving DecidableEq

def ItemSet.signed (items : ItemSet) : SignedSet := ⟨items, items.signature, rfl⟩

/-- The item sets found so far, each at the position of its number, and the edges between them. -/
structure Exploration where
  sets : List SignedSet
  edges : List Edge
deriving DecidableEq

namespace Exploration

def locate? (found : Exploration) (set : SignedSet) : Option Nat :=
  found.sets.findIdx? (·.signature = set.signature)

/-- An edge to a known set, or to the set put at the end. -/
def connect (found : Exploration) (source : Nat) (X : Symbol) (set : SignedSet) : Exploration :=
  match found.locate? set with
  | some n => ⟨found.sets, found.edges ++ [⟨source, n, X⟩]⟩
  | none => ⟨found.sets ++ [set], found.edges ++ [⟨source, found.sets.length, X⟩]⟩

def toAutomaton (found : Exploration) : Automaton where
  states := found.sets.zipIdx.map fun (set, n) => ⟨n, set.items⟩
  edges := found.edges
  start := 0

end Exploration

namespace Predictor

def visit (P : Predictor) (n : Nat) (items : ItemSet) (found : Exploration) : Exploration :=
  items.nextSymbols.foldl (fun found X => found.connect n X (P.goto items X).signed) found

/-- Visits the sets from number `n` on, at most `fuel` of them. -/
def explore (P : Predictor) : Nat → Nat → Exploration → Exploration
  | 0, _, found => found
  | fuel + 1, n, found =>
    match found.sets[n]? with
    | none => found
    | some set => P.explore fuel (n + 1) (P.visit n set.items found)

end Predictor

namespace Grammar

def startItem (g : Grammar) : Item := ⟨g.augmentedProduction, 0, .endMarker⟩

/-- The number of items over the productions and terminals of the grammar. -/
def itemCount (g : Grammar) : Nat :=
  g.productions.foldr (fun p n => (p.rhs.length + 1) * g.terminals.length + n) 0

/-- There are no more item sets to visit than sets of items. -/
def exploration (g : Grammar) : Exploration :=
  let P := g.predictor
  P.explore (Nat.pow 2 g.itemCount + 1) 0 ⟨[(P.closure [g.startItem]).signed], []⟩

def automaton (g : Grammar) : Automaton := g.exploration.toAutomaton

end Grammar

end CanonicalLR
