import CanonicalLR.Collection.Sorted
import CanonicalLR.FirstSet
import CanonicalLR.Item

/-! # Closure and GOTO

An item set is a list of items in the order in which they were found. `closure` adds, for every item
that waits for a nonterminal, the productions of that nonterminal with every lookahead that can
follow; `goto` moves the dot over a symbol and closes the result.
-/
namespace CanonicalLR

abbrev ItemSet := List Item

namespace ItemSet

/-- A text of the set that does not depend on the order of its items. -/
def signature (items : ItemSet) : String :=
  String.intercalate "|" (sort (fun a b => decide (a ≤ b)) (items.map Item.text))

/-- The items that closure did not add. -/
def kernel (items : ItemSet) : ItemSet :=
  items.filter fun i => 0 < i.dot || i.production.id = 0

def label (items : ItemSet) : String :=
  String.intercalate "\n" (items.map Item.text)

/-- The symbols after a dot, in order of first appearance. -/
def nextSymbols (items : ItemSet) : List Symbol :=
  Distinct.ofList (items.filterMap Item.next?)

/-- The items that wait for a symbol, with the dot moved over it. -/
def advanceOver (items : ItemSet) (X : Symbol) : ItemSet :=
  (items.filter (·.next? = some X)).map Item.advance

end ItemSet

/-- What the closure of item sets asks of a grammar, found once for many sets. -/
structure Predictor where
  productions : List Production
  terminals : List Symbol
  facts : FirstFacts

namespace Predictor

def productionsFor (P : Predictor) (lhs : Symbol) : List Production :=
  P.productions.filter (·.lhs = lhs)

/-- What can follow the nonterminal after the dot, in the order of the terminals. -/
def lookaheads (P : Predictor) (i : Item) : List Symbol :=
  let found := (P.facts.ofSequence (i.production.rhs.drop (i.dot + 1) ++ [i.lookahead])).filter (· ≠ .epsilon)
  P.terminals.filter (· ∈ found) ++ found.filter (· ∉ P.terminals)

def predictions (P : Predictor) (i : Item) : ItemSet :=
  match i.next? with
  | none => []
  | some X =>
    if X.isNonterminal then
      let following := P.lookaheads i
      (P.productionsFor X).flatMap fun p => following.map fun a => ⟨p, 0, a⟩
    else []

theorem mem_predictions {P : Predictor} {i j : Item} :
    j ∈ P.predictions i ↔ ∃ X, i.next? = some X ∧ X.isNonterminal = true ∧
      j.production ∈ P.productionsFor X ∧ j.dot = 0 ∧ j.lookahead ∈ P.lookaheads i := by
  unfold predictions
  cases i.next? with
  | none => simp
  | some X =>
    cases hX : X.isNonterminal with
    | false => simp [hX]
    | true =>
      simp only [hX, if_true, List.mem_flatMap, List.mem_map]
      constructor
      · rintro ⟨p, hp, a, ha, rfl⟩
        exact ⟨X, rfl, hX, hp, rfl, ha⟩
      · rintro ⟨Y, hY, -, hp, hdot, ha⟩
        cases hY
        obtain ⟨p, dot, a⟩ := j
        subst hdot
        exact ⟨p, hp, a, ha, rfl⟩

def closurePass (P : Predictor) (items : ItemSet) : ItemSet :=
  Distinct.extend items (items.flatMap P.predictions)

theorem mem_closurePass {P : Predictor} {items : ItemSet} {j : Item} :
    j ∈ P.closurePass items ↔ j ∈ items ∨ ∃ i ∈ items, j ∈ P.predictions i := by
  simp [closurePass, Distinct.mem_extend]

/-- Each pass but the last adds a production with a terminal or with a lookahead given before. -/
def closure (P : Predictor) (items : ItemSet) : ItemSet :=
  saturate P.closurePass
    (P.productions.length * (P.terminals.length + items.length) + 1) (Distinct.ofList items)

def goto (P : Predictor) (items : ItemSet) (X : Symbol) : ItemSet :=
  P.closure (items.advanceOver X)

end Predictor

namespace Grammar

def predictor (g : Grammar) : Predictor := ⟨g.productions, g.terminals, g.firstFacts⟩

def closure (g : Grammar) (items : ItemSet) : ItemSet := g.predictor.closure items

def goto (g : Grammar) (items : ItemSet) (X : Symbol) : ItemSet := g.predictor.goto items X

end Grammar

end CanonicalLR
