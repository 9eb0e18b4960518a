import CanonicalLR.Collection.Saturation
import CanonicalLR.Grammar

/-! # FIRST sets

FIRST of a sequence of symbols holds the terminals that its derivations can begin with, and `ε` if
the sequence can vanish. The sets of the nonterminals are found together, as the least facts that
every production respects: a pass over the productions adds what they ask for, in place, until a
pass adds nothing.
-/
namespace CanonicalLR

/-- The pair `(A, x)` says that `x` is in FIRST of the nonterminal `A`. -/
abbrev FirstFacts := List (Symbol × Symbol)

namespace FirstFacts

def of (facts : FirstFacts) (A : Symbol) : List Symbol :=
  (facts.filter (·.1 = A)).map Prod.snd

theorem mem_of {facts : FirstFacts} {A x : Symbol} : x ∈ facts.of A ↔ (A, x) ∈ facts := by
  simp [of]

/-- Any symbol that is no nonterminal begins its derivations itself. -/
def ofSequence (facts : FirstFacts) : List Symbol → List Symbol
  | [] => [.epsilon]
  | X :: rest =>
    if X.isNonterminal then
      if .epsilon ∈ facts.of X then
        Distinct.extend ((facts.of X).filter (· ≠ .epsilon)) (ofSequence facts rest)
      else facts.of X
    else [X]

def add (facts : FirstFacts) (A : Symbol) (xs : List Symbol) : FirstFacts :=
  let known := facts.of A
  facts ++ (Distinct.ofList (xs.filter (· ∉ known))).map (A, ·)

theorem mem_add {facts : FirstFacts} {A B x : Symbol} {xs : List Symbol} :
    (B, x) ∈ facts.add A xs ↔ (B, x) ∈ facts ∨ B = A ∧ x ∈ xs := by
  simp only [add, List.mem_append, List.mem_map, Distinct.mem_ofList, List.mem_filter, mem_of,
    decide_eq_true_eq, Prod.mk.injEq]
  constructor
  · rintro (h | ⟨y, ⟨hy, -⟩, rfl, rfl⟩)
    · exact Or.inl h
    · exact Or.inr ⟨rfl, hy⟩
  · rintro (h | ⟨rfl, hx⟩)
    · exact Or.inl h
    · by_cases known : (B, x) ∈ facts
      · exact Or.inl known
      · exact Or.inr ⟨x, ⟨hx, known⟩, rfl, rfl⟩

end FirstFacts

namespace Grammar

def applyProduction (facts : FirstFacts) (p : Production) : FirstFacts :=
  facts.add p.lhs (facts.ofSequence p.rhs)

/-- The productions are applied forwards and then backwards, so that a long chain of them settles in
few passes whichever way it is written. -/
def firstPass (g : Grammar) (facts : FirstFacts) : FirstFacts :=
  (g.productions ++ g.productions.reverse).foldl applyProduction facts

/-- Each pass but the last adds a pair of a nonterminal with `ε` or with a terminal other than `$`. -/
def firstFacts (g : Grammar) : FirstFacts :=
  saturate g.firstPass (g.nonterminals.length * g.terminals.length + 1) []

def first (g : Grammar) (symbols : List Symbol) : List Symbol :=
  g.firstFacts.ofSequence symbols

def firstSets (g : Grammar) : List (Symbol × List Symbol) :=
  let facts := g.firstFacts
  g.nonterminals.map fun A => (A, facts.of A)

end Grammar

end CanonicalLR
