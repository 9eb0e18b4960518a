import CanonicalLR.Collection.Distinct
import CanonicalLR.Symbol
import CanonicalLR.Text.Quoted

/-! # Context-free grammars

A grammar is a start symbol and a list of rules. Everything else is derived from these two: the
productions, which are the rules numbered from one behind the production 0 that introduces a fresh
start symbol, and the terminals and nonterminals in order of first appearance.
-/
namespace CanonicalLR

structure Rule where
  lhs : Symbol
  rhs : List Symbol
deriving DecidableEq

structure Production where
  id : Nat
  lhs : Symbol
  rhs : List Symbol
deriving DecidableEq

namespace Production

def isEpsilon (p : Production) : Bool := p.rhs.isEmpty

def text (p : Production) : String :=
  s!"{p.lhs.name} -> {if p.isEpsilon then Symbol.epsilon.name else spaced p.rhs}"

end Production

structure Grammar where
  start : Symbol
  rules : List Rule
deriving DecidableEq

namespace Grammar

/-- The name ends in an apostrophe, which no written name contains. -/
def augmentedStart (g : Grammar) : Symbol := .nonterminal (g.start.name ++ "'")

def augmentedProduction (g : Grammar) : Production := ⟨0, g.augmentedStart, [g.start]⟩

def productions (g : Grammar) : List Production :=
  g.augmentedProduction :: (g.rules.zipIdx 1).map fun (rule, id) => ⟨id, rule.lhs, rule.rhs⟩

def writtenTerminals (g : Grammar) : List Symbol :=
  Distinct.ofList (g.rules.flatMap fun rule => rule.rhs.filter Symbol.isTerminal)

def writtenNonterminals (g : Grammar) : List Symbol :=
  Distinct.ofList (g.rules.flatMap fun rule => rule.lhs :: rule.rhs.filter Symbol.isNonterminal)

def terminals (g : Grammar) : List Symbol := g.writtenTerminals ++ [.endMarker]

def nonterminals (g : Grammar) : List Symbol := g.augmentedStart :: g.writtenNonterminals

def productionsFor (g : Grammar) (lhs : Symbol) : List Production :=
  g.productions.filter (·.lhs = lhs)

/-- The production with a given number. Numbers in a table may be any integers. -/
def production? (g : Grammar) (id : Int) : Option Production :=
  g.productions.find? fun p => (p.id : Int) = id

/-- The symbol with a given name, a terminal before a nonterminal. -/
def symbol? (g : Grammar) (name : String) : Option Symbol :=
  (g.terminals ++ g.nonterminals).find? (·.name = name)

def text (g : Grammar) : String :=
  String.intercalate "\n" ([
    s!"Start Symbol: {g.augmentedStart.name}",
    s!"Terminals: {Text.quotedList (g.terminals.map Symbol.name)}",
    s!"Non-terminals: {Text.quotedList (g.nonterminals.map Symbol.name)}",
    "Productions:"] ++ g.productions.map fun p => s!"  {p.id}. {p.text}")

end Grammar

end CanonicalLR
