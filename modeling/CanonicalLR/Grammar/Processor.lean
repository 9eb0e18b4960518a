import CanonicalLR.Collection.Entries
import CanonicalLR.Grammar.Reader

/-! # Processors

A processor reads one text after the other. It gives a name its symbol when the name first comes up, and keeps
the terminals and the nonterminals in this order. A reading starts by forgetting the last text, and one that
fails leaves what it has found until then.
-/
namespace CanonicalLR

/-- A grammar with its lists at hand. -/
structure Grammar.Record where
  productions : List Production
  terminals : List Symbol
  nonterminals : List Symbol
  start : Symbol
deriving DecidableEq

def Grammar.record (g : Grammar) : Record := ⟨g.productions, g.terminals, g.nonterminals, g.augmentedStart⟩

structure Processor where
  symbols : Entries String Symbol
  terminals : List Symbol
  nonterminals : List Symbol

/-- A reading may fail, and the processor goes on from where it failed. -/
abbrev Reading := ExceptT GrammarError (StateM Processor)

namespace Processor

def empty : Processor := ⟨.empty, [], []⟩

def add (w : Processor) (X : Symbol) : Processor :=
  let symbols := w.symbols.put X.name X
  if X.isTerminal then ⟨symbols, w.terminals ++ [X], w.nonterminals⟩
  else ⟨symbols, w.terminals, w.nonterminals ++ [X]⟩

/-- The symbol with the name, of whatever kind it has been made before. -/
def classify (kind : SymbolKind) (name : String) : Reading Symbol := do
  let w ← get
  match w.symbols.get? name with
  | some X => return X
  | none =>
    set (w.add ⟨kind, name⟩)
    return ⟨kind, name⟩

def readSymbol (number : Nat) (line : String) (word : List Char) : Reading Symbol :=
  if Grammar.isTerminalName word then classify .terminal (String.ofList word)
  else if Grammar.isNonterminalName word then classify .nonterminal (String.ofList word)
  else throw (.invalidSymbol number line (String.ofList word))

def readSymbols (number : Nat) (line : String) : List (List Char) → Reading (List Symbol)
  | [] => return []
  | word :: rest => do
    let symbol ← readSymbol number line word
    let symbols ← readSymbols number line rest
    return symbol :: symbols

/-- The left side has its symbol before the right side is looked at. -/
def readRule (number : Nat) (line : List Char) : Reading Rule :=
  match Grammar.splitRule line with
  | none => throw (.badFormat number (String.ofList line))
  | some (lhs, body) => do
    let lhs ← classify .nonterminal (String.ofList lhs)
    if body = [['ε']] then return ⟨lhs, []⟩
    else if body.contains ['ε'] then throw (.epsilonNotAlone number (String.ofList line))
    else
      let rhs ← readSymbols number (String.ofList line) body
      return ⟨lhs, rhs⟩

def readRules : List (List Char × Nat) → Reading (List Rule)
  | [] => return []
  | (line, number) :: rest => do
    let rule ← readRule number line
    let rules ← readRules rest
    return rule :: rules

def read (text : String) : Reading Grammar.Record := do
  set empty
  match ← readRules (Grammar.numberedLines text) with
  | [] => throw .noProductions
  | rule :: rest =>
    let g : Grammar := ⟨rule.lhs, rule :: rest⟩
    let w ← get
    return ⟨g.productions, w.terminals ++ [.endMarker], g.augmentedStart :: w.nonterminals, g.augmentedStart⟩

/-- What comes of a text that the processor reads next. -/
def result (w : Processor) (text : String) : Except GrammarError Grammar.Record := ((read text).run.run w).1

/-- The processor after it has read a text, or failed to. -/
def next (w : Processor) (text : String) : Processor := ((read text).run.run w).2

end Processor

end CanonicalLR
