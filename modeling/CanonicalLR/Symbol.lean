/-! # Grammar symbols

A symbol is a name with a kind. Two names are reserved: `$` ends every input, and `ε` stands for the
empty string in FIRST sets. Neither can be written in a grammar as a symbol of its own.
-/
namespace CanonicalLR

inductive SymbolKind where
  | terminal
  | nonterminal
  | epsilon
deriving DecidableEq

def SymbolKind.name : SymbolKind → String
  | terminal => "terminal"
  | nonterminal => "nonterminal"
  | epsilon => "epsilon"

structure Symbol where
  kind : SymbolKind
  name : String
deriving DecidableEq

namespace Symbol

def terminal (name : String) : Symbol := ⟨.terminal, name⟩

def nonterminal (name : String) : Symbol := ⟨.nonterminal, name⟩

def endMarker : Symbol := terminal "$"

def epsilon : Symbol := ⟨.epsilon, "ε"⟩

def isTerminal (s : Symbol) : Bool := s.kind = .terminal

def isNonterminal (s : Symbol) : Bool := s.kind = .nonterminal

def isEpsilon (s : Symbol) : Bool := s.kind = .epsilon

theorem eq_terminal_of_isTerminal {s : Symbol} (h : s.isTerminal = true) : s = terminal s.name := by
  obtain ⟨kind, name⟩ := s
  simp only [isTerminal, decide_eq_true_eq] at h
  subst h
  rfl

theorem eq_nonterminal_of_isNonterminal {s : Symbol} (h : s.isNonterminal = true) :
    s = nonterminal s.name := by
  obtain ⟨kind, name⟩ := s
  simp only [isNonterminal, decide_eq_true_eq] at h
  subst h
  rfl

end Symbol

/-- The names of some symbols, with single spaces between them. -/
def spaced (symbols : List Symbol) : String :=
  String.intercalate " " (symbols.map Symbol.name)

end CanonicalLR
