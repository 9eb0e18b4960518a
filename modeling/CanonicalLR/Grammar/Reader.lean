import CanonicalLR.Grammar
import CanonicalLR.Grammar.Error
import CanonicalLR.Text.Blank
import CanonicalLR.Text.Lines

/-! # Reading a grammar

A grammar text has one rule a line, in the form `A -> X Y Z`, `A ->` or `A -> ε`; blank lines are
skipped and still counted. The left side of the first rule is the start symbol. The first line at
fault decides the error.

Names are in ASCII: a capital letter followed by letters and digits for a nonterminal, small letters
and digits for a terminal. So no name has both kinds.
-/
namespace CanonicalLR.Grammar

def isTerminalName : List Char → Bool
  | [] => false
  | c :: rest => (c :: rest).all fun c => c.isLower || c.isDigit

def isNonterminalName : List Char → Bool
  | [] => false
  | c :: rest => c.isUpper && rest.all Char.isAlphanum

/-- The left side and the words after the arrow, of a line that has both. -/
def splitRule (line : List Char) : Option (List Char × List (List Char)) :=
  match line.dropWhile Text.isBlank with
  | [] => none
  | c :: rest =>
    if c.isUpper then
      match (rest.dropWhile Char.isAlphanum).dropWhile Text.isBlank with
      | '-' :: '>' :: body => some (c :: rest.takeWhile Char.isAlphanum, Text.words body)
      | _ => none
    else none

def readSymbol (number : Nat) (line : String) (word : List Char) : Except GrammarError Symbol :=
  if isTerminalName word then .ok (.terminal (String.ofList word))
  else if isNonterminalName word then .ok (.nonterminal (String.ofList word))
  else .error (.invalidSymbol number line (String.ofList word))

def readSymbols (number : Nat) (line : String) : List (List Char) → Except GrammarError (List Symbol)
  | [] => .ok []
  | word :: rest => do
    let symbol ← readSymbol number line word
    let symbols ← readSymbols number line rest
    return symbol :: symbols

def readRule (number : Nat) (line : List Char) : Except GrammarError Rule :=
  match splitRule line with
  | none => .error (.badFormat number (String.ofList line))
  | some (lhs, body) =>
    let lhs := Symbol.nonterminal (String.ofList lhs)
    if body = [['ε']] then .ok ⟨lhs, []⟩
    else if ['ε'] ∈ body then .error (.epsilonNotAlone number (String.ofList line))
    else do
      let rhs ← readSymbols number (String.ofList line) body
      return ⟨lhs, rhs⟩

def readRules : List (List Char × Nat) → Except GrammarError (List Rule)
  | [] => .ok []
  | (line, number) :: rest => do
    let rule ← readRule number line
    let rules ← readRules rest
    return rule :: rules

/-- The lines that are not blank, with their numbers counted from one over all lines. -/
def numberedLines (text : String) : List (List Char × Nat) :=
  ((Text.lines text.toList).zipIdx 1).filter fun (line, _) => !line.all Text.isBlank

def read (text : String) : Except GrammarError Grammar := do
  match ← readRules (numberedLines text) with
  | [] => .error .noProductions
  | rule :: rest => return ⟨rule.lhs, rule :: rest⟩

end CanonicalLR.Grammar
