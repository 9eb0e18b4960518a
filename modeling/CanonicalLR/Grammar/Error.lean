import CanonicalLR.Text.Blank

/-! # What can be wrong with a grammar text

Every error but the last names the line that is at fault, by its number and its text. `kind` sorts
the errors into classes, and `message` has the wording.
-/
namespace CanonicalLR

inductive GrammarErrorKind where
  | general
  | lineForm
  | symbol
  | empty
deriving DecidableEq

def GrammarErrorKind.code : GrammarErrorKind → String
  | general => "grammar_error"
  | lineForm => "grammar_syntax_error"
  | symbol => "invalid_symbol"
  | empty => "empty_grammar"

inductive GrammarError where
  | badFormat (number : Nat) (line : String)
  | epsilonNotAlone (number : Nat) (line : String)
  | invalidSymbol (number : Nat) (line : String) (symbol : String)
  | noProductions
deriving DecidableEq

namespace GrammarError

def kind : GrammarError → GrammarErrorKind
  | badFormat .. => .lineForm
  | epsilonNotAlone .. => .lineForm
  | invalidSymbol .. => .symbol
  | noProductions => .empty

def message : GrammarError → String
  | badFormat number line => s!"Invalid production format on line {number}: {Text.trimmed line}"
  | epsilonNotAlone number _ => s!"'ε' must appear alone on the right-hand side (line {number})"
  | invalidSymbol number _ symbol => s!"Invalid symbol in production on line {number}: {symbol}"
  | noProductions => "Grammar cannot be empty"

/-- Zero if no line is at fault. -/
def lineNumber : GrammarError → Nat
  | badFormat number _ => number
  | epsilonNotAlone number _ => number
  | invalidSymbol number .. => number
  | noProductions => 0

def line : GrammarError → String
  | badFormat _ line => line
  | epsilonNotAlone _ line => line
  | invalidSymbol _ line _ => line
  | noProductions => ""

end GrammarError

end CanonicalLR
