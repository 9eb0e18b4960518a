/-! # Parse trees

A node has a label, a mark that says whether it stands for a terminal, and its children. The text of
a tree puts every nonterminal node into brackets: `(S a (B))`.
-/
namespace CanonicalLR

inductive Tree where
  | node (label : String) (isTerminal : Bool) (children : List Tree)
deriving Inhabited

namespace Tree

def leaf (label : String) : Tree := node label true []

def branch (label : String) (children : List Tree) : Tree := node label false children

def label : Tree → String
  | node label _ _ => label

def isTerminal : Tree → Bool
  | node _ isTerminal _ => isTerminal

def children : Tree → List Tree
  | node _ _ children => children

mutual

def text : Tree → String
  | node label isTerminal children =>
    if isTerminal then label else s!"({label}{textAll children})"

/-- The texts of some trees, each behind a space. -/
def textAll : List Tree → String
  | [] => ""
  | t :: rest => " " ++ t.text ++ textAll rest

end

end Tree

end CanonicalLR
