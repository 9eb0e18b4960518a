import CanonicalLR.Tree

/-! # Reading a tree from its text

The text is cut into brackets, spaces and the names between them. A name alone is a leaf. Behind an opening bracket
stands the label of a node, then every child behind a space, then the closing bracket; the nodes whose brackets are
still open wait on a stack.
-/
namespace CanonicalLR.Tree

inductive Part where
  | opening
  | closing
  | space
  | name (word : List Char)
deriving DecidableEq

def mark? : Char → Option Part
  | '(' => some .opening
  | ')' => some .closing
  | ' ' => some .space
  | _ => none

def parts : List Char → List Part
  | [] => []
  | c :: rest =>
    match mark? c, parts rest with
    | some mark, ps => mark :: ps
    | none, .name word :: ps => .name (c :: word) :: ps
    | none, ps => .name [c] :: ps

/-- A node whose bracket is still open, with the children read so far, the last one first. -/
structure Opened where
  label : String
  children : List Tree

namespace Opened

def push (o : Opened) (t : Tree) : Opened := ⟨o.label, t :: o.children⟩

def close (o : Opened) : Tree := branch o.label o.children.reverse

end Opened

/-- Reads on behind the last part of an open node, which stands inside others, the nearest one first. -/
def readInside : Opened → List Opened → List Part → Option Tree
  | o, [], [.closing] => some o.close
  | o, next :: outer, .closing :: rest => readInside (next.push o.close) outer rest
  | o, outer, .space :: .name word :: rest => readInside (o.push (leaf (String.ofList word))) outer rest
  | o, outer, .space :: .opening :: .name word :: rest => readInside ⟨String.ofList word, []⟩ (o :: outer) rest
  | _, _, _ => none

def read? (text : String) : Option Tree :=
  match parts text.toList with
  | [.name word] => some (leaf (String.ofList word))
  | .opening :: .name word :: rest => readInside ⟨String.ofList word, []⟩ [] rest
  | _ => none

end CanonicalLR.Tree
