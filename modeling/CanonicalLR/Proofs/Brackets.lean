import CanonicalLR.Proofs.Postorder
import CanonicalLR.Tree.Reader

/-! # The text of a tree tells the tree

A tree is plain when no bracket and no space divides a label of it and its terminal nodes have no children. The reader
gives exactly the plain trees back, each from its own text alone. The machine builds plain trees: a label is the name
of a symbol that a rule can contain, and a terminal node is a leaf.
-/
namespace CanonicalLR

namespace Tree

variable {t u : Tree} {ts : List Tree} {o : Opened} {outer : List Opened} {c : Char} {word tail : List Char}
  {mark : Part} {ps : List Part}

@[simp] theorem text_leaf (label : String) : (leaf label).text = label := by
  simp [leaf, Tree.text]

@[simp] theorem text_branch (label : String) (children : List Tree) :
    (branch label children).text = "(" ++ label ++ textAll children ++ ")" := by
  simp [branch, Tree.text, toString]

@[simp] theorem textAll_nil : textAll [] = "" := by
  simp [textAll]

@[simp] theorem textAll_cons (t : Tree) (ts : List Tree) : textAll (t :: ts) = " " ++ t.text ++ textAll ts := by
  simp [textAll]

theorem textAll_append (ts us : List Tree) : textAll (ts ++ us) = textAll ts ++ textAll us := by
  induction ts with
  | nil => simp
  | cons t ts ih => simp [ih, String.append_assoc]

def IsLabel (word : List Char) : Prop := word ≠ [] ∧ ∀ c ∈ word, mark? c = none

inductive IsPlain : Tree → Prop
  | leaf {label : String} (isLabel : IsLabel label.toList) : IsPlain (.leaf label)
  | branch {label : String} {children : List Tree} (isLabel : IsLabel label.toList)
      (children_plain : ∀ t ∈ children, t.IsPlain) : IsPlain (.branch label children)

/-! ## From the tree to its text -/

/-- A name in front of the text ends there. -/
def Breaks (tail : List Char) : Prop := ∀ word ps, parts tail ≠ .name word :: ps

theorem parts_mark (h : mark? c = some mark) (tail : List Char) : parts (c :: tail) = mark :: parts tail := by
  rw [parts, h]

theorem breaks_nil : Breaks [] := fun _ _ h => nomatch h

theorem mark?_ne_name (h : mark? c = some mark) (word : List Char) : mark ≠ .name word := by
  unfold mark? at h
  split at h <;> cases h <;> nofun

theorem breaks_mark (h : mark? c = some mark) (tail : List Char) : Breaks (c :: tail) := by
  intro word ps hparts
  rw [parts_mark h] at hparts
  exact mark?_ne_name h word (List.cons.inj hparts).1

theorem parts_word (hword : IsLabel word) (htail : Breaks tail) : parts (word ++ tail) = .name word :: parts tail := by
  obtain ⟨hne, hsolid⟩ := hword
  induction word with
  | nil => exact absurd rfl hne
  | cons c word ih =>
    obtain ⟨hc, hword⟩ := List.forall_mem_cons.mp hsolid
    cases word with
    | nil =>
      rw [List.singleton_append, parts, hc]
      split
      next hmark => cases hmark
      next hname => exact absurd hname (htail _ _)
      next => rfl
    | cons d word => rw [List.cons_append, parts, hc, ih (List.cons_ne_nil _ _) hword]

/-- Wherever the text of the tree stands behind a space, the tree becomes the next child of the open node. -/
def ReadsInside (t : Tree) : Prop := ∀ (o : Opened) (outer : List Opened) (tail : List Char), Breaks tail →
  readInside o outer (parts (' ' :: (t.text.toList ++ tail))) = readInside (o.push t) outer (parts tail)

theorem breaks_textAll (ts : List Tree) (htail : Breaks tail) : Breaks ((textAll ts).toList ++ tail) := by
  cases ts with
  | nil => simpa using htail
  | cons t ts =>
    rw [textAll_cons, String.append_assoc, String.toList_append]
    exact breaks_mark rfl _

theorem readInside_textAll (hts : ∀ t ∈ ts, t.ReadsInside) (o : Opened) (outer : List Opened) (htail : Breaks tail) :
    readInside o outer (parts ((textAll ts).toList ++ tail)) =
      readInside ⟨o.label, ts.reverse ++ o.children⟩ outer (parts tail) := by
  induction ts generalizing o with
  | nil => simp
  | cons t ts ih =>
    obtain ⟨ht, hts⟩ := List.forall_mem_cons.mp hts
    have htext : (textAll (t :: ts)).toList ++ tail = ' ' :: (t.text.toList ++ ((textAll ts).toList ++ tail)) := by
      simp
    rw [htext, ht o outer _ (breaks_textAll ts htail), ih hts]
    simp [Opened.push]

theorem toList_text_branch (label : String) (children : List Tree) (tail : List Char) :
    (branch label children).text.toList ++ tail =
      '(' :: (label.toList ++ ((textAll children).toList ++ ')' :: tail)) := by
  simp

theorem breaks_closing (tail : List Char) : Breaks (')' :: tail) := breaks_mark rfl tail

theorem IsPlain.readsInside (h : t.IsPlain) : t.ReadsInside := by
  induction h with
  | leaf isLabel =>
    intro o outer tail htail
    rw [parts_mark rfl, text_leaf, parts_word isLabel htail, readInside, String.ofList_toList]
  | @branch label children isLabel children_plain ih =>
    intro o outer tail htail
    rw [toList_text_branch, parts_mark rfl, parts_mark rfl,
      parts_word isLabel (breaks_textAll children (breaks_closing tail)), readInside,
      readInside_textAll ih _ _ (breaks_closing tail), parts_mark rfl, readInside]
    simp [Opened.push, Opened.close]

theorem IsPlain.read?_text (h : t.IsPlain) : read? t.text = some t := by
  cases h with
  | @leaf label isLabel =>
    have hparts := parts_word isLabel breaks_nil
    rw [List.append_nil] at hparts
    simp [read?, hparts, parts]
  | @branch label children isLabel children_plain =>
    have hchildren := readInside_textAll (fun t ht => (children_plain t ht).readsInside) ⟨label, []⟩ []
      (breaks_closing [])
    have htext := toList_text_branch label children []
    rw [List.append_nil] at htext
    rw [read?, htext, parts_mark rfl, parts_word isLabel (breaks_textAll children (breaks_closing []))]
    simp only [String.ofList_toList]
    rw [hchildren, parts_mark rfl, parts, readInside]
    simp [Opened.close]

theorem IsPlain.eq_of_text_eq (ht : t.IsPlain) (hu : u.IsPlain) (h : t.text = u.text) : t = u := by
  have hread := ht.read?_text
  rw [h, hu.read?_text] at hread
  exact (Option.some.inj hread).symm

/-! ## From the text to the tree -/

namespace Part

def chars : Part → List Char
  | opening => ['(']
  | closing => [')']
  | space => [' ']
  | name word => word

def IsSound : Part → Prop
  | name word => IsLabel word
  | _ => True

end Part

theorem mark?_inverse (h : mark? c = some mark) : mark.chars = [c] ∧ mark.IsSound := by
  unfold mark? at h
  split at h <;> cases h <;> exact ⟨rfl, trivial⟩

/-- Cutting a text leaves nothing out, and the names between the marks are labels. -/
theorem parts_inverse (cs : List Char) : (parts cs).flatMap Part.chars = cs ∧ ∀ p ∈ parts cs, p.IsSound := by
  induction cs with
  | nil => exact ⟨rfl, fun _ h => nomatch h⟩
  | cons c cs ih =>
    obtain ⟨hchars, hsound⟩ := ih
    rw [parts]
    split
    next hmark =>
      obtain ⟨hmark, hmarkSound⟩ := mark?_inverse hmark
      refine ⟨?_, List.forall_mem_cons.mpr ⟨hmarkSound, hsound⟩⟩
      rw [List.flatMap_cons, hmark, hchars, List.singleton_append]
    next word ps hc hname =>
      rw [hname, List.flatMap_cons] at hchars
      rw [hname, List.forall_mem_cons] at hsound
      obtain ⟨⟨-, hword⟩, hps⟩ := hsound
      refine ⟨congrArg (c :: ·) hchars, List.forall_mem_cons.mpr ⟨?_, hps⟩⟩
      exact ⟨List.cons_ne_nil _ _, List.forall_mem_cons.mpr ⟨hc, hword⟩⟩
    next hc _ =>
      refine ⟨congrArg (c :: ·) hchars, List.forall_mem_cons.mpr ⟨?_, hsound⟩⟩
      exact ⟨List.cons_ne_nil _ _, List.forall_mem_singleton.mpr hc⟩

namespace Opened

def text (o : Opened) : String := "(" ++ o.label ++ textAll o.children.reverse

structure IsPlain (o : Opened) : Prop where
  isLabel : IsLabel o.label.toList
  children : ∀ t ∈ o.children, t.IsPlain

theorem text_push (o : Opened) (t : Tree) : (o.push t).text = o.text ++ " " ++ t.text := by
  simp [push, text, textAll_append, String.append_assoc]

theorem text_close (o : Opened) : o.close.text = o.text ++ ")" := by
  simp [close, text]

theorem IsPlain.push (ho : o.IsPlain) (ht : t.IsPlain) : (o.push t).IsPlain :=
  ⟨ho.isLabel, List.forall_mem_cons.mpr ⟨ht, ho.children⟩⟩

theorem IsPlain.close (ho : o.IsPlain) : o.close.IsPlain :=
  .branch ho.isLabel fun t ht => ho.children t (List.mem_reverse.mp ht)

/-- What the text holds in front of the present place, up to the last part of the open node. -/
def before : Opened → List Opened → String
  | o, [] => o.text
  | o, next :: outer => before next outer ++ " " ++ o.text

theorem before_push (o : Opened) (outer : List Opened) (t : Tree) :
    before (o.push t) outer = before o outer ++ " " ++ t.text := by
  cases outer with
  | nil => exact text_push o t
  | cons next outer => simp [before, text_push, String.append_assoc]

theorem before_close (o next : Opened) (outer : List Opened) :
    before (next.push o.close) outer = before o (next :: outer) ++ ")" := by
  rw [before_push, text_close, before]
  simp [String.append_assoc]

theorem IsPlain.opened {word : List Char} (hword : IsLabel word) : IsPlain ⟨String.ofList word, []⟩ :=
  ⟨by rwa [String.toList_ofList], fun _ h => nomatch h⟩

end Opened

theorem IsLabel.leaf (hword : IsLabel word) : (leaf (String.ofList word)).IsPlain :=
  .leaf (by rwa [String.toList_ofList])

open Opened in
/-- What the reader gives from some place is a tree whose text goes on from there with the parts that it reads. -/
theorem readInside_inverse (h : readInside o outer ps = some t) (hps : ∀ p ∈ ps, p.IsSound) (ho : o.IsPlain)
    (houter : ∀ p ∈ outer, p.IsPlain) :
    t.IsPlain ∧ t.text.toList = (before o outer).toList ++ ps.flatMap Part.chars := by
  fun_induction readInside o outer ps with
  | case1 o =>
    cases h
    refine ⟨ho.close, ?_⟩
    rw [text_close, String.toList_append]
    rfl
  | case2 o next outer rest ih =>
    obtain ⟨hnext, houter⟩ := List.forall_mem_cons.mp houter
    obtain ⟨-, hrest⟩ := List.forall_mem_cons.mp hps
    obtain ⟨hplain, htext⟩ := ih h hrest (hnext.push ho.close) houter
    refine ⟨hplain, ?_⟩
    rw [htext, before_close]
    simp [Part.chars]
  | case3 o outer word rest ih =>
    simp only [List.forall_mem_cons] at hps
    obtain ⟨-, hword, hrest⟩ := hps
    obtain ⟨hplain, htext⟩ := ih h hrest (ho.push (IsLabel.leaf hword)) houter
    refine ⟨hplain, ?_⟩
    rw [htext, before_push]
    simp [Part.chars]
  | case4 o outer word rest ih =>
    simp only [List.forall_mem_cons] at hps
    obtain ⟨-, -, hword, hrest⟩ := hps
    obtain ⟨hplain, htext⟩ := ih h hrest (.opened hword) (List.forall_mem_cons.mpr ⟨ho, houter⟩)
    refine ⟨hplain, ?_⟩
    rw [htext, before]
    simp [Part.chars, Opened.text]
  | case5 => cases h

/-- The reader reads the texts of the plain trees and nothing else. -/
theorem read?_eq_some_iff {text : String} : read? text = some t ↔ t.IsPlain ∧ t.text = text := by
  constructor
  · intro h
    obtain ⟨hchars, hsound⟩ := parts_inverse text.toList
    rw [← String.toList_inj, ← hchars]
    unfold read? at h
    split at h
    next word hparts =>
      cases h
      rw [hparts] at hsound ⊢
      have hword : IsLabel word := hsound _ (List.mem_singleton_self _)
      exact ⟨hword.leaf, by simp [Part.chars]⟩
    next word rest hparts =>
      rw [hparts] at hsound ⊢
      simp only [List.forall_mem_cons] at hsound
      obtain ⟨-, hword, hrest⟩ := hsound
      obtain ⟨hplain, htext⟩ := readInside_inverse h hrest (.opened hword) (fun _ h => nomatch h)
      exact ⟨hplain, by rw [htext]; simp [Opened.before, Opened.text, Part.chars]⟩
    next => cases h
  · rintro ⟨hplain, rfl⟩
    exact hplain.read?_text

example : read? "(S a (S) b)" = some (.branch "S" [.leaf "a", .branch "S" [], .leaf "b"]) := rfl

/-! ## The trees of the machine -/

theorem mark?_of_isAlphanum (h : c.isAlphanum = true) : mark? c = none := by
  unfold mark?
  split <;> first | rfl | (revert h; decide)

theorem isLabel_of_isWritten {X : Symbol} (h : X.IsWritten) : IsLabel X.name.toList := by
  refine ⟨?_, fun c hc => mark?_of_isAlphanum (h.isAlphanum c hc)⟩
  intro hname
  rcases h with ⟨-, h⟩ | ⟨-, h⟩ <;> rw [hname] at h <;> cases h

theorem IsDerivation.isPlain {g : Grammar} (hg : g.WellFormed) (h : t.IsDerivation g) : t.IsPlain := by
  induction h with
  | leaf mem => exact .leaf (isLabel_of_isWritten (Grammar.isWritten_of_mem_writtenTerminals hg mem))
  | @branch rule children mem _ _ ih => exact .branch (isLabel_of_isWritten (hg.lhs_written rule mem).1) ih

theorem IsPlain.of_mem_postorder (h : t.IsPlain) (hu : u ∈ t.postorder) : u.IsPlain := by
  induction h with
  | leaf isLabel =>
    rw [postorder_leaf] at hu
    rw [List.mem_singleton.mp hu]
    exact .leaf isLabel
  | branch isLabel children_plain ih =>
    rw [postorder_branch, List.mem_append, mem_postorderAll, List.mem_singleton] at hu
    rcases hu with ⟨child, hchild, hu⟩ | rfl
    · exact ih child hchild hu
    · exact .branch isLabel children_plain

end Tree

namespace Recognizer

variable {g : Grammar} {t u : Tree}

theorem isPlain_of_accepted (hg : g.WellFormed) {limit : Option Int} {tokens : List String} {n : Nat}
    (haccepted : ((ofGrammar g limit).machine.advance n (.start tokens)).ending = some (.accepted (some t))) :
    t.IsPlain := by
  obtain ⟨_, htree, -, hderived, -⟩ := derived_of_accepted hg haccepted
  cases htree
  exact hderived.isPlain hg

/-- The reader gives the tree of an accepted input back from its text, and every tree below it. So two such trees are
the same when their texts are, and likewise two nodes of them, whatever their kinds and however deep they stand. -/
theorem read_text_of_accepted {source : String} (hread : Grammar.read source = .ok g) (limit limit' : Option Int)
    (tokens tokens' : List String) (n n' : Nat)
    (ht : ((ofGrammar g limit).machine.advance n (.start tokens)).ending = some (.accepted (some t)))
    (hu : ((ofGrammar g limit').machine.advance n' (.start tokens')).ending = some (.accepted (some u))) :
    Tree.read? t.text = some t ∧ (t.text = u.text → t = u) ∧ (∀ v ∈ t.postorder, Tree.read? v.text = some v) ∧
      ∀ v ∈ t.postorder, ∀ w ∈ u.postorder, v.text = w.text → v = w := by
  have hg := Grammar.wellFormed_of_read hread
  have ht := isPlain_of_accepted hg ht
  have hu := isPlain_of_accepted hg hu
  refine ⟨ht.read?_text, ht.eq_of_text_eq hu, fun v hv => (ht.of_mem_postorder hv).read?_text, ?_⟩
  intro v hv w hw
  exact (ht.of_mem_postorder hv).eq_of_text_eq (hu.of_mem_postorder hw)

theorem read_text_of_accepted_nested :
    ((ofGrammar .nested none).machine.advance 5 (.start ["a", "b"])).ending =
        some (.accepted (some (.branch "S" [.leaf "a", .branch "S" [], .leaf "b"]))) ∧
      ((ofGrammar .nested none).machine.advance 2 (.start [])).ending = some (.accepted (some (.branch "S" []))) ∧
      Tree.read? (Tree.branch "S" [.leaf "a", .branch "S" [], .leaf "b"]).text =
        some (.branch "S" [.leaf "a", .branch "S" [], .leaf "b"]) :=
  ⟨rfl, rfl, (read_text_of_accepted Grammar.read_nested none none ["a", "b"] [] 5 2 rfl rfl).1⟩

end Recognizer

end CanonicalLR
