import CanonicalLR.Proofs.Closure
import CanonicalLR.Tree
import Mathlib.Logic.Relation

/-! # Derivations and derivation trees

A derivation tree has the terminals of the grammar as its leaves and an instance of a rule at every other
node. Its root derives its yield, and FIRST of some symbols holds what the yields of trees for them begin
with.
-/
namespace CanonicalLR

namespace Tree

/-- The symbol that the root stands for. -/
def symbol (t : Tree) : Symbol := if t.isTerminal then .terminal t.label else .nonterminal t.label

mutual

/-- The labels of the terminal leaves from left to right. -/
def yield : Tree → List String
  | node label isTerminal children => if isTerminal then [label] else yieldAll children

def yieldAll : List Tree → List String
  | [] => []
  | t :: rest => t.yield ++ yieldAll rest

end

@[simp] theorem symbol_leaf (name : String) : (leaf name).symbol = .terminal name := rfl

@[simp] theorem symbol_branch (name : String) (children : List Tree) :
    (branch name children).symbol = .nonterminal name := rfl

@[simp] theorem yield_leaf (name : String) : (leaf name).yield = [name] := by
  simp [leaf, yield]

@[simp] theorem yield_branch (name : String) (children : List Tree) :
    (branch name children).yield = yieldAll children := by
  simp [branch, yield]

@[simp] theorem yieldAll_nil : yieldAll [] = [] := by
  simp [yieldAll]

@[simp] theorem yieldAll_cons (t : Tree) (ts : List Tree) : yieldAll (t :: ts) = t.yield ++ yieldAll ts := by
  simp [yieldAll]

theorem yieldAll_append (ts us : List Tree) : yieldAll (ts ++ us) = yieldAll ts ++ yieldAll us := by
  induction ts with
  | nil => simp
  | cons t ts ih => simp [ih]

theorem yieldAll_map_leaf (words : List String) : yieldAll (words.map leaf) = words := by
  induction words with
  | nil => simp
  | cons word words ih => simp [ih]

theorem symbol_ne_epsilon (t : Tree) : t.symbol ≠ .epsilon := by
  unfold symbol
  split <;> simp [Symbol.terminal, Symbol.nonterminal, Symbol.epsilon]

inductive IsDerivation (g : Grammar) : Tree → Prop
  | leaf {name : String} (mem : .terminal name ∈ g.writtenTerminals) : IsDerivation g (.leaf name)
  | branch {rule : Rule} {children : List Tree} (mem : rule ∈ g.rules)
      (symbols_eq : children.map symbol = rule.rhs) (children_derived : ∀ t ∈ children, IsDerivation g t) :
      IsDerivation g (.branch rule.lhs.name children)

end Tree

/-- What a derivation of the words begins with, in the sense of FIRST. -/
def leading : List String → Symbol
  | [] => .epsilon
  | word :: _ => .terminal word

namespace Grammar

variable {g : Grammar} {u v u' v' : List Symbol} {t : Tree} {ts : List Tree}

/-- A rule replaces its left side by its right side. -/
inductive Rewrites (g : Grammar) : List Symbol → List Symbol → Prop
  | intro {rule : Rule} (mem : rule ∈ g.rules) (left right : List Symbol) :
      Rewrites g (left ++ rule.lhs :: right) (left ++ rule.rhs ++ right)

def Derives (g : Grammar) : List Symbol → List Symbol → Prop := Relation.ReflTransGen g.Rewrites

/-- The words are a sentence of the language of the grammar. -/
def Generates (g : Grammar) (words : List String) : Prop :=
  g.Derives [g.start] (words.map .terminal)

theorem Rewrites.append_left (h : g.Rewrites u v) (left : List Symbol) :
    g.Rewrites (left ++ u) (left ++ v) := by
  obtain ⟨mem, before, after⟩ := h
  rw [← List.append_assoc, ← List.append_assoc, ← List.append_assoc]
  exact .intro mem (left ++ before) after

theorem Rewrites.append_right (h : g.Rewrites u v) (right : List Symbol) :
    g.Rewrites (u ++ right) (v ++ right) := by
  obtain ⟨mem, before, after⟩ := h
  rw [List.append_assoc, List.cons_append, List.append_assoc]
  exact .intro mem before (after ++ right)

theorem Derives.append (hu : g.Derives u u') (hv : g.Derives v v') : g.Derives (u ++ v) (u' ++ v') := by
  have hleft : g.Derives (u ++ v) (u' ++ v) := hu.lift (· ++ v) fun _ _ h => h.append_right v
  have hright : g.Derives (u' ++ v) (u' ++ v') := hv.lift (u' ++ ·) fun _ _ h => h.append_left u'
  exact hleft.trans hright

theorem derives_of_mem_rules {rule : Rule} (h : rule ∈ g.rules) : g.Derives [rule.lhs] rule.rhs := by
  have hrewrites := Rewrites.intro h [] []
  rw [List.nil_append, List.append_nil, List.nil_append] at hrewrites
  exact Relation.ReflTransGen.single hrewrites

theorem derives_yieldAll (h : ∀ t ∈ ts, g.Derives [t.symbol] (t.yield.map .terminal)) :
    g.Derives (ts.map Tree.symbol) ((Tree.yieldAll ts).map .terminal) := by
  induction ts with
  | nil => exact Relation.ReflTransGen.refl
  | cons t ts ih =>
    rw [List.map_cons, Tree.yieldAll_cons, List.map_append, ← List.singleton_append]
    exact (h t List.mem_cons_self).append (ih fun u hu => h u (List.mem_cons_of_mem t hu))

/-- The root of a derivation tree derives its yield. -/
theorem derives_yield (hg : g.WellFormed) (h : t.IsDerivation g) :
    g.Derives [t.symbol] (t.yield.map .terminal) := by
  induction h with
  | leaf mem =>
    rw [Tree.symbol_leaf, Tree.yield_leaf]
    exact Relation.ReflTransGen.refl
  | @branch rule children mem symbols_eq children_derived ih =>
    rw [Tree.symbol_branch, Tree.yield_branch,
      ← Symbol.eq_nonterminal_of_isNonterminal (hg.lhs_written rule mem).2]
    have hchildren := derives_yieldAll ih
    rw [symbols_eq] at hchildren
    exact (derives_of_mem_rules mem).trans hchildren

theorem Rewrites.mem_writtenTerminals (hg : g.WellFormed) (h : g.Rewrites u v)
    (hu : ∀ X ∈ u, X.isTerminal = true → X ∈ g.writtenTerminals) :
    ∀ X ∈ v, X.isTerminal = true → X ∈ g.writtenTerminals := by
  obtain ⟨mem, left, right⟩ := h
  intro X hX hterminal
  rw [List.append_assoc, List.mem_append, List.mem_append] at hX
  rcases hX with hX | hX | hX
  · exact hu X (List.mem_append_left _ hX) hterminal
  · obtain ⟨p, hp, rfl, -⟩ := exists_production_of_mem_rules mem
    exact Grammar.mem_writtenTerminals hg hp hX hterminal
  · exact hu X (List.mem_append_right _ (List.mem_cons_of_mem _ hX)) hterminal

theorem Derives.mem_writtenTerminals (hg : g.WellFormed) (h : g.Derives u v)
    (hu : ∀ X ∈ u, X.isTerminal = true → X ∈ g.writtenTerminals) :
    ∀ X ∈ v, X.isTerminal = true → X ∈ g.writtenTerminals := by
  induction h with
  | refl => exact hu
  | tail _ hstep ih => exact hstep.mem_writtenTerminals hg ih

/-- Derivation trees for the symbols of a sentential form put together what it derives. -/
theorem exists_trees_of_derives (hg : g.WellFormed) {words : List String}
    (hwords : ∀ word ∈ words, .terminal word ∈ g.writtenTerminals) (h : g.Derives u (words.map .terminal)) :
    ∃ ts : List Tree, ts.map Tree.symbol = u ∧ (∀ t ∈ ts, t.IsDerivation g) ∧ Tree.yieldAll ts = words := by
  induction h using Relation.ReflTransGen.head_induction_on with
  | refl =>
    refine ⟨words.map Tree.leaf, by rw [List.map_map]; rfl, ?_, Tree.yieldAll_map_leaf words⟩
    intro t ht
    obtain ⟨word, hword, rfl⟩ := List.mem_map.mp ht
    exact .leaf (hwords word hword)
  | head hstep _ ih =>
    obtain ⟨ts, hsymbols, hderived, hyield⟩ := ih
    cases hstep with
    | @intro rule mem left right =>
      obtain ⟨front, back, rfl, hfront, hback⟩ := List.map_eq_append_iff.mp hsymbols
      obtain ⟨before, children, rfl, hbefore, hchildren⟩ := List.map_eq_append_iff.mp hfront
      simp only [List.mem_append] at hderived
      refine ⟨before ++ .branch rule.lhs.name children :: back, ?_, ?_, ?_⟩
      · rw [List.map_append, List.map_cons, hbefore, hback, Tree.symbol_branch,
          ← Symbol.eq_nonterminal_of_isNonterminal (hg.lhs_written rule mem).2]
      · intro t ht
        rcases List.mem_append.mp ht with ht | ht
        · exact hderived t (Or.inl (Or.inl ht))
        · rcases List.mem_cons.mp ht with rfl | ht
          · exact .branch mem hchildren fun t ht => hderived t (Or.inl (Or.inr ht))
          · exact hderived t (Or.inr ht)
      · rw [← hyield]
        simp [Tree.yieldAll_append]

/-- The sentences are the yields of the derivation trees for the start symbol. -/
theorem generates_iff_exists_tree (hg : g.WellFormed) {words : List String} :
    g.Generates words ↔ ∃ t : Tree, t.IsDerivation g ∧ t.symbol = g.start ∧ t.yield = words := by
  constructor
  · intro h
    have hwords : ∀ word ∈ words, .terminal word ∈ g.writtenTerminals := by
      intro word hword
      refine Derives.mem_writtenTerminals hg h ?_ _ (List.mem_map_of_mem hword) rfl
      intro X hX hterminal
      rw [List.mem_singleton.mp hX, Symbol.eq_nonterminal_of_isNonterminal (start_written hg).2] at hterminal
      cases hterminal
    obtain ⟨ts, hsymbols, hderived, hyield⟩ := exists_trees_of_derives hg hwords h
    obtain ⟨t, rfl, hsymbol⟩ := List.map_eq_singleton_iff.mp hsymbols
    exact ⟨t, hderived t List.mem_cons_self, hsymbol, by simpa using hyield⟩
  · rintro ⟨t, hderived, hsymbol, rfl⟩
    have hderives := derives_yield hg hderived
    rwa [hsymbol] at hderives

theorem leading_mem_first_of_facts (hts : ∀ t ∈ ts, t.IsDerivation g)
    (hfacts : ∀ t ∈ ts, t.symbol.isNonterminal = true → (t.symbol, leading t.yield) ∈ g.firstFacts) :
    leading (Tree.yieldAll ts) ∈ g.first (ts.map Tree.symbol) := by
  induction ts with
  | nil => exact List.mem_singleton.mpr rfl
  | cons t ts ih =>
    have hrest := ih (fun u hu => hts u (List.mem_cons_of_mem t hu))
      fun u hu => hfacts u (List.mem_cons_of_mem t hu)
    have hfact := hfacts t List.mem_cons_self
    rw [List.map_cons, first, Tree.yieldAll_cons]
    cases hts t List.mem_cons_self with
    | leaf mem =>
      rw [FirstFacts.mem_ofSequence_cons_of_not_isNonterminal rfl, Tree.yield_leaf]
      rfl
    | @branch rule children mem symbols_eq children_derived =>
      have hfact := hfact rfl
      rw [FirstFacts.mem_ofSequence_cons_of_isNonterminal rfl]
      cases hyield : (Tree.branch rule.lhs.name children).yield with
      | nil =>
        rw [hyield] at hfact
        exact Or.inr ⟨hfact, hrest⟩
      | cons word words =>
        rw [hyield] at hfact
        exact Or.inl ⟨hfact, by simp [leading, Symbol.terminal, Symbol.epsilon]⟩

/-- FIRST facts hold what the yields of derivation trees begin with. -/
theorem leading_mem_firstFacts (hg : g.WellFormed) (h : t.IsDerivation g) :
    t.symbol.isNonterminal = true → (t.symbol, leading t.yield) ∈ g.firstFacts := by
  induction h with
  | leaf mem => exact fun hleaf => nomatch hleaf
  | @branch rule children mem symbols_eq children_derived ih =>
    intro _
    have hchildren := leading_mem_first_of_facts children_derived ih
    obtain ⟨p, hp, rfl, -⟩ := exists_production_of_mem_rules mem
    rw [symbols_eq] at hchildren
    have hlhs : Symbol.nonterminal p.rule.lhs.name = p.lhs :=
      (Symbol.eq_nonterminal_of_isNonterminal (lhs_isNonterminal hg hp)).symm
    rw [Tree.symbol_branch, Tree.yield_branch, hlhs]
    exact mem_firstFacts_of_mem_ofSequence hg hp hchildren

theorem leading_mem_first (hg : g.WellFormed) (hts : ∀ t ∈ ts, t.IsDerivation g) :
    leading (Tree.yieldAll ts) ∈ g.first (ts.map Tree.symbol) :=
  leading_mem_first_of_facts hts fun t ht => leading_mem_firstFacts hg (hts t ht)

/-- Behind the dot stand trees and behind them the lookahead: what comes first there can follow. -/
theorem follows_of_isDerivation (hg : g.WellFormed) (hts : ∀ t ∈ ts, t.IsDerivation g) {i : Item}
    (hi : i.lookahead.isTerminal = true) (hsymbols : ts.map Tree.symbol = i.production.rhs.drop (i.dot + 1))
    {x : Symbol} {rest after : List Symbol}
    (hx : (Tree.yieldAll ts).map .terminal ++ i.lookahead :: after = x :: rest) : g.Follows i x := by
  have hfirst := leading_mem_first hg hts
  have hepsilon : ∀ X ∈ ts.map Tree.symbol, X ≠ .epsilon := by
    intro X hX
    obtain ⟨t, -, rfl⟩ := List.mem_map.mp hX
    exact t.symbol_ne_epsilon
  have hlookahead : i.lookahead ≠ .epsilon := by
    rw [Symbol.eq_terminal_of_isTerminal hi]
    simp [Symbol.terminal, Symbol.epsilon]
  rw [Follows, ← hsymbols, first, FirstFacts.mem_ofSequence_append hepsilon]
  cases hyield : Tree.yieldAll ts with
  | nil =>
    rw [hyield] at hfirst hx
    obtain ⟨rfl, -⟩ := List.cons.inj hx
    refine ⟨Or.inr ⟨hfirst, ?_⟩, hlookahead⟩
    rw [FirstFacts.mem_ofSequence_cons_of_not_isNonterminal]
    rw [Symbol.eq_terminal_of_isTerminal hi]
    rfl
  | cons word words =>
    rw [hyield] at hfirst hx
    obtain ⟨rfl, -⟩ := List.cons.inj hx
    have hword : Symbol.terminal word ≠ .epsilon := by simp [Symbol.terminal, Symbol.epsilon]
    exact ⟨Or.inl ⟨hfirst, hword⟩, hword⟩

end Grammar

end CanonicalLR
