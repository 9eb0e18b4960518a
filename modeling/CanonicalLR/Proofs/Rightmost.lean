import CanonicalLR.Proofs.Derivation

/-! # Rightmost derivations

A rightmost step rewrites the last nonterminal of a sentential form by a production of the augmented
grammar. It can be made behind any symbols and before any words. Derivation trees give rightmost
derivations of their yields, and the fresh start symbol derives what the start symbol derives by the rules.
-/
namespace CanonicalLR

/-- The first symbol of the words and the end marker behind them. -/
def ahead : List String → Symbol
  | [] => .endMarker
  | word :: _ => .terminal word

theorem exists_cons_ahead (words more : List String) :
    ∃ rest, words.map Symbol.terminal ++ [ahead more] = ahead (words ++ more) :: rest := by
  cases words with
  | nil => exact ⟨[], rfl⟩
  | cons word words => exact ⟨words.map Symbol.terminal ++ [ahead more], rfl⟩

theorem isTerminal_ahead (words : List String) : (ahead words).isTerminal = true := by
  cases words <;> rfl

theorem map_terminal_injective : Function.Injective (List.map Symbol.terminal) :=
  List.map_injective_iff.mpr fun _ _ h => congrArg Symbol.name h

namespace Grammar

variable {g : Grammar} {u v : List Symbol} {t : Tree} {ts : List Tree}

/-- A production replaces its left side, behind which there are only words. -/
inductive RewritesRightmost (g : Grammar) : List Symbol → List Symbol → Prop
  | intro {p : Production} (mem : p ∈ g.productions) (left : List Symbol) (right : List String) :
      RewritesRightmost g (left ++ p.lhs :: right.map .terminal) (left ++ p.rhs ++ right.map .terminal)

def DerivesRightmost (g : Grammar) : List Symbol → List Symbol → Prop :=
  Relation.ReflTransGen g.RewritesRightmost

theorem RewritesRightmost.append_left (h : g.RewritesRightmost u v) (left : List Symbol) :
    g.RewritesRightmost (left ++ u) (left ++ v) := by
  obtain ⟨mem, before, right⟩ := h
  rw [← List.append_assoc, ← List.append_assoc, ← List.append_assoc]
  exact .intro mem (left ++ before) right

theorem RewritesRightmost.append_right (h : g.RewritesRightmost u v) (words : List String) :
    g.RewritesRightmost (u ++ words.map .terminal) (v ++ words.map .terminal) := by
  obtain ⟨mem, left, right⟩ := h
  rw [List.append_assoc, List.cons_append, List.append_assoc, ← List.map_append]
  exact .intro mem left (right ++ words)

theorem DerivesRightmost.append_left (h : g.DerivesRightmost u v) (left : List Symbol) :
    g.DerivesRightmost (left ++ u) (left ++ v) :=
  h.lift (left ++ ·) fun _ _ h => h.append_left left

theorem DerivesRightmost.append_right (h : g.DerivesRightmost u v) (words : List String) :
    g.DerivesRightmost (u ++ words.map .terminal) (v ++ words.map .terminal) :=
  h.lift (· ++ words.map Symbol.terminal) fun _ _ h => h.append_right words

theorem derivesRightmost_yieldAll (h : ∀ t ∈ ts, g.DerivesRightmost [t.symbol] (t.yield.map .terminal)) :
    g.DerivesRightmost (ts.map Tree.symbol) ((Tree.yieldAll ts).map .terminal) := by
  induction ts with
  | nil => exact Relation.ReflTransGen.refl
  | cons t ts ih =>
    have hrest := ih fun u hu => h u (List.mem_cons_of_mem t hu)
    rw [List.map_cons, Tree.yieldAll_cons, List.map_append, ← List.singleton_append]
    -- The trees behind `t` are derived first, so that there are only words behind its root.
    exact (hrest.append_left [t.symbol]).trans ((h t List.mem_cons_self).append_right _)

theorem derivesRightmost_yield (hg : g.WellFormed) (h : t.IsDerivation g) :
    g.DerivesRightmost [t.symbol] (t.yield.map .terminal) := by
  induction h with
  | leaf mem =>
    rw [Tree.symbol_leaf, Tree.yield_leaf]
    exact Relation.ReflTransGen.refl
  | @branch rule children mem symbols_eq children_derived ih =>
    obtain ⟨p, hp, rfl, -⟩ := exists_production_of_mem_rules mem
    have hstep := RewritesRightmost.intro hp [] []
    rw [List.nil_append, List.nil_append, List.map_nil, List.append_nil] at hstep
    have hchildren := derivesRightmost_yieldAll ih
    rw [symbols_eq] at hchildren
    rw [Tree.symbol_branch, Tree.yield_branch,
      ← Symbol.eq_nonterminal_of_isNonterminal (hg.lhs_written _ mem).2]
    exact (Relation.ReflTransGen.single hstep).trans hchildren

theorem derivesRightmost_forest (hg : g.WellFormed) (h : ∀ t ∈ ts, t.IsDerivation g) :
    g.DerivesRightmost (ts.map Tree.symbol) ((Tree.yieldAll ts).map .terminal) :=
  derivesRightmost_yieldAll fun t ht => derivesRightmost_yield hg (h t ht)

theorem Derives.isWritten (hg : g.WellFormed) (h : g.Derives u v) (hu : ∀ X ∈ u, X.IsWritten) :
    ∀ X ∈ v, X.IsWritten := by
  induction h with
  | refl => exact hu
  | tail _ hstep ih =>
    obtain ⟨mem, left, right⟩ := hstep
    intro X hX
    rw [List.append_assoc, List.mem_append, List.mem_append] at hX
    rcases hX with hX | hX | hX
    · exact ih X (List.mem_append_left _ hX)
    · exact hg.rhs_written _ mem X hX
    · exact ih X (List.mem_append_right _ (List.mem_cons_of_mem _ hX))

theorem Derives.isWritten_of_start (hg : g.WellFormed) (h : g.Derives [g.start] u) : ∀ X ∈ u, X.IsWritten := by
  apply h.isWritten hg
  intro X hX
  rw [List.mem_singleton.mp hX]
  exact (start_written hg).1

/-- A step from the fresh start symbol leads to the start symbol, and later steps are by rules. -/
theorem derives_of_rewritesRightmost (hg : g.WellFormed)
    (hu : u = [g.augmentedStart] ∨ g.Derives [g.start] u) (h : g.RewritesRightmost u v) :
    g.Derives [g.start] v := by
  cases h with
  | @intro p mem left right =>
    rcases hu with hu | hu
    · obtain ⟨rfl, hlhs, hright⟩ : left = [] ∧ p.lhs = g.augmentedStart ∧ right.map Symbol.terminal = [] := by
        simpa [List.append_eq_singleton_iff] using hu
      rw [eq_augmentedProduction_of_lhs_eq hg mem hlhs, hright]
      exact Relation.ReflTransGen.refl
    · have hid : p.id ≠ 0 := by
        intro hid
        have hlhs := hu.isWritten_of_start hg p.lhs (by simp)
        rw [eq_augmentedProduction_of_id_eq_zero mem hid] at hlhs
        exact not_isWritten_augmentedStart g hlhs
      exact hu.tail (Rewrites.intro (mem_rules_of_id_ne_zero mem hid) left _)

theorem derives_of_derivesRightmost (hg : g.WellFormed) (h : g.DerivesRightmost [g.augmentedStart] u) :
    u = [g.augmentedStart] ∨ g.Derives [g.start] u := by
  induction h with
  | refl => exact Or.inl rfl
  | tail _ hstep ih => exact Or.inr (derives_of_rewritesRightmost hg ih hstep)

/-- Words behind a nonterminal of a sentential form consist of terminals of the grammar. -/
theorem mem_writtenTerminals_of_derivesRightmost (hg : g.WellFormed) {left : List Symbol} {A : Symbol}
    {right : List String} (h : g.DerivesRightmost [g.augmentedStart] (left ++ A :: right.map .terminal)) :
    ∀ word ∈ right, .terminal word ∈ g.writtenTerminals := by
  intro word hword
  rcases derives_of_derivesRightmost hg h with hroot | hderives
  · obtain ⟨-, -, hright⟩ : left = [] ∧ A = g.augmentedStart ∧ right.map Symbol.terminal = [] := by
      simpa [List.append_eq_singleton_iff] using hroot
    rw [List.map_eq_nil_iff.mp hright] at hword
    cases hword
  · have hmem : Symbol.terminal word ∈ left ++ A :: right.map .terminal :=
      List.mem_append_right _ (List.mem_cons_of_mem A (List.mem_map_of_mem hword))
    apply hderives.mem_writtenTerminals hg ?_ _ hmem rfl
    intro X hX hterminal
    rw [List.mem_singleton.mp hX, Symbol.eq_nonterminal_of_isNonterminal (start_written hg).2] at hterminal
    cases hterminal

end Grammar

end CanonicalLR
