import CanonicalLR.Proofs.Derivation

/-! # Grammars in which every nonterminal derives words

In such a grammar every symbol of a right side has a derivation tree. Then FIRST holds nothing but what
the yields of derivation trees begin with, and what can follow the symbol after a dot does come first
behind some trees for the symbols that stand there.
-/
namespace CanonicalLR

theorem leading_eq_epsilon_iff {words : List String} : leading words = .epsilon ↔ words = [] := by
  cases words with
  | nil => simp [leading]
  | cons word words => simp [leading, Symbol.terminal, Symbol.epsilon]

theorem leading_append_of_ne_epsilon {words : List String} (h : leading words ≠ .epsilon) (more : List String) :
    leading (words ++ more) = leading words := by
  cases words with
  | nil => exact absurd rfl h
  | cons word words => rfl

namespace Grammar

variable {g : Grammar} {p : Production} {facts : FirstFacts} {X x : Symbol} {symbols : List Symbol}

/-- Every nonterminal of the rules derives some words. -/
def Productive (g : Grammar) : Prop :=
  ∀ A ∈ g.writtenNonterminals, ∃ words : List String, g.Derives [A] (words.map .terminal)

def HasTree (g : Grammar) (X : Symbol) : Prop := ∃ t : Tree, t.IsDerivation g ∧ t.symbol = X

theorem HasTree.ne_augmentedStart (hg : g.WellFormed) (h : g.HasTree X) : X ≠ g.augmentedStart := by
  rintro rfl
  obtain ⟨t, ht, hsymbol⟩ := h
  cases ht with
  | leaf mem => cases congrArg Symbol.kind hsymbol
  | @branch rule children mem symbols_eq children_derived =>
    obtain ⟨hwritten, hlhs⟩ := hg.lhs_written rule mem
    rw [Tree.symbol_branch, ← Symbol.eq_nonterminal_of_isNonterminal hlhs] at hsymbol
    exact not_isWritten_augmentedStart g (hsymbol ▸ hwritten)

theorem Productive.hasTree (hproductive : g.Productive) (hg : g.WellFormed) (hX : X ∈ g.writtenNonterminals) :
    g.HasTree X := by
  obtain ⟨words, hwords⟩ := hproductive X hX
  have hX' : X.isNonterminal = true := isNonterminal_of_mem_nonterminals hg (List.mem_cons_of_mem _ hX)
  have hterminals : ∀ word ∈ words, .terminal word ∈ g.writtenTerminals := by
    intro word hword
    refine hwords.mem_writtenTerminals hg ?_ _ (List.mem_map_of_mem hword) rfl
    intro Y hY hterminal
    rw [List.mem_singleton.mp hY, Symbol.eq_nonterminal_of_isNonterminal hX'] at hterminal
    cases hterminal
  obtain ⟨ts, hsymbols, hderived, -⟩ := exists_trees_of_derives hg hterminals hwords
  obtain ⟨t, rfl, hsymbol⟩ := List.map_eq_singleton_iff.mp hsymbols
  exact ⟨t, hderived t List.mem_cons_self, hsymbol⟩

theorem Productive.hasTree_of_mem_rhs (hproductive : g.Productive) (hg : g.WellFormed) (hp : p ∈ g.productions) :
    ∀ X ∈ p.rhs, g.HasTree X := by
  intro X hX
  rcases (rhs_written hg hp X hX).isTerminal_or_isNonterminal with hterminal | hnonterminal
  · have hmem := mem_writtenTerminals hg hp hX hterminal
    rw [Symbol.eq_terminal_of_isTerminal hterminal] at hmem ⊢
    exact ⟨.leaf X.name, .leaf hmem, rfl⟩
  · exact hproductive.hasTree hg (mem_writtenNonterminals_of_mem_rhs hg hp hX hnonterminal)

theorem exists_trees (h : ∀ X ∈ symbols, g.HasTree X) :
    ∃ ts : List Tree, (∀ t ∈ ts, t.IsDerivation g) ∧ ts.map Tree.symbol = symbols := by
  induction symbols with
  | nil => exact ⟨[], by simp, rfl⟩
  | cons X symbols ih =>
    obtain ⟨t, ht, rfl⟩ := h X List.mem_cons_self
    obtain ⟨ts, hts, rfl⟩ := ih fun Y hY => h Y (List.mem_cons_of_mem _ hY)
    exact ⟨t :: ts, List.forall_mem_cons.mpr ⟨ht, hts⟩, rfl⟩

/-- Every fact comes from a derivation tree. The fresh start symbol is the root of none. -/
def FactsDerived (g : Grammar) (facts : FirstFacts) : Prop :=
  ∀ A x, (A, x) ∈ facts → A ≠ g.augmentedStart → ∃ t : Tree, t.IsDerivation g ∧ t.symbol = A ∧ leading t.yield = x

theorem FactsDerived.exists_trees (hg : g.WellFormed) (hfacts : g.FactsDerived facts)
    (hsymbols : ∀ X ∈ symbols, g.HasTree X) (hx : x ∈ facts.ofSequence symbols) :
    ∃ ts : List Tree, (∀ t ∈ ts, t.IsDerivation g) ∧ ts.map Tree.symbol = symbols ∧
      leading (Tree.yieldAll ts) = x := by
  induction symbols with
  | nil => exact ⟨[], by simp, rfl, (FirstFacts.mem_ofSequence_nil.mp hx).symm⟩
  | cons X symbols ih =>
    have hX := hsymbols X List.mem_cons_self
    have hrest : ∀ Y ∈ symbols, g.HasTree Y := fun Y hY => hsymbols Y (List.mem_cons_of_mem X hY)
    cases hkind : X.isNonterminal with
    | true =>
      rcases (FirstFacts.mem_ofSequence_cons_of_isNonterminal hkind).mp hx with ⟨hfact, hne⟩ | ⟨hfact, hx'⟩
      · obtain ⟨t, ht, rfl, rfl⟩ := hfacts X x hfact (hX.ne_augmentedStart hg)
        obtain ⟨ts, hts, rfl⟩ := Grammar.exists_trees hrest
        refine ⟨t :: ts, List.forall_mem_cons.mpr ⟨ht, hts⟩, rfl, ?_⟩
        rw [Tree.yieldAll_cons, leading_append_of_ne_epsilon hne]
      · obtain ⟨t, ht, rfl, hempty⟩ := hfacts X .epsilon hfact (hX.ne_augmentedStart hg)
        obtain ⟨ts, hts, rfl, rfl⟩ := ih hrest hx'
        refine ⟨t :: ts, List.forall_mem_cons.mpr ⟨ht, hts⟩, rfl, ?_⟩
        rw [Tree.yieldAll_cons, leading_eq_epsilon_iff.mp hempty, List.nil_append]
    | false =>
      obtain ⟨t, ht, rfl⟩ := hX
      obtain ⟨ts, hts, rfl⟩ := Grammar.exists_trees hrest
      rw [FirstFacts.mem_ofSequence_cons_of_not_isNonterminal hkind] at hx
      cases ht with
      | @leaf name mem =>
        exact ⟨.leaf name :: ts, List.forall_mem_cons.mpr ⟨.leaf mem, hts⟩, rfl, by simp [hx, leading]⟩
      | branch => cases hkind

theorem FactsDerived.applyProduction (hg : g.WellFormed) (hproductive : g.Productive) (hp : p ∈ g.productions)
    (hfacts : g.FactsDerived facts) : g.FactsDerived (applyProduction facts p) := by
  intro A x hfact hA
  rcases FirstFacts.mem_add.mp hfact with hfact | ⟨rfl, hx⟩
  · exact hfacts A x hfact hA
  · have hid : p.id ≠ 0 := by
      intro hid
      rw [eq_augmentedProduction_of_id_eq_zero hp hid] at hA
      exact hA rfl
    obtain ⟨ts, hts, hsymbols, rfl⟩ := hfacts.exists_trees hg (hproductive.hasTree_of_mem_rhs hg hp) hx
    refine ⟨.branch p.rule.lhs.name ts, .branch (mem_rules_of_id_ne_zero hp hid) hsymbols hts, ?_, ?_⟩
    · rw [Tree.symbol_branch]
      exact (Symbol.eq_nonterminal_of_isNonterminal (lhs_isNonterminal hg hp)).symm
    · rw [Tree.yield_branch]

theorem factsDerived_firstFacts (hg : g.WellFormed) (hproductive : g.Productive) : g.FactsDerived g.firstFacts :=
  firstFacts_induction g.FactsDerived (fun _ _ hp h => h.applyProduction hg hproductive hp) (by simp [FactsDerived])

/-- What can follow comes first behind trees for the symbols after the next one, or is the lookahead if
these trees have no leaves. -/
theorem exists_trees_of_follows (hg : g.WellFormed) (hproductive : g.Productive) {i : Item} (hi : g.Admits i)
    (h : g.Follows i x) :
    ∃ ts : List Tree, (∀ t ∈ ts, t.IsDerivation g) ∧ ts.map Tree.symbol = i.production.rhs.drop (i.dot + 1) ∧
      ∃ rest, (Tree.yieldAll ts).map .terminal ++ [i.lookahead] = x :: rest := by
  obtain ⟨hfirst, hne⟩ := h
  have hsymbols : ∀ X ∈ i.production.rhs.drop (i.dot + 1), g.HasTree X :=
    fun X hX => hproductive.hasTree_of_mem_rhs hg hi.1 X (List.mem_of_mem_drop hX)
  have hepsilon : ∀ X ∈ i.production.rhs.drop (i.dot + 1), X ≠ .epsilon :=
    fun X hX => rhs_ne_epsilon hg hi.1 X (List.mem_of_mem_drop hX)
  have hfacts := factsDerived_firstFacts hg hproductive
  rcases (FirstFacts.mem_ofSequence_append hepsilon).mp hfirst with ⟨hx, -⟩ | ⟨hempty, hx⟩
  · obtain ⟨ts, hts, hmap, rfl⟩ := hfacts.exists_trees hg hsymbols hx
    refine ⟨ts, hts, hmap, ?_⟩
    cases hyield : Tree.yieldAll ts with
    | nil =>
      rw [hyield] at hne
      exact absurd rfl hne
    | cons word words => exact ⟨words.map .terminal ++ [i.lookahead], rfl⟩
  · obtain ⟨ts, hts, hmap, hyield⟩ := hfacts.exists_trees hg hsymbols hempty
    have hlookahead : i.lookahead.isNonterminal = false := by
      rw [Symbol.eq_terminal_of_isTerminal hi.2]
      rfl
    rw [FirstFacts.mem_ofSequence_cons_of_not_isNonterminal hlookahead] at hx
    exact ⟨ts, hts, hmap, [], by rw [leading_eq_epsilon_iff.mp hyield, hx]; rfl⟩

theorem productive_nested : nested.Productive := by
  intro A hA
  have hrule : (⟨.nonterminal "S", []⟩ : Rule) ∈ nested.rules := by decide
  have hA : A = .nonterminal "S" := by
    have hall : nested.writtenNonterminals = [.nonterminal "S"] := by decide
    rw [hall] at hA
    exact List.mem_singleton.mp hA
  exact ⟨[], hA ▸ derives_of_mem_rules hrule⟩

end Grammar

end CanonicalLR
