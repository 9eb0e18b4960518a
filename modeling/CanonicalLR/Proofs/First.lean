import CanonicalLR.FirstSet
import CanonicalLR.Proofs.Growth
import CanonicalLR.Proofs.Productions
import Mathlib.Data.List.Nodup
import Mathlib.Data.List.Perm.Subperm
import Mathlib.Data.List.ProdSigma

/-! # FIRST facts respect every production

The facts of a grammar are pairs of a nonterminal with `ε` or with a written terminal. There are
finitely many of them, so the passes come to rest, and then no production asks for more.
-/
namespace CanonicalLR

namespace FirstFacts

variable {facts : FirstFacts} {X x : Symbol} {rest : List Symbol}

theorem mem_ofSequence_nil : x ∈ facts.ofSequence [] ↔ x = .epsilon := by
  simp [ofSequence]

theorem mem_ofSequence_cons_of_isNonterminal (hX : X.isNonterminal = true) :
    x ∈ facts.ofSequence (X :: rest) ↔
      (X, x) ∈ facts ∧ x ≠ .epsilon ∨ (X, .epsilon) ∈ facts ∧ x ∈ facts.ofSequence rest := by
  simp only [ofSequence, hX, if_true]
  split
  · next h =>
    rw [mem_of] at h
    simp [Distinct.mem_extend, mem_of, h]
  · next h =>
    rw [mem_of] at h
    constructor
    · intro hx
      rw [mem_of] at hx
      exact Or.inl ⟨hx, fun he => h (he ▸ hx)⟩
    · rintro (⟨hx, -⟩ | ⟨hepsilon, -⟩)
      · exact mem_of.mpr hx
      · exact absurd hepsilon h

theorem mem_ofSequence_cons_of_not_isNonterminal (hX : X.isNonterminal = false) :
    x ∈ facts.ofSequence (X :: rest) ↔ x = X := by
  simp [ofSequence, hX]

/-- Only the facts about the nonterminals of a sequence count. -/
theorem mem_ofSequence_of_subset_on {more : FirstFacts} {symbols : List Symbol}
    (h : ∀ X ∈ symbols, X.isNonterminal = true → ∀ y, (X, y) ∈ facts → (X, y) ∈ more)
    (hx : x ∈ facts.ofSequence symbols) : x ∈ more.ofSequence symbols := by
  induction symbols with
  | nil => exact hx
  | cons X rest ih =>
    have hrest := ih fun Y hY => h Y (List.mem_cons_of_mem X hY)
    cases hX : X.isNonterminal with
    | true =>
      have hfacts := h X List.mem_cons_self hX
      rw [mem_ofSequence_cons_of_isNonterminal hX] at hx ⊢
      rcases hx with ⟨hx, hne⟩ | ⟨hepsilon, hx⟩
      · exact Or.inl ⟨hfacts _ hx, hne⟩
      · exact Or.inr ⟨hfacts _ hepsilon, hrest hx⟩
    | false =>
      rw [mem_ofSequence_cons_of_not_isNonterminal hX] at hx ⊢
      exact hx

/-- More facts ask for no less. -/
theorem mem_ofSequence_of_subset {more : FirstFacts} {symbols : List Symbol} (h : ∀ fact ∈ facts, fact ∈ more)
    (hx : x ∈ facts.ofSequence symbols) : x ∈ more.ofSequence symbols :=
  mem_ofSequence_of_subset_on (fun _ _ _ _ hfact => h _ hfact) hx

theorem prefix_add (facts : FirstFacts) (A : Symbol) (xs : List Symbol) : facts <+: facts.add A xs :=
  List.prefix_append _ _

theorem nodup_add (h : facts.Nodup) (A : Symbol) (xs : List Symbol) : (facts.add A xs).Nodup := by
  rw [add, List.nodup_append]
  refine ⟨h, List.Nodup.map (fun x y hxy => congrArg Prod.snd hxy) (Distinct.nodup_ofList _), ?_⟩
  intro fact hfact new hnew heq
  subst heq
  obtain ⟨x, hx, rfl⟩ := List.mem_map.mp hnew
  rw [Distinct.mem_ofList, List.mem_filter] at hx
  simp only [mem_of, decide_eq_true_eq] at hx
  exact hx.2 hfact

theorem mem_ofSequence_append {left right : List Symbol} (hleft : ∀ X ∈ left, X ≠ .epsilon) :
    x ∈ facts.ofSequence (left ++ right) ↔
      x ∈ facts.ofSequence left ∧ x ≠ .epsilon ∨
        .epsilon ∈ facts.ofSequence left ∧ x ∈ facts.ofSequence right := by
  induction left with
  | nil => simp [mem_ofSequence_nil]
  | cons X left ih =>
    have ih := ih fun Y hY => hleft Y (List.mem_cons_of_mem X hY)
    cases hX : X.isNonterminal with
    | true =>
      simp only [List.cons_append, mem_ofSequence_cons_of_isNonterminal hX, ih, ne_eq, not_true,
        and_false, false_or]
      constructor
      · rintro (⟨hx, hne⟩ | ⟨hX, ⟨hx, hne⟩ | ⟨hepsilon, hx⟩⟩)
        · exact Or.inl ⟨Or.inl ⟨hx, hne⟩, hne⟩
        · exact Or.inl ⟨Or.inr ⟨hX, hx⟩, hne⟩
        · exact Or.inr ⟨⟨hX, hepsilon⟩, hx⟩
      · rintro (⟨⟨hx, hne⟩ | ⟨hX, hx⟩, hne⟩ | ⟨⟨hX, hepsilon⟩, hx⟩)
        · exact Or.inl ⟨hx, hne⟩
        · exact Or.inr ⟨hX, Or.inl ⟨hx, hne⟩⟩
        · exact Or.inr ⟨hX, Or.inr ⟨hepsilon, hx⟩⟩
    | false =>
      have hne := hleft X List.mem_cons_self
      simp only [List.cons_append, mem_ofSequence_cons_of_not_isNonterminal hX, Ne.symm hne,
        false_and, or_false]
      exact ⟨fun h => ⟨h, h ▸ hne⟩, And.left⟩

end FirstFacts

namespace Grammar

variable {g : Grammar} {p : Production} {facts : FirstFacts} {x : Symbol}

/-- The symbols that a FIRST set of the grammar can hold. -/
def firstRange (g : Grammar) : List Symbol := .epsilon :: g.writtenTerminals

structure FactsInRange (g : Grammar) (facts : FirstFacts) : Prop where
  nodup : facts.Nodup
  inRange : ∀ fact ∈ facts, fact.1 ∈ g.nonterminals ∧ fact.2 ∈ g.firstRange

theorem mem_writtenTerminals (hg : g.WellFormed) (hp : p ∈ g.productions) {X : Symbol} (hX : X ∈ p.rhs)
    (hterminal : X.isTerminal = true) : X ∈ g.writtenTerminals := by
  have hmem := mem_terminals_of_mem_rhs hg hp hX hterminal
  rcases List.mem_append.mp hmem with hmem | hmem
  · exact hmem
  · exact absurd (List.mem_singleton.mp hmem) (rhs_written hg hp X hX).ne_endMarker

theorem isWritten_of_mem_writtenTerminals (hg : g.WellFormed) {X : Symbol} (h : X ∈ g.writtenTerminals) :
    X.IsWritten := by
  rw [writtenTerminals, Distinct.mem_ofList, List.mem_flatMap] at h
  obtain ⟨rule, hrule, hX⟩ := h
  exact hg.rhs_written rule hrule X (List.mem_of_mem_filter hX)

theorem mem_firstRange_of_mem_ofSequence (hfacts : g.FactsInRange facts) {symbols : List Symbol}
    (hsymbols : ∀ X ∈ symbols, X.isNonterminal = true ∨ X ∈ g.writtenTerminals)
    (hx : x ∈ facts.ofSequence symbols) : x ∈ g.firstRange := by
  induction symbols with
  | nil =>
    rw [FirstFacts.mem_ofSequence_nil.mp hx]
    exact List.mem_cons_self
  | cons X rest ih =>
    have hrest : ∀ Y ∈ rest, Y.isNonterminal = true ∨ Y ∈ g.writtenTerminals :=
      fun Y hY => hsymbols Y (List.mem_cons_of_mem X hY)
    cases hX : X.isNonterminal with
    | true =>
      rcases (FirstFacts.mem_ofSequence_cons_of_isNonterminal hX).mp hx with ⟨hx, -⟩ | ⟨-, hx⟩
      · exact (hfacts.inRange _ hx).2
      · exact ih hrest hx
    | false =>
      rw [FirstFacts.mem_ofSequence_cons_of_not_isNonterminal hX] at hx
      rcases hsymbols X List.mem_cons_self with h | h
      · rw [hX] at h
        cases h
      · exact hx ▸ List.mem_cons_of_mem _ h

theorem rhs_nonterminal_or_writtenTerminal (hg : g.WellFormed) (hp : p ∈ g.productions) :
    ∀ X ∈ p.rhs, X.isNonterminal = true ∨ X ∈ g.writtenTerminals := by
  intro X hX
  rcases (rhs_written hg hp X hX).isTerminal_or_isNonterminal with h | h
  · exact Or.inr (mem_writtenTerminals hg hp hX h)
  · exact Or.inl h

theorem FactsInRange.applyProduction (hg : g.WellFormed) (hp : p ∈ g.productions)
    (h : g.FactsInRange facts) : g.FactsInRange (applyProduction facts p) where
  nodup := FirstFacts.nodup_add h.nodup _ _
  inRange := by
    rintro ⟨A, x⟩ hfact
    rcases FirstFacts.mem_add.mp hfact with hfact | ⟨rfl, hx⟩
    · exact h.inRange _ hfact
    · exact ⟨lhs_mem_nonterminals hp,
        mem_firstRange_of_mem_ofSequence h (rhs_nonterminal_or_writtenTerminal hg hp) hx⟩

/-- What every application of a production keeps, a pass over productions keeps. -/
theorem foldl_applyProduction_induction (Kept : FirstFacts → Prop) {ps : List Production}
    (hps : ∀ p ∈ ps, p ∈ g.productions)
    (happly : ∀ facts, ∀ p ∈ g.productions, Kept facts → Kept (Grammar.applyProduction facts p)) (h : Kept facts) :
    Kept (ps.foldl Grammar.applyProduction facts) := by
  induction ps generalizing facts with
  | nil => exact h
  | cons p ps ih =>
    exact ih (fun q hq => hps q (List.mem_cons_of_mem p hq)) (happly facts p (hps p List.mem_cons_self) h)

theorem FactsInRange.foldl_applyProduction (hg : g.WellFormed) {ps : List Production}
    (hps : ∀ p ∈ ps, p ∈ g.productions) (h : g.FactsInRange facts) :
    g.FactsInRange (ps.foldl Grammar.applyProduction facts) :=
  foldl_applyProduction_induction g.FactsInRange hps (fun _ _ hp h => h.applyProduction hg hp) h

theorem mem_passProductions {p : Production} :
    p ∈ g.productions ++ g.productions.reverse ↔ p ∈ g.productions := by
  simp

/-- What every application of a production keeps, the facts of the grammar keep. -/
theorem firstFacts_induction (Kept : FirstFacts → Prop)
    (happly : ∀ facts, ∀ p ∈ g.productions, Kept facts → Kept (Grammar.applyProduction facts p)) (h : Kept []) :
    Kept g.firstFacts :=
  saturate_induction
    (fun _ h => foldl_applyProduction_induction Kept (fun _ hp => mem_passProductions.mp hp) happly h) _ h

theorem FactsInRange.firstPass (hg : g.WellFormed) (h : g.FactsInRange facts) :
    g.FactsInRange (g.firstPass facts) :=
  h.foldl_applyProduction hg fun _ hp => mem_passProductions.mp hp

theorem FactsInRange.length_le (h : g.FactsInRange facts) :
    facts.length ≤ g.nonterminals.length * g.terminals.length := by
  have hsubset : facts ⊆ g.nonterminals ×ˢ g.firstRange := by
    intro fact hfact
    exact List.mem_product.mpr (h.inRange fact hfact)
  have hlength := (h.nodup.subperm hsubset).length_le
  rwa [List.length_product, firstRange, List.length_cons,
    show g.writtenTerminals.length + 1 = g.terminals.length by simp [terminals]] at hlength

theorem prefix_applyProduction (facts : FirstFacts) (p : Production) :
    facts <+: applyProduction facts p :=
  FirstFacts.prefix_add facts _ _

theorem factsInRange_firstFacts (hg : g.WellFormed) : g.FactsInRange g.firstFacts :=
  firstFacts_induction g.FactsInRange (fun _ _ hp h => h.applyProduction hg hp) ⟨List.nodup_nil, by simp⟩

theorem firstPass_firstFacts (hg : g.WellFormed) : g.firstPass g.firstFacts = g.firstFacts :=
  step_saturate_of_prefix _ g.FactsInRange
    (fun facts => prefix_foldl prefix_applyProduction facts _)
    (fun _ h => FactsInRange.firstPass hg h) (fun _ h => h.length_le)
    ⟨List.nodup_nil, by simp⟩ (by simp)

/-- The facts hold whatever a production asks for. -/
theorem mem_firstFacts_of_mem_ofSequence (hg : g.WellFormed) (hp : p ∈ g.productions)
    (hx : x ∈ g.firstFacts.ofSequence p.rhs) : (p.lhs, x) ∈ g.firstFacts := by
  have hfixed : applyProduction g.firstFacts p = g.firstFacts :=
    step_eq_of_foldl_eq prefix_applyProduction (firstPass_firstFacts hg) p (mem_passProductions.mpr hp)
  rw [← hfixed]
  exact FirstFacts.mem_add.mpr (Or.inr ⟨rfl, hx⟩)

/-- The facts hold whatever the productions ask for. -/
def Respects (g : Grammar) (facts : FirstFacts) : Prop :=
  ∀ p ∈ g.productions, ∀ x ∈ facts.ofSequence p.rhs, (p.lhs, x) ∈ facts

theorem respects_firstFacts (hg : g.WellFormed) : g.Respects g.firstFacts :=
  fun _ hp _ hx => mem_firstFacts_of_mem_ofSequence hg hp hx

/-- What a production asks for stays among facts that respect it. -/
theorem Respects.applyProduction {bound : FirstFacts} (hbound : g.Respects bound) (hp : p ∈ g.productions)
    (h : ∀ fact ∈ facts, fact ∈ bound) : ∀ fact ∈ Grammar.applyProduction facts p, fact ∈ bound := by
  rintro ⟨A, x⟩ hfact
  rcases FirstFacts.mem_add.mp hfact with hfact | ⟨rfl, hx⟩
  · exact h _ hfact
  · exact hbound p hp x (FirstFacts.mem_ofSequence_of_subset h hx)

theorem Respects.foldl_applyProduction {bound : FirstFacts} (hbound : g.Respects bound) {ps : List Production}
    (hps : ∀ p ∈ ps, p ∈ g.productions) (h : ∀ fact ∈ facts, fact ∈ bound) :
    ∀ fact ∈ ps.foldl Grammar.applyProduction facts, fact ∈ bound :=
  foldl_applyProduction_induction (fun facts => ∀ fact ∈ facts, fact ∈ bound) hps
    (fun _ _ hp h => hbound.applyProduction hp h) h

/-- The facts of a grammar are the least that respect its productions. -/
theorem Respects.mem_of_mem_firstFacts {bound : FirstFacts} (hbound : g.Respects bound) :
    ∀ fact ∈ g.firstFacts, fact ∈ bound :=
  firstFacts_induction (fun facts => ∀ fact ∈ facts, fact ∈ bound)
    (fun _ _ hp h => hbound.applyProduction hp h) (by simp)

end Grammar

end CanonicalLR
