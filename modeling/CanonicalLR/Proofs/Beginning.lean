import CanonicalLR.Proofs.First
import Mathlib.Logic.Relation

/-! # FIRST is what derivations begin with

A step replaces a symbol by the right side of one of its productions, the production of the fresh start symbol
included. Every FIRST fact comes from such steps, whether or not they can go on to words. Conversely a step only
takes from FIRST of a sequence, so FIRST holds whatever a sequence comes to begin with, or `ε` if it vanishes. A
nonterminal that the grammar does not know has no steps, and nothing in FIRST.
-/
namespace CanonicalLR.Grammar

variable {g : Grammar} {p : Production} {facts : FirstFacts} {u v u' v' symbols : List Symbol} {A x : Symbol}

/-- A production replaces its left side by its right side. -/
inductive Expands (g : Grammar) : List Symbol → List Symbol → Prop
  | intro {p : Production} (mem : p ∈ g.productions) (left right : List Symbol) :
      Expands g (left ++ p.lhs :: right) (left ++ p.rhs ++ right)

def ExpandsTo (g : Grammar) : List Symbol → List Symbol → Prop := Relation.ReflTransGen g.Expands

/-- Some steps lead from the symbols to a sequence that begins with `a`. -/
def Begins (g : Grammar) (symbols : List Symbol) (a : Symbol) : Prop :=
  ∃ rest, g.ExpandsTo symbols (a :: rest)

theorem Expands.append_left (h : g.Expands u v) (left : List Symbol) : g.Expands (left ++ u) (left ++ v) := by
  obtain ⟨mem, before, after⟩ := h
  rw [← List.append_assoc, ← List.append_assoc, ← List.append_assoc]
  exact .intro mem (left ++ before) after

theorem Expands.append_right (h : g.Expands u v) (right : List Symbol) : g.Expands (u ++ right) (v ++ right) := by
  obtain ⟨mem, before, after⟩ := h
  rw [List.append_assoc, List.cons_append, List.append_assoc]
  exact .intro mem before (after ++ right)

theorem ExpandsTo.append (hu : g.ExpandsTo u u') (hv : g.ExpandsTo v v') : g.ExpandsTo (u ++ v) (u' ++ v') := by
  have hleft : g.ExpandsTo (u ++ v) (u' ++ v) := hu.lift (· ++ v) fun _ _ h => h.append_right v
  have hright : g.ExpandsTo (u' ++ v) (u' ++ v') := hv.lift (u' ++ ·) fun _ _ h => h.append_left u'
  exact hleft.trans hright

theorem expandsTo_rhs (hp : p ∈ g.productions) : g.ExpandsTo [p.lhs] p.rhs := by
  have hstep := Expands.intro hp [] []
  rw [List.nil_append, List.append_nil, List.nil_append] at hstep
  exact Relation.ReflTransGen.single hstep

/-- The symbols vanish if `x` is `ε`, and otherwise come to begin with the terminal `x`. -/
def HasFirst (g : Grammar) (symbols : List Symbol) (x : Symbol) : Prop :=
  x = .epsilon ∧ g.ExpandsTo symbols [] ∨ x.isTerminal = true ∧ g.Begins symbols x

theorem HasFirst.of_expandsTo (h : g.ExpandsTo u v) (hx : g.HasFirst v x) : g.HasFirst u x := by
  rcases hx with ⟨rfl, hv⟩ | ⟨hterminal, rest, hv⟩
  · exact Or.inl ⟨rfl, h.trans hv⟩
  · exact Or.inr ⟨hterminal, rest, h.trans hv⟩

theorem HasFirst.append_right (hx : g.HasFirst u x) (hne : x ≠ .epsilon) (right : List Symbol) :
    g.HasFirst (u ++ right) x := by
  rcases hx with ⟨hepsilon, -⟩ | ⟨hterminal, rest, hu⟩
  · exact absurd hepsilon hne
  · exact Or.inr ⟨hterminal, rest ++ right, hu.append .refl⟩

theorem HasFirst.expandsTo_nil (h : g.HasFirst u .epsilon) : g.ExpandsTo u [] := by
  rcases h with ⟨-, hu⟩ | ⟨hterminal, -⟩
  · exact hu
  · cases hterminal

/-- Every fact comes from steps. -/
def FactsExpand (g : Grammar) (facts : FirstFacts) : Prop :=
  ∀ A x, (A, x) ∈ facts → g.HasFirst [A] x

theorem FactsExpand.hasFirst (hfacts : g.FactsExpand facts)
    (hsymbols : ∀ X ∈ symbols, X.isTerminal = true ∨ X.isNonterminal = true) (hx : x ∈ facts.ofSequence symbols) :
    g.HasFirst symbols x := by
  induction symbols with
  | nil => exact Or.inl ⟨FirstFacts.mem_ofSequence_nil.mp hx, .refl⟩
  | cons X symbols ih =>
    have hrest := fun Y hY => hsymbols Y (List.mem_cons_of_mem X hY)
    cases hX : X.isNonterminal with
    | true =>
      rcases (FirstFacts.mem_ofSequence_cons_of_isNonterminal hX).mp hx with ⟨hfact, hne⟩ | ⟨hfact, hx⟩
      · exact (hfacts X x hfact).append_right hne symbols
      · have hvanishes : g.ExpandsTo (X :: symbols) symbols :=
          (hfacts X .epsilon hfact).expandsTo_nil.append .refl
        exact (ih hrest hx).of_expandsTo hvanishes
    | false =>
      rw [FirstFacts.mem_ofSequence_cons_of_not_isNonterminal hX] at hx
      have hterminal := (hsymbols X List.mem_cons_self).resolve_right (by simp [hX])
      exact Or.inr ⟨hx ▸ hterminal, symbols, hx ▸ .refl⟩

theorem rhs_terminal_or_nonterminal (hg : g.WellFormed) (hp : p ∈ g.productions) :
    ∀ X ∈ p.rhs, X.isTerminal = true ∨ X.isNonterminal = true :=
  fun X hX => (rhs_written hg hp X hX).isTerminal_or_isNonterminal

theorem FactsExpand.applyProduction (hg : g.WellFormed) (hp : p ∈ g.productions) (hfacts : g.FactsExpand facts) :
    g.FactsExpand (applyProduction facts p) := by
  intro A x hfact
  rcases FirstFacts.mem_add.mp hfact with hfact | ⟨rfl, hx⟩
  · exact hfacts A x hfact
  · exact (hfacts.hasFirst (rhs_terminal_or_nonterminal hg hp) hx).of_expandsTo (expandsTo_rhs hp)

theorem factsExpand_firstFacts (hg : g.WellFormed) : g.FactsExpand g.firstFacts :=
  firstFacts_induction g.FactsExpand (fun _ _ hp h => h.applyProduction hg hp) (by simp [FactsExpand])

theorem Expands.ne_epsilon (hg : g.WellFormed) (h : g.Expands u v) (hu : ∀ X ∈ u, X ≠ .epsilon) :
    ∀ X ∈ v, X ≠ .epsilon := by
  obtain ⟨mem, left, right⟩ := h
  intro X hX
  rw [List.append_assoc, List.mem_append, List.mem_append] at hX
  rcases hX with hX | hX | hX
  · exact hu X (List.mem_append_left _ hX)
  · exact rhs_ne_epsilon hg mem X hX
  · exact hu X (List.mem_append_right _ (List.mem_cons_of_mem _ hX))

/-- A step only takes from FIRST. -/
theorem mem_first_of_expands (hg : g.WellFormed) (hu : ∀ X ∈ u, X ≠ .epsilon) (h : g.Expands u v)
    (hx : x ∈ g.first v) : x ∈ g.first u := by
  cases h with
  | @intro p hp left right =>
    have hleft : ∀ X ∈ left, X ≠ .epsilon := fun X hX => hu X (List.mem_append_left _ hX)
    have hfact : ∀ y ∈ g.firstFacts.ofSequence p.rhs, (p.lhs, y) ∈ g.firstFacts :=
      fun y hy => mem_firstFacts_of_mem_ofSequence hg hp hy
    rw [List.append_assoc, first, FirstFacts.mem_ofSequence_append hleft,
      FirstFacts.mem_ofSequence_append (rhs_ne_epsilon hg hp)] at hx
    rw [first, FirstFacts.mem_ofSequence_append hleft,
      FirstFacts.mem_ofSequence_cons_of_isNonterminal (lhs_isNonterminal hg hp)]
    rcases hx with hx | ⟨hvanishes, ⟨hx, hne⟩ | ⟨hepsilon, hx⟩⟩
    · exact Or.inl hx
    · exact Or.inr ⟨hvanishes, Or.inl ⟨hfact x hx, hne⟩⟩
    · exact Or.inr ⟨hvanishes, Or.inr ⟨hfact _ hepsilon, hx⟩⟩

theorem mem_first_of_expandsTo (hg : g.WellFormed) (hu : ∀ X ∈ u, X ≠ .epsilon) (h : g.ExpandsTo u v)
    (hx : x ∈ g.first v) : x ∈ g.first u := by
  induction h using Relation.ReflTransGen.head_induction_on with
  | refl => exact hx
  | head hstep _ ih => exact mem_first_of_expands hg hu hstep (ih (hstep.ne_epsilon hg hu))

theorem mem_first_iff (hg : g.WellFormed)
    (hsymbols : ∀ X ∈ symbols, X.isTerminal = true ∨ X.isNonterminal = true) :
    x ∈ g.first symbols ↔ g.HasFirst symbols x := by
  have hne : ∀ X ∈ symbols, X ≠ .epsilon := by
    rintro X hX rfl
    rcases hsymbols _ hX with h | h
    · cases h
    · cases h
  constructor
  · exact (factsExpand_firstFacts hg).hasFirst hsymbols
  · rintro (⟨rfl, hvanishes⟩ | ⟨hterminal, rest, hbegins⟩)
    · exact mem_first_of_expandsTo hg hne hvanishes (FirstFacts.mem_ofSequence_nil.mpr rfl)
    · apply mem_first_of_expandsTo hg hne hbegins
      rw [Symbol.eq_terminal_of_isTerminal hterminal]
      exact (FirstFacts.mem_ofSequence_cons_of_not_isNonterminal rfl).mpr rfl

theorem mem_first_iff_begins (hg : g.WellFormed)
    (hsymbols : ∀ X ∈ symbols, X.isTerminal = true ∨ X.isNonterminal = true) (hx : x.isTerminal = true) :
    x ∈ g.first symbols ↔ g.Begins symbols x := by
  rw [mem_first_iff hg hsymbols]
  constructor
  · rintro (⟨rfl, -⟩ | ⟨-, hbegins⟩)
    · cases hx
    · exact hbegins
  · exact fun hbegins => Or.inr ⟨hx, hbegins⟩

/-- FIRST of a nonterminal alone holds its facts. -/
theorem mem_first_singleton (hA : A.isNonterminal = true) : x ∈ g.first [A] ↔ x ∈ g.firstFacts.of A := by
  rw [first, FirstFacts.mem_ofSequence_cons_of_isNonterminal hA, FirstFacts.mem_ofSequence_nil, FirstFacts.mem_of]
  constructor
  · rintro (⟨hx, -⟩ | ⟨hx, rfl⟩)
    · exact hx
    · exact hx
  · intro hx
    by_cases hepsilon : x = .epsilon
    · exact Or.inr ⟨hepsilon ▸ hx, hepsilon⟩
    · exact Or.inl ⟨hx, hepsilon⟩

/-- What FIRST of the symbols holds, and that the sets listed for the nonterminals hold the same. -/
structure FirstExact (g : Grammar) (symbols : List Symbol) : Prop where
  terminal : ∀ a, a.isTerminal = true → (a ∈ g.first symbols ↔ ∃ rest, g.ExpandsTo symbols (a :: rest))
  epsilon : .epsilon ∈ g.first symbols ↔ g.ExpandsTo symbols []
  nothing_else : ∀ x ∈ g.first symbols, x.isTerminal = true ∨ x = .epsilon
  listed : g.firstSets.map Prod.fst = g.nonterminals
  listed_eq : ∀ A xs, (A, xs) ∈ g.firstSets → ∀ x, x ∈ xs ↔ x ∈ g.first [A]

/-- The symbols may be any terminals and nonterminals, whether the grammar has them or not. -/
theorem first_exact {text : String} (hread : read text = .ok g)
    (hsymbols : ∀ X ∈ symbols, X.isTerminal = true ∨ X.isNonterminal = true) : g.FirstExact symbols := by
  have hg := wellFormed_of_read hread
  exact {
    terminal := fun a ha => mem_first_iff_begins hg hsymbols ha
    epsilon := by
      rw [mem_first_iff hg hsymbols]
      exact ⟨HasFirst.expandsTo_nil, fun hvanishes => Or.inl ⟨rfl, hvanishes⟩⟩
    nothing_else := by
      intro x hx
      rcases (mem_first_iff hg hsymbols).mp hx with ⟨hepsilon, -⟩ | ⟨hterminal, -⟩
      · exact Or.inr hepsilon
      · exact Or.inl hterminal
    listed := by
      simp [firstSets, Function.comp_def]
    listed_eq := by
      intro A xs hmem x
      obtain ⟨B, hB, hpair⟩ := List.mem_map.mp hmem
      obtain ⟨rfl, rfl⟩ := Prod.mk.inj hpair
      exact (mem_first_singleton (isNonterminal_of_mem_nonterminals hg hB)).symm }

/-- A grammar with a left recursion behind nonterminals that vanish in a circle, and a nonterminal without rules. -/
def hidden : Grammar where
  start := .nonterminal "S"
  rules := [⟨.nonterminal "S", [.nonterminal "A", .nonterminal "B", .nonterminal "S", .terminal "c"]⟩,
    ⟨.nonterminal "S", [.nonterminal "C"]⟩, ⟨.nonterminal "S", [.terminal "d"]⟩,
    ⟨.nonterminal "A", [.nonterminal "B"]⟩, ⟨.nonterminal "B", [.nonterminal "A"]⟩, ⟨.nonterminal "B", []⟩]

theorem read_hidden : read "S -> A B S c\nS -> C\nS -> d\nA -> B\nB -> A\nB ->" = .ok hidden := rfl

/-- The last nonterminal of the sequence is unknown to the grammar. -/
theorem first_exact_hidden :
    read "S -> A B S c\nS -> C\nS -> d\nA -> B\nB -> A\nB ->" = .ok hidden ∧
      hidden.FirstExact [.nonterminal "A", hidden.augmentedStart, .nonterminal "X"] :=
  ⟨read_hidden, first_exact read_hidden (by decide)⟩

end CanonicalLR.Grammar
