import CanonicalLR.Grammar.Reader

/-! # What every grammar keeps that a text gives

The symbols of its rules have written names, each of one kind, and its first rule gives the start
symbol. The end marker and the fresh start symbol have no written names, so no rule mentions them.
-/
namespace CanonicalLR

namespace Symbol

/-- The symbol has a name that a rule can contain, and the kind that the name tells. -/
def IsWritten (X : Symbol) : Prop :=
  X.kind = .terminal ∧ Grammar.isTerminalName X.name.toList = true ∨
    X.kind = .nonterminal ∧ Grammar.isNonterminalName X.name.toList = true

theorem isAlphanum_eq (c : Char) : c.isAlphanum = (c.isUpper || c.isLower || c.isDigit) := rfl

theorem isLower_or_isDigit_of_isUpper {c : Char} (h : c.isUpper = true) : (c.isLower || c.isDigit) = false := by
  have hupper : 'A'.val ≤ c.val ∧ c.val ≤ 'Z'.val := of_decide_eq_true h
  change (decide ('a'.val ≤ c.val) && decide (c.val ≤ 'z'.val) ||
    decide ('0'.val ≤ c.val) && decide (c.val ≤ '9'.val)) = false
  simp only [UInt32.le_iff_toNat_le, Bool.or_eq_false_iff, Bool.and_eq_false_iff, decide_eq_false_iff_not]
    at hupper ⊢
  have hA : 'A'.val.toNat = 65 := rfl
  have hZ : 'Z'.val.toNat = 90 := rfl
  have ha : 'a'.val.toNat = 97 := rfl
  have h9 : '9'.val.toNat = 57 := rfl
  omega

theorem not_isTerminalName_of_isNonterminalName {name : List Char}
    (h : Grammar.isNonterminalName name = true) : Grammar.isTerminalName name = false := by
  cases name with
  | nil => rfl
  | cons c rest =>
    simp only [Grammar.isNonterminalName, Bool.and_eq_true] at h
    simp [Grammar.isTerminalName, isLower_or_isDigit_of_isUpper h.1]

namespace IsWritten

variable {X Y : Symbol}

theorem isAlphanum (h : X.IsWritten) : ∀ c ∈ X.name.toList, c.isAlphanum = true := by
  rcases h with ⟨-, h⟩ | ⟨-, h⟩
  · cases hname : X.name.toList with
    | nil => simp
    | cons c rest =>
      rw [hname, Grammar.isTerminalName, List.all_eq_true] at h
      intro d hd
      have hd := h d hd
      simp only [Bool.or_eq_true] at hd
      rcases hd with hd | hd <;> simp [isAlphanum_eq, hd]
  · cases hname : X.name.toList with
    | nil => simp
    | cons c rest =>
      rw [hname, Grammar.isNonterminalName, Bool.and_eq_true, List.all_eq_true] at h
      intro d hd
      rcases List.mem_cons.mp hd with rfl | hd
      · simp [isAlphanum_eq, h.1]
      · exact h.2 d hd

/-- No name is a terminal's and a nonterminal's at once. -/
theorem eq_of_name_eq (hX : X.IsWritten) (hY : Y.IsWritten) (h : X.name = Y.name) : X = Y := by
  have hkind : X.kind = Y.kind := by
    rcases hX with ⟨kX, hX⟩ | ⟨kX, hX⟩ <;> rcases hY with ⟨kY, hY⟩ | ⟨kY, hY⟩
    · exact kX.trans kY.symm
    · rw [h, not_isTerminalName_of_isNonterminalName hY] at hX
      cases hX
    · rw [← h, not_isTerminalName_of_isNonterminalName hX] at hY
      cases hY
    · exact kX.trans kY.symm
  obtain ⟨kind, name⟩ := X
  obtain ⟨kind', name'⟩ := Y
  simp only at hkind h
  rw [hkind, h]

theorem ne_endMarker (h : X.IsWritten) : X ≠ .endMarker := by
  rintro rfl
  have := h.isAlphanum '$' (by decide)
  revert this
  decide

theorem not_isEpsilon (h : X.IsWritten) : X.kind ≠ .epsilon := by
  rcases h with ⟨hkind, -⟩ | ⟨hkind, -⟩ <;> rw [hkind] <;> decide

theorem isTerminal_or_isNonterminal (h : X.IsWritten) :
    X.isTerminal = true ∨ X.isNonterminal = true := by
  rcases h with ⟨hkind, -⟩ | ⟨hkind, -⟩
  · exact Or.inl (by simp [isTerminal, hkind])
  · exact Or.inr (by simp [isNonterminal, hkind])

end IsWritten

end Symbol

namespace Grammar

structure WellFormed (g : Grammar) : Prop where
  start_first : ∃ rule rest, g.rules = rule :: rest ∧ rule.lhs = g.start
  lhs_written : ∀ rule ∈ g.rules, rule.lhs.IsWritten ∧ rule.lhs.isNonterminal = true
  rhs_written : ∀ rule ∈ g.rules, ∀ X ∈ rule.rhs, X.IsWritten

theorem bind_eq_ok {ε α β : Type} {x : Except ε α} {f : α → Except ε β} {b : β} :
    x >>= f = .ok b ↔ ∃ a, x = .ok a ∧ f a = .ok b := by
  cases x with
  | error e => simp [bind, Except.bind]
  | ok a => simp [bind, Except.bind]

theorem isNonterminalName_of_splitRule {line lhs : List Char} {body : List (List Char)}
    (h : splitRule line = some (lhs, body)) : isNonterminalName lhs = true := by
  unfold splitRule at h
  split at h
  · cases h
  · split at h
    · next c rest _ hc =>
      split at h
      · cases h
        simp only [isNonterminalName, hc, Bool.true_and]
        exact List.all_takeWhile
      · cases h
    · cases h

theorem readSymbol_written {number : Nat} {line : String} {word : List Char} {X : Symbol}
    (h : readSymbol number line word = .ok X) : X.IsWritten := by
  unfold readSymbol at h
  split at h
  · next hword =>
    cases h
    exact Or.inl ⟨rfl, by rw [Symbol.terminal, String.toList_ofList]; exact hword⟩
  · split at h
    · next hword =>
      cases h
      exact Or.inr ⟨rfl, by rw [Symbol.nonterminal, String.toList_ofList]; exact hword⟩
    · cases h

theorem readSymbols_written {number : Nat} {line : String} {words : List (List Char)} {rhs : List Symbol}
    (h : readSymbols number line words = .ok rhs) : ∀ X ∈ rhs, X.IsWritten := by
  induction words generalizing rhs with
  | nil =>
    cases h
    simp
  | cons word rest ih =>
    obtain ⟨Y, hY, h⟩ := bind_eq_ok.mp h
    obtain ⟨symbols, hrest, h⟩ := bind_eq_ok.mp h
    cases h
    intro X hX
    rcases List.mem_cons.mp hX with rfl | hX
    · exact readSymbol_written hY
    · exact ih hrest X hX

theorem readRule_written {number : Nat} {line : List Char} {rule : Rule}
    (h : readRule number line = .ok rule) :
    (rule.lhs.IsWritten ∧ rule.lhs.isNonterminal = true) ∧ ∀ X ∈ rule.rhs, X.IsWritten := by
  unfold readRule at h
  split at h
  · cases h
  · next lhs body hsplit =>
    have hname := isNonterminalName_of_splitRule hsplit
    have hlhs : (Symbol.nonterminal (String.ofList lhs)).IsWritten :=
      Or.inr ⟨rfl, by rw [Symbol.nonterminal, String.toList_ofList]; exact hname⟩
    dsimp only at h
    split at h
    · cases h
      exact ⟨⟨hlhs, rfl⟩, by simp⟩
    · split at h
      · cases h
      · obtain ⟨rhs, hrhs, h⟩ := bind_eq_ok.mp h
        cases h
        exact ⟨⟨hlhs, rfl⟩, readSymbols_written hrhs⟩

theorem readRules_written {lines : List (List Char × Nat)} {rules : List Rule}
    (h : readRules lines = .ok rules) :
    ∀ rule ∈ rules, (rule.lhs.IsWritten ∧ rule.lhs.isNonterminal = true) ∧ ∀ X ∈ rule.rhs, X.IsWritten := by
  induction lines generalizing rules with
  | nil =>
    cases h
    simp
  | cons entry rest ih =>
    obtain ⟨first, hfirst, h⟩ := bind_eq_ok.mp h
    obtain ⟨others, hothers, h⟩ := bind_eq_ok.mp h
    cases h
    intro rule hrule
    rcases List.mem_cons.mp hrule with rfl | hrule
    · exact readRule_written hfirst
    · exact ih hothers rule hrule

theorem wellFormed_of_read {text : String} {g : Grammar} (h : read text = .ok g) : g.WellFormed := by
  obtain ⟨rules, hrules, h⟩ := bind_eq_ok.mp h
  cases rules with
  | nil => cases h
  | cons rule rest =>
    cases h
    have hwritten := readRules_written hrules
    exact {
      start_first := ⟨rule, rest, rfl, rfl⟩
      lhs_written := fun r hr => (hwritten r hr).1
      rhs_written := fun r hr => (hwritten r hr).2 }

/-- The words `a…ab…b` with as many `b` as `a`. -/
def nested : Grammar where
  start := .nonterminal "S"
  rules := [⟨.nonterminal "S", [.terminal "a", .nonterminal "S", .terminal "b"]⟩, ⟨.nonterminal "S", []⟩]

theorem read_nested : read "S -> a S b\nS ->" = .ok nested := rfl

end Grammar

end CanonicalLR
