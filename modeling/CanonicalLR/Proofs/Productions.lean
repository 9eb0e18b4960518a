import CanonicalLR.Proofs.Reading
import Mathlib.Data.List.Nodup

/-! # The productions of a well-formed grammar

Production 0 introduces the fresh start symbol, and production `n + 1` is rule `n`. So a number singles
out a production, only production 0 has the fresh start symbol on its left, and no production has it,
or the end marker, on its right.
-/
namespace CanonicalLR

def Production.rule (p : Production) : Rule := ⟨p.lhs, p.rhs⟩

/-- Where only one entry can fit, a search finds the one that does. -/
theorem find?_eq_some_iff_of_unique {α : Type} {fits : α → Bool} {l : List α} {x : α}
    (hunique : ∀ y ∈ l, ∀ z ∈ l, fits y = true → fits z = true → y = z) :
    l.find? fits = some x ↔ x ∈ l ∧ fits x = true := by
  constructor
  · intro h
    exact ⟨List.mem_of_find?_eq_some h, List.find?_some h⟩
  · rintro ⟨hx, hfits⟩
    obtain ⟨y, hy⟩ := Option.isSome_iff_exists.mp (List.find?_isSome.mpr ⟨x, hx, hfits⟩)
    rw [hy, hunique y (List.mem_of_find?_eq_some hy) x hx (List.find?_some hy) hfits]

namespace Grammar

variable {g : Grammar} {p q : Production}

theorem mem_productions :
    p ∈ g.productions ↔
      p = g.augmentedProduction ∨ ∃ n, g.rules[n]? = some p.rule ∧ p.id = n + 1 := by
  obtain ⟨id, lhs, rhs⟩ := p
  simp only [productions, Production.rule, List.mem_cons, List.mem_map, Prod.exists,
    List.mk_mem_zipIdx_iff_le_and_getElem?_sub, Production.mk.injEq]
  apply or_congr_right
  constructor
  · rintro ⟨rule, k, ⟨hk, hrule⟩, rfl, rfl, rfl⟩
    exact ⟨k - 1, hrule, by omega⟩
  · rintro ⟨n, hrule, rfl⟩
    exact ⟨⟨lhs, rhs⟩, n + 1, ⟨by omega, by simpa using hrule⟩, rfl, rfl, rfl⟩

theorem augmentedProduction_mem (g : Grammar) : g.augmentedProduction ∈ g.productions :=
  mem_productions.mpr (Or.inl rfl)

theorem mem_rules_of_id_ne_zero (hp : p ∈ g.productions) (h : p.id ≠ 0) :
    p.rule ∈ g.rules := by
  rcases mem_productions.mp hp with rfl | ⟨n, hrule, -⟩
  · exact absurd rfl h
  · exact List.mem_of_getElem? hrule

theorem exists_production_of_mem_rules {rule : Rule} (h : rule ∈ g.rules) :
    ∃ p ∈ g.productions, p.rule = rule ∧ p.id ≠ 0 := by
  obtain ⟨n, hn⟩ := List.mem_iff_getElem?.mp h
  exact ⟨⟨n + 1, rule.lhs, rule.rhs⟩, mem_productions.mpr (Or.inr ⟨n, hn, rfl⟩), rfl, by simp⟩

theorem eq_augmentedProduction_of_id_eq_zero (hp : p ∈ g.productions) (h : p.id = 0) :
    p = g.augmentedProduction := by
  rcases mem_productions.mp hp with rfl | ⟨n, -, hid⟩
  · rfl
  · omega

theorem eq_of_id_eq (hp : p ∈ g.productions) (hq : q ∈ g.productions) (h : p.id = q.id) : p = q := by
  rcases mem_productions.mp hp with rfl | ⟨m, hm, hpid⟩
  · exact (eq_augmentedProduction_of_id_eq_zero hq h.symm).symm
  · rcases mem_productions.mp hq with rfl | ⟨n, hn, hqid⟩
    · exact eq_augmentedProduction_of_id_eq_zero hp h
    · obtain rfl : m = n := by omega
      obtain ⟨id, lhs, rhs⟩ := p
      obtain ⟨id', lhs', rhs'⟩ := q
      rw [hm] at hn
      cases hn
      cases h
      rfl

theorem ids_productions (g : Grammar) : g.productions.map Production.id = List.range (g.rules.length + 1) := by
  have hids : g.productions.map Production.id = 0 :: (g.rules.zipIdx 1).map Prod.snd := by
    rw [productions, List.map_cons, List.map_map]
    rfl
  rw [hids, List.zipIdx_map_snd, List.range_eq_range', List.range'_succ]

theorem nodup_productions (g : Grammar) : g.productions.Nodup := by
  apply List.Nodup.of_map Production.id
  rw [ids_productions]
  exact List.nodup_range

theorem map_rule_productions (g : Grammar) :
    g.productions.map Production.rule = g.augmentedProduction.rule :: g.rules := by
  have hrules : (g.rules.zipIdx 1).map Prod.fst = g.rules := List.zipIdx_map_fst 1 g.rules
  rw [productions, List.map_cons, List.map_map]
  exact congrArg _ hrules

theorem map_rule_drop_productions (g : Grammar) : (g.productions.drop 1).map Production.rule = g.rules := by
  rw [List.map_drop, map_rule_productions]
  rfl

theorem production?_eq_some_iff {id : Int} :
    g.production? id = some p ↔ p ∈ g.productions ∧ (p.id : Int) = id := by
  rw [production?, find?_eq_some_iff_of_unique, decide_eq_true_eq]
  intro q hq r hr hqid hrid
  have hids := (of_decide_eq_true hqid).trans (of_decide_eq_true hrid).symm
  exact eq_of_id_eq hq hr (Int.natCast_inj.mp hids)

theorem start_written (hg : g.WellFormed) : g.start.IsWritten ∧ g.start.isNonterminal = true := by
  obtain ⟨rule, rest, hrules, hlhs⟩ := hg.start_first
  rw [← hlhs]
  exact hg.lhs_written rule (by simp [hrules])

theorem not_isWritten_augmentedStart (g : Grammar) : ¬ g.augmentedStart.IsWritten := by
  intro h
  have hquote := h.isAlphanum '\'' (by simp [augmentedStart, Symbol.nonterminal])
  revert hquote
  decide

theorem rhs_written (hg : g.WellFormed) (hp : p ∈ g.productions) : ∀ X ∈ p.rhs, X.IsWritten := by
  by_cases h : p.id = 0
  · rw [eq_augmentedProduction_of_id_eq_zero hp h]
    intro X hX
    rw [List.mem_singleton.mp hX]
    exact (start_written hg).1
  · exact hg.rhs_written _ (mem_rules_of_id_ne_zero hp h)

theorem rhs_ne_epsilon (hg : g.WellFormed) (hp : p ∈ g.productions) : ∀ X ∈ p.rhs, X ≠ .epsilon := by
  rintro X hX rfl
  exact (rhs_written hg hp _ hX).not_isEpsilon rfl

theorem lhs_isNonterminal (hg : g.WellFormed) (hp : p ∈ g.productions) : p.lhs.isNonterminal = true := by
  by_cases h : p.id = 0
  · rw [eq_augmentedProduction_of_id_eq_zero hp h]
    rfl
  · exact (hg.lhs_written _ (mem_rules_of_id_ne_zero hp h)).2

theorem lhs_written (hg : g.WellFormed) (hp : p ∈ g.productions) (h : p.id ≠ 0) : p.lhs.IsWritten :=
  (hg.lhs_written _ (mem_rules_of_id_ne_zero hp h)).1

theorem eq_augmentedProduction_of_lhs_eq (hg : g.WellFormed) (hp : p ∈ g.productions)
    (h : p.lhs = g.augmentedStart) : p = g.augmentedProduction := by
  by_cases hid : p.id = 0
  · exact eq_augmentedProduction_of_id_eq_zero hp hid
  · exact absurd (h ▸ lhs_written hg hp hid) (not_isWritten_augmentedStart g)

/-- When no rule is written twice, a rule singles out its production. -/
theorem eq_of_rule_eq (hg : g.WellFormed) (hdistinct : g.rules.Nodup) (hp : p ∈ g.productions)
    (hq : q ∈ g.productions) (h : p.rule = q.rule) : p = q := by
  rcases mem_productions.mp hp with rfl | ⟨m, hm, hpid⟩
  · exact (eq_augmentedProduction_of_lhs_eq hg hq (congrArg Rule.lhs h).symm).symm
  · rcases mem_productions.mp hq with rfl | ⟨n, hn, hqid⟩
    · exact eq_augmentedProduction_of_lhs_eq hg hp (congrArg Rule.lhs h)
    · have hlt := (List.getElem?_eq_some_iff.mp hm).1
      have hmn : m = n := (List.getElem?_inj hlt hdistinct).mp (by rw [hm, hn, h])
      exact eq_of_id_eq hp hq (by rw [hpid, hqid, hmn])

/-- The fresh start symbol stands on no right side, so nothing waits for it. -/
theorem augmentedStart_not_mem_rhs (hg : g.WellFormed) (hp : p ∈ g.productions) :
    g.augmentedStart ∉ p.rhs :=
  fun h => not_isWritten_augmentedStart g (rhs_written hg hp _ h)

theorem mem_terminals {X : Symbol} :
    X ∈ g.terminals ↔ (X.isTerminal = true ∧ ∃ rule ∈ g.rules, X ∈ rule.rhs) ∨ X = .endMarker := by
  simp only [terminals, writtenTerminals, List.mem_append, Distinct.mem_ofList, List.mem_flatMap,
    List.mem_filter, List.mem_singleton]
  apply or_congr_left
  constructor
  · rintro ⟨rule, hrule, hX, hterminal⟩
    exact ⟨hterminal, rule, hrule, hX⟩
  · rintro ⟨hterminal, rule, hrule, hX⟩
    exact ⟨rule, hrule, hX, hterminal⟩

theorem mem_terminals_of_mem_rhs (hg : g.WellFormed) (hp : p ∈ g.productions) {X : Symbol} (hX : X ∈ p.rhs)
    (hterminal : X.isTerminal = true) : X ∈ g.terminals := by
  by_cases h : p.id = 0
  · rw [eq_augmentedProduction_of_id_eq_zero hp h] at hX
    rw [List.mem_singleton.mp hX] at hterminal
    have hstart := (start_written hg).2
    simp only [Symbol.isTerminal, Symbol.isNonterminal, decide_eq_true_eq] at hterminal hstart
    rw [hterminal] at hstart
    cases hstart
  · exact mem_terminals.mpr (Or.inl ⟨hterminal, _, mem_rules_of_id_ne_zero hp h, hX⟩)

theorem isTerminal_of_mem_terminals {X : Symbol} (h : X ∈ g.terminals) : X.isTerminal = true := by
  rcases mem_terminals.mp h with ⟨hterminal, -⟩ | rfl
  · exact hterminal
  · rfl

theorem mem_writtenNonterminals {X : Symbol} :
    X ∈ g.writtenNonterminals ↔ ∃ rule ∈ g.rules, X = rule.lhs ∨ X ∈ rule.rhs ∧ X.isNonterminal = true := by
  simp only [writtenNonterminals, Distinct.mem_ofList, List.mem_flatMap, List.mem_cons, List.mem_filter]

theorem mem_writtenNonterminals_of_mem_rhs (hg : g.WellFormed) (hp : p ∈ g.productions) {X : Symbol} (hX : X ∈ p.rhs)
    (hnonterminal : X.isNonterminal = true) : X ∈ g.writtenNonterminals := by
  rw [mem_writtenNonterminals]
  by_cases h : p.id = 0
  · obtain ⟨rule, rest, hrules, hstart⟩ := hg.start_first
    rw [eq_augmentedProduction_of_id_eq_zero hp h] at hX
    rw [List.mem_singleton.mp hX, ← hstart]
    exact ⟨rule, by simp [hrules], Or.inl rfl⟩
  · exact ⟨p.rule, mem_rules_of_id_ne_zero hp h, Or.inr ⟨hX, hnonterminal⟩⟩

theorem written_of_mem_writtenNonterminals (hg : g.WellFormed) {X : Symbol} (h : X ∈ g.writtenNonterminals) :
    X.IsWritten ∧ X.isNonterminal = true := by
  obtain ⟨rule, hrule, rfl | ⟨hX, hnonterminal⟩⟩ := mem_writtenNonterminals.mp h
  · exact hg.lhs_written rule hrule
  · exact ⟨hg.rhs_written rule hrule X hX, hnonterminal⟩

theorem lhs_mem_nonterminals (hp : p ∈ g.productions) : p.lhs ∈ g.nonterminals := by
  by_cases h : p.id = 0
  · rw [eq_augmentedProduction_of_id_eq_zero hp h]
    exact List.mem_cons_self
  · exact List.mem_cons_of_mem _ (mem_writtenNonterminals.mpr ⟨_, mem_rules_of_id_ne_zero hp h, Or.inl rfl⟩)

theorem isNonterminal_of_mem_nonterminals (hg : g.WellFormed) {X : Symbol} (h : X ∈ g.nonterminals) :
    X.isNonterminal = true := by
  rcases List.mem_cons.mp h with rfl | h
  · rfl
  · exact (written_of_mem_writtenNonterminals hg h).2

end Grammar

end CanonicalLR
