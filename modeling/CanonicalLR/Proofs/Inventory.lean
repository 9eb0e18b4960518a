import CanonicalLR.Proofs.Processor
import Mathlib.Data.List.Nodup

/-! # What a grammar that has been read lists

Its productions are numbered from 0, where 0 leads from the fresh start symbol to the left side of the first line and
each further one is what its line spells. Its lists hold each symbol once, where it first appears, and no name twice.
So a name is enough to look a symbol up.
-/
namespace CanonicalLR

namespace Distinct

variable {α : Type} [DecidableEq α] {occurrences found : List α}

/-- The list holds what occurs, in the order of the first occurrences. -/
structure Firsts (occurrences found : List α) : Prop where
  mem_iff : ∀ x, x ∈ found ↔ x ∈ occurrences
  in_order : found.Pairwise fun x y => occurrences.idxOf x < occurrences.idxOf y

theorem firsts_nil : Firsts ([] : List α) [] where
  mem_iff _ := Iff.rfl
  in_order := List.Pairwise.nil

/-- A new element first occurs behind all that has occurred before. -/
theorem Firsts.insert (h : Firsts occurrences found) (x : α) :
    Firsts (occurrences ++ [x]) (Distinct.insert found x) where
  mem_iff y := by rw [mem_insert, h.mem_iff, List.mem_append, List.mem_singleton]
  in_order := by
    have hidx : ∀ y ∈ found, (occurrences ++ [x]).idxOf y = occurrences.idxOf y := fun y hy =>
      List.idxOf_append_of_mem ((h.mem_iff y).mp hy)
    have hkept : found.Pairwise fun y z => (occurrences ++ [x]).idxOf y < (occurrences ++ [x]).idxOf z := by
      refine h.in_order.imp_of_mem fun hy hz hlt => ?_
      rwa [hidx _ hy, hidx _ hz]
    unfold Distinct.insert
    split
    · exact hkept
    · next hx =>
      rw [List.pairwise_append]
      refine ⟨hkept, List.pairwise_singleton _ x, fun y hy z hz => ?_⟩
      rw [List.mem_singleton.mp hz, hidx y hy, List.idxOf_append_of_notMem (hx ∘ (h.mem_iff x).mpr)]
      exact Nat.lt_add_right _ (List.idxOf_lt_length_of_mem ((h.mem_iff y).mp hy))

theorem firsts_ofList (occurrences : List α) : Firsts occurrences (ofList occurrences) := by
  induction occurrences using List.reverseRecOn with
  | nil => exact firsts_nil
  | append_singleton occurrences x ih =>
    rw [ofList, extend_concat]
    exact ih.insert x

end Distinct

theorem Symbol.IsWritten.name_ne {X : Symbol} (hX : X.IsWritten) {name : String} {c : Char} (hc : c ∈ name.toList)
    (hother : c.isAlphanum = false) : X.name ≠ name := by
  rintro rfl
  rw [hX.isAlphanum c hc] at hother
  cases hother

namespace Grammar

variable {g : Grammar} {p : Production} {X Y : Symbol} {lines : List (List Char)}

theorem apostrophe_mem_augmentedStart (g : Grammar) : '\'' ∈ g.augmentedStart.name.toList := by
  simp [augmentedStart, Symbol.nonterminal, String.toList_append]

theorem augmentedStart_name_ne (g : Grammar) : g.augmentedStart.name ≠ Symbol.endMarker.name := by
  intro h
  have hmem := g.apostrophe_mem_augmentedStart
  rw [h] at hmem
  exact absurd hmem (by decide)

theorem written_of_mem_lists (hg : g.WellFormed) (hX : X ∈ g.terminals ++ g.nonterminals) :
    X.IsWritten ∨ X = .endMarker ∨ X = g.augmentedStart := by
  rcases List.mem_append.mp hX with hX | hX
  · rcases mem_terminals.mp hX with ⟨-, rule, hrule, hX⟩ | rfl
    · exact Or.inl (hg.rhs_written rule hrule X hX)
    · exact Or.inr (Or.inl rfl)
  · rcases List.mem_cons.mp hX with rfl | hX
    · exact Or.inr (Or.inr rfl)
    · exact Or.inl (written_of_mem_writtenNonterminals hg hX).1

/-- Letters and digits, the dollar sign and the apostrophe keep the three sorts of names apart. -/
theorem eq_of_name_eq (hg : g.WellFormed) (hX : X ∈ g.terminals ++ g.nonterminals)
    (hY : Y ∈ g.terminals ++ g.nonterminals) (h : X.name = Y.name) : X = Y := by
  have hmarker : ∀ {Z : Symbol}, Z.IsWritten → Z.name ≠ Symbol.endMarker.name := fun hZ =>
    hZ.name_ne (c := '$') (by decide) (by decide)
  have hstart : ∀ {Z : Symbol}, Z.IsWritten → Z.name ≠ g.augmentedStart.name := fun hZ =>
    hZ.name_ne g.apostrophe_mem_augmentedStart (by decide)
  rcases written_of_mem_lists hg hX with hX | rfl | rfl <;> rcases written_of_mem_lists hg hY with hY | rfl | rfl
  · exact hX.eq_of_name_eq hY h
  · exact absurd h (hmarker hX)
  · exact absurd h (hstart hX)
  · exact absurd h.symm (hmarker hY)
  · rfl
  · exact absurd h.symm g.augmentedStart_name_ne
  · exact absurd h.symm (hstart hY)
  · exact absurd h g.augmentedStart_name_ne
  · rfl

theorem nodup_lists (hg : g.WellFormed) : (g.terminals ++ g.nonterminals).Nodup := by
  rw [List.nodup_append]
  refine ⟨?_, ?_, ?_⟩
  · rw [terminals, List.nodup_append]
    refine ⟨Distinct.nodup_ofList _, List.nodup_singleton _, fun X hX Y hY hXY => ?_⟩
    rw [List.mem_singleton.mp hY] at hXY
    exact (isWritten_of_mem_writtenTerminals hg hX).ne_endMarker hXY
  · rw [nonterminals, List.nodup_cons]
    refine ⟨fun hmem => ?_, Distinct.nodup_ofList _⟩
    exact not_isWritten_augmentedStart g (written_of_mem_writtenNonterminals hg hmem).1
  · rintro X hX _ hY rfl
    have hterminal := isTerminal_of_mem_terminals hX
    have hnonterminal := isNonterminal_of_mem_nonterminals hg hY
    simp only [Symbol.isTerminal, Symbol.isNonterminal, decide_eq_true_eq] at hterminal hnonterminal
    rw [hterminal] at hnonterminal
    cases hnonterminal

theorem symbol?_eq_some_iff (hg : g.WellFormed) {name : String} :
    g.symbol? name = some X ↔ X ∈ g.terminals ++ g.nonterminals ∧ X.name = name := by
  rw [symbol?, find?_eq_some_iff_of_unique, decide_eq_true_eq]
  intro Y hY Z hZ hYname hZname
  exact eq_of_name_eq hg hY hZ ((of_decide_eq_true hYname).trans (of_decide_eq_true hZname).symm)

/-- What the productions and the lists of a grammar have to do with the lines that it has been read from. -/
structure Inventory (g : Grammar) (lines : List (List Char)) : Prop where
  numbered : g.productions.map Production.id = List.range (lines.length + 1)
  line_spells : ∀ i line, lines[i]? = some line → ∃ p, g.productions[i + 1]? = some p ∧ Spells line p.rule
  augmented : ∃ first, g.productions[1]? = some first ∧ g.augmentedStart = .nonterminal (first.lhs.name ++ "'") ∧
    g.productions[0]? = some ⟨0, g.augmentedStart, [first.lhs]⟩
  fresh : ∀ p ∈ g.productions, p.id ≠ 0 → ∀ X ∈ p.lhs :: p.rhs,
    X.name ≠ g.augmentedStart.name ∧ X.name ≠ Symbol.endMarker.name
  names_nodup : ((g.terminals ++ g.nonterminals).map Symbol.name).Nodup
  terminals_firsts : ∃ found, g.terminals = found ++ [.endMarker] ∧
    Distinct.Firsts ((g.productions.drop 1).flatMap fun p => p.rhs.filter Symbol.isTerminal) found
  nonterminals_firsts : ∃ found, g.nonterminals = g.augmentedStart :: found ∧
    Distinct.Firsts ((g.productions.drop 1).flatMap fun p => (p.lhs :: p.rhs).filter Symbol.isNonterminal) found
  terminal_kind : ∀ X ∈ g.terminals, X.kind = .terminal
  nonterminal_kind : ∀ X ∈ g.nonterminals, X.kind = .nonterminal
  lhs_listed : ∀ p ∈ g.productions, p.lhs ∈ g.nonterminals
  rhs_listed : ∀ p ∈ g.productions, ∀ X ∈ p.rhs, X ∈ g.terminals ++ g.nonterminals ∧ X.kind ≠ .epsilon
  symbol?_iff : ∀ name X, g.symbol? name = some X ↔ X ∈ g.terminals ++ g.nonterminals ∧ X.name = name

theorem getElem?_productions {rule : Rule} {n : Nat} (h : g.rules[n]? = some rule) :
    g.productions[n + 1]? = some ⟨n + 1, rule.lhs, rule.rhs⟩ := by
  simp [productions, List.getElem?_zipIdx, h, Nat.add_comm]

theorem flatMap_drop_productions (g : Grammar) (occurrences : Rule → List Symbol) :
    ((g.productions.drop 1).flatMap fun p => occurrences p.rule) = g.rules.flatMap occurrences := by
  rw [← map_rule_drop_productions, List.flatMap_map]

theorem firsts_writtenTerminals (g : Grammar) : Distinct.Firsts
    ((g.productions.drop 1).flatMap fun p => p.rhs.filter Symbol.isTerminal) g.writtenTerminals := by
  have hoccurrences := g.flatMap_drop_productions fun rule => rule.rhs.filter Symbol.isTerminal
  exact hoccurrences ▸ Distinct.firsts_ofList _

theorem firsts_writtenNonterminals (hg : g.WellFormed) : Distinct.Firsts
    ((g.productions.drop 1).flatMap fun p => (p.lhs :: p.rhs).filter Symbol.isNonterminal) g.writtenNonterminals := by
  have hoccurrences := g.flatMap_drop_productions fun rule => (rule.lhs :: rule.rhs).filter Symbol.isNonterminal
  have hlhs : (g.rules.flatMap fun rule => (rule.lhs :: rule.rhs).filter Symbol.isNonterminal) =
      g.rules.flatMap fun rule => rule.lhs :: rule.rhs.filter Symbol.isNonterminal :=
    List.flatMap_congr fun rule hrule => List.filter_cons_of_pos (hg.lhs_written rule hrule).2
  exact (hoccurrences.trans hlhs) ▸ Distinct.firsts_ofList _

theorem mem_lists_of_mem_rhs (hg : g.WellFormed) (hp : p ∈ g.productions) (hX : X ∈ p.rhs) :
    X ∈ g.terminals ++ g.nonterminals := by
  rw [List.mem_append]
  rcases (rhs_written hg hp X hX).isTerminal_or_isNonterminal with hterminal | hnonterminal
  · exact Or.inl (mem_terminals_of_mem_rhs hg hp hX hterminal)
  · exact Or.inr (List.mem_cons_of_mem _ (mem_writtenNonterminals_of_mem_rhs hg hp hX hnonterminal))

theorem inventory_of_read {text : String} (hread : read text = .ok g) : g.Inventory (writtenLines text) := by
  have hg := wellFormed_of_read hread
  obtain ⟨first, rest, hspelt, hrules⟩ := read_eq_ok_iff.mp hread
  have hspelt : List.Forall₂ Spells (writtenLines text) g.rules := by
    rw [hrules]
    exact hspelt
  have hfirst : g.rules[0]? = some first := by
    rw [hrules]
    rfl
  have hstart : g.start = first.lhs := by rw [hrules]
  constructor
  case numbered =>
    rw [ids_productions, hspelt.length_eq]
  case line_spells =>
    intro n line hline
    obtain ⟨hlt, rfl⟩ := List.getElem?_eq_some_iff.mp hline
    have hlt' : n < g.rules.length := hspelt.length_eq ▸ hlt
    exact ⟨_, getElem?_productions (List.getElem?_eq_getElem hlt'), hspelt.get hlt hlt'⟩
  case augmented =>
    refine ⟨_, getElem?_productions hfirst, ?_, ?_⟩
    · rw [augmentedStart, hstart]
    · rw [← hstart]
      rfl
  case fresh =>
    intro p hp hid X hX
    have hwritten : X.IsWritten := by
      rcases List.mem_cons.mp hX with rfl | hX
      · exact lhs_written hg hp hid
      · exact rhs_written hg hp X hX
    exact ⟨hwritten.name_ne g.apostrophe_mem_augmentedStart (by decide),
      hwritten.name_ne (c := '$') (by decide) (by decide)⟩
  case names_nodup => exact (nodup_lists hg).map_on fun X hX Y hY => eq_of_name_eq hg hX hY
  case terminals_firsts => exact ⟨g.writtenTerminals, rfl, g.firsts_writtenTerminals⟩
  case nonterminals_firsts => exact ⟨g.writtenNonterminals, rfl, firsts_writtenNonterminals hg⟩
  case terminal_kind => exact fun X hX => of_decide_eq_true (isTerminal_of_mem_terminals hX)
  case nonterminal_kind => exact fun X hX => of_decide_eq_true (isNonterminal_of_mem_nonterminals hg hX)
  case lhs_listed => exact fun p hp => lhs_mem_nonterminals hp
  case rhs_listed => exact fun p hp X hX => ⟨mem_lists_of_mem_rhs hg hp hX, (rhs_written hg hp X hX).not_isEpsilon⟩
  case symbol?_iff => exact fun name X => symbol?_eq_some_iff hg

/-- Here `B` comes up before its own line and before `A`, and `b` before `a`. -/
def unsorted : Grammar where
  start := .nonterminal "S"
  rules := [⟨.nonterminal "S", [.nonterminal "B", .terminal "b", .nonterminal "B"]⟩,
    ⟨.nonterminal "A", [.terminal "a", .nonterminal "S"]⟩, ⟨.nonterminal "B", []⟩]

end Grammar

namespace Processor

variable {w : Processor} {text : String} {r : Grammar.Record}

/-- Whatever a processor returns is well formed, and it is what the lines of the text say. -/
theorem result_inventory (h : w.result text = .ok r) :
    ∃ g, Grammar.read text = .ok g ∧ r = g.record ∧ g.Inventory (Grammar.writtenLines text) := by
  obtain ⟨g, hread, rfl⟩ := result_eq_ok_iff.mp h
  exact ⟨g, hread, rfl, Grammar.inventory_of_read hread⟩

theorem result_inventory_unsorted :
    empty.result "S -> B b B\n\nA -> a S\nB -> ε" = .ok Grammar.unsorted.record ∧
      ∃ g, Grammar.read "S -> B b B\n\nA -> a S\nB -> ε" = .ok g ∧ Grammar.unsorted.record = g.record ∧
        g.Inventory (Grammar.writtenLines "S -> B b B\n\nA -> a S\nB -> ε") := by
  have hread : empty.result "S -> B b B\n\nA -> a S\nB -> ε" = .ok Grammar.unsorted.record :=
    result_eq_ok_iff.mpr ⟨Grammar.unsorted, rfl, rfl⟩
  exact ⟨hread, result_inventory hread⟩

end Processor

end CanonicalLR
