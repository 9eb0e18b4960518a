import CanonicalLR.Proofs.Processor
import CanonicalLR.Proofs.Signature

/-! # A printed grammar reads back

The text of a production is a line that spells its rule: single spaces stand around the arrow and between the names,
and the letter `ε` stands for an empty right side. These lines, one under the other, are a grammar text. Reading it
gives the productions with their numbers and both lists of symbols in their order, however the first text was laid out.
-/
namespace CanonicalLR

namespace Text

variable {ls ws : List (List Char)}

theorem isBlank_of_isLineBreak {c : Char} (hc : isLineBreak c = true) : isBlank c = true := by
  simp only [isLineBreak, isBlank, Bool.or_eq_true, Bool.and_eq_true, decide_eq_true_eq, beq_iff_eq] at hc ⊢
  omega

theorem isLineBreak_of_not_isBlank {c : Char} (hc : isBlank c = false) : isLineBreak c = false := by
  cases hbreak : isLineBreak c with
  | false => rfl
  | true =>
    rw [isBlank_of_isLineBreak hbreak] at hc
    cases hc

theorem isLines_intercalate (hls : ∀ l ∈ ls, l ≠ [] ∧ ∀ c ∈ l, isLineBreak c = false) :
    IsLines (List.intercalate ['\n'] ls) ls := by
  induction ls with
  | nil => exact .nil
  | cons l ls ih =>
    obtain ⟨⟨hne, hunbroken⟩, hls⟩ := List.forall_mem_cons.mp hls
    cases ls with
    | nil =>
      rw [List.intercalate_singleton]
      exact .last l hne hunbroken
    | cons next ls =>
      rw [List.intercalate_cons_cons]
      exact .next l hunbroken (.single rfl fun h => absurd h (by decide)) (ih hls)

/-- A space comes before each word, so no two of them run together. -/
theorem isWords_intercalate (hws : ∀ w ∈ ws, w ≠ [] ∧ ∀ c ∈ w, isBlank c = false) :
    IsWords (' ' :: List.intercalate [' '] ws) ws := by
  have hspace : ∀ c ∈ [' '], isBlank c = true := List.forall_mem_singleton.mpr rfl
  induction ws with
  | nil => exact .blank hspace
  | cons w ws ih =>
    obtain ⟨⟨hne, hsolid⟩, hws⟩ := List.forall_mem_cons.mp hws
    cases ws with
    | nil =>
      rw [List.intercalate_singleton]
      have hword : IsWords ([' '] ++ w ++ []) [w] := .word [' '] w hspace hne hsolid (by simp) (.blank (by simp))
      rwa [List.append_nil] at hword
    | cons next ws =>
      have hword := IsWords.word [' '] w hspace hne hsolid (by rintro _ ⟨⟩; rfl) (ih hws)
      rwa [List.append_assoc] at hword

end Text

namespace Production

variable {p : Production}

/-- The words behind the arrow in the text of a production. -/
def words (p : Production) : List (List Char) :=
  if p.isEpsilon then [['ε']] else p.rhs.map fun X => X.name.toList

theorem toList_text (p : Production) :
    p.text.toList = p.lhs.name.toList ++ [' '] ++ '-' :: '>' :: ' ' :: List.intercalate [' '] p.words := by
  unfold text words spaced
  split <;> simp [toString, String.toList_append, String.toList_intercalate, Symbol.epsilon, Function.comp_def]

theorem solid_words (hrhs : ∀ X ∈ p.rhs, X.IsWritten) :
    ∀ w ∈ p.words, w ≠ [] ∧ ∀ c ∈ w, Text.isBlank c = false := by
  unfold words
  split
  · exact List.forall_mem_singleton.mpr ⟨List.cons_ne_nil _ _, List.forall_mem_singleton.mpr rfl⟩
  · intro w hw
    obtain ⟨X, hX, rfl⟩ := List.mem_map.mp hw
    refine ⟨?_, fun c hc => Grammar.isBlank_of_isAlphanum ((hrhs X hX).isAlphanum c hc)⟩
    intro hnil
    rcases hrhs X hX with ⟨-, hname⟩ | ⟨-, hname⟩ <;> rw [hnil] at hname <;> cases hname

end Production

namespace Grammar

variable {g : Grammar} {p : Production} {line lhs : List Char} {words : List (List Char)}

theorem Sides.not_isBlank (h : Sides line lhs words) : ¬ Text.IsBlank line := by
  cases h with
  | arrow =>
    intro hblank
    exact absurd (hblank '-' (by simp)) (by decide)

theorem names_of_isWritten {X : Symbol} (hX : X.IsWritten) : Names X.name.toList X := by
  obtain ⟨kind, name⟩ := X
  rcases hX with ⟨hkind, hname⟩ | ⟨hkind, hname⟩
  · cases hkind
    have hnames := Names.terminal hname
    rwa [String.ofList_toList] at hnames
  · cases hkind
    have hnames := Names.nonterminal hname
    rwa [String.ofList_toList] at hnames

theorem isNonterminalName_lhs (hg : g.WellFormed) (hp : p ∈ g.productions) (hid : p.id ≠ 0) :
    isNonterminalName p.lhs.name.toList = true := by
  have hkind := lhs_isNonterminal hg hp
  rcases lhs_written hg hp hid with ⟨hterminal, -⟩ | ⟨-, hname⟩
  · simp [Symbol.isNonterminal, hterminal] at hkind
  · exact hname

theorem sides_text (hg : g.WellFormed) (hp : p ∈ g.productions) (hid : p.id ≠ 0) :
    Sides p.text.toList p.lhs.name.toList p.words := by
  rw [p.toList_text]
  exact .arrow [] [' '] (by simp) (isNonterminalName_lhs hg hp hid) (List.forall_mem_singleton.mpr rfl)
    (Text.isWords_intercalate (p.solid_words (rhs_written hg hp)))

/-- The text of a production spells its rule, and only the number is not in it. -/
theorem spells_text (hg : g.WellFormed) (hp : p ∈ g.productions) (hid : p.id ≠ 0) : Spells p.text.toList p.rule := by
  have hsides := sides_text hg hp hid
  have hlhs : p.lhs = .nonterminal (String.ofList p.lhs.name.toList) := by
    rw [String.ofList_toList]
    exact Symbol.eq_nonterminal_of_isNonterminal (lhs_isNonterminal hg hp)
  rw [Production.rule, hlhs]
  by_cases hrhs : p.rhs = []
  · rw [Production.words, if_pos (by simp [Production.isEpsilon, hrhs])] at hsides
    rw [hrhs]
    exact .epsilon hsides
  · rw [Production.words, if_neg (by simp [Production.isEpsilon, hrhs])] at hsides
    refine .symbols hsides ?_
    rw [List.forall₂_map_left_iff, List.forall₂_same]
    exact fun X hX => names_of_isWritten (rhs_written hg hp X hX)

theorem not_isLineBreak_text (hg : g.WellFormed) (hp : p ∈ g.productions) (hid : p.id ≠ 0) :
    ∀ c ∈ p.text.toList, Text.isLineBreak c = false := by
  have hlhs : ∀ c ∈ p.lhs.name.toList, Text.isLineBreak c = false := fun c hc =>
    Text.isLineBreak_of_not_isBlank (isBlank_of_isAlphanum ((lhs_written hg hp hid).isAlphanum c hc))
  have hrhs : ∀ c ∈ List.intercalate [' '] p.words, Text.isLineBreak c = false := by
    intro c hc
    rcases mem_intercalate_of hc with hspace | ⟨w, hw, hc⟩
    · rw [List.mem_singleton.mp hspace]
      decide
    · exact Text.isLineBreak_of_not_isBlank ((p.solid_words (rhs_written hg hp) w hw).2 c hc)
  rw [p.toList_text]
  simp only [List.forall_mem_append, List.forall_mem_cons]
  exact ⟨⟨hlhs, rfl, by simp⟩, rfl, rfl, rfl, hrhs⟩

/-- The productions of a grammar but for the first, one under the other. -/
def Record.printed (r : Record) : String :=
  String.intercalate "\n" ((r.productions.drop 1).map Production.text)

theorem mem_drop_productions (hp : p ∈ g.productions.drop 1) : p ∈ g.productions ∧ p.id ≠ 0 := by
  refine ⟨List.mem_of_mem_drop hp, ?_⟩
  obtain ⟨⟨rule, id⟩, hmem, rfl⟩ := List.mem_map.mp hp
  have hid := List.le_snd_of_mem_zipIdx hmem
  dsimp only at hid ⊢
  omega

theorem writtenLines_printed (hg : g.WellFormed) :
    writtenLines g.record.printed = (g.productions.drop 1).map fun p => p.text.toList := by
  have hlines : Text.lines g.record.printed.toList = (g.productions.drop 1).map fun p => p.text.toList := by
    rw [Record.printed, String.toList_intercalate, List.map_map, Text.lines_eq_iff]
    apply Text.isLines_intercalate
    intro l hl
    obtain ⟨p, hp, rfl⟩ := List.mem_map.mp hl
    obtain ⟨hp, hid⟩ := mem_drop_productions hp
    refine ⟨?_, not_isLineBreak_text hg hp hid⟩
    intro hnil
    change p.text.toList = [] at hnil
    have hline := (sides_text hg hp hid).not_isBlank
    rw [hnil] at hline
    exact hline (by simp [Text.IsBlank])
  rw [writtenLines, hlines, List.filter_eq_self]
  intro l hl
  obtain ⟨p, hp, rfl⟩ := List.mem_map.mp hl
  obtain ⟨hp, hid⟩ := mem_drop_productions hp
  exact not_all_isBlank_iff.mpr (sides_text hg hp hid).not_isBlank

theorem read_printed (hg : g.WellFormed) : read g.record.printed = .ok g := by
  have hspelt : List.Forall₂ Spells (writtenLines g.record.printed) g.rules := by
    rw [writtenLines_printed hg, ← map_rule_drop_productions, List.forall₂_map_left_iff, List.forall₂_map_right_iff,
      List.forall₂_same]
    intro p hp
    obtain ⟨hp, hid⟩ := mem_drop_productions hp
    exact spells_text hg hp hid
  obtain ⟨first, rest, hrules, hstart⟩ := hg.start_first
  rw [read_eq_ok_iff]
  refine ⟨first, rest, hrules ▸ hspelt, ?_⟩
  rw [hstart, ← hrules]

end Grammar

namespace Processor

variable {w w' : Processor} {text : String} {r : Grammar.Record}

/-- A grammar that has been read survives being printed and read again, with all that it lists. -/
theorem result_printed (h : w.result text = .ok r) : w'.result r.printed = .ok r := by
  obtain ⟨g, hread, rfl⟩ := result_eq_ok_iff.mp h
  exact result_eq_ok_iff.mpr ⟨g, Grammar.read_printed (Grammar.wellFormed_of_read hread), rfl⟩

/-- Blank lines, wide gaps and a bare arrow are gone from the printed text. -/
theorem result_printed_nested :
    empty.result "\n S->a  S b\r\n\n  S  ->" = .ok Grammar.nested.record ∧
      Grammar.nested.record.printed = "S -> a S b\nS -> ε" ∧
        empty.result Grammar.nested.record.printed = .ok Grammar.nested.record := by
  have hread : empty.result "\n S->a  S b\r\n\n  S  ->" = .ok Grammar.nested.record :=
    result_eq_ok_iff.mpr ⟨Grammar.nested, rfl, rfl⟩
  exact ⟨hread, rfl, result_printed hread⟩

end Processor

end CanonicalLR
