import CanonicalLR.Grammar.Processor
import CanonicalLR.Proofs.Collected
import CanonicalLR.Proofs.Spelling

/-! # Reading one text after the other

While it reads, a processor holds the symbols that have come up so far, each under its name and in the list of its
kind. No name belongs to symbols of both kinds, so a name that comes up again gives the symbol it stands for, and
the outcome is that of reading the text on its own. What was read before is forgotten at the start.
-/
namespace CanonicalLR

theorem Distinct.ofList_filter_concat {α : Type} [DecidableEq α] (keep : α → Bool) (xs : List α) (x : α) :
    ofList ((xs ++ [x]).filter keep) =
      if keep x then insert (ofList (xs.filter keep)) x else ofList (xs.filter keep) := by
  rw [List.filter_append, List.filter_singleton]
  cases keep x with
  | false => simp
  | true => exact extend_concat [] (xs.filter keep) x

theorem Grammar.map_record_eq_ok_iff {text : String} {r : Grammar.Record} :
    (Grammar.read text).map Grammar.record = .ok r ↔ ∃ g, Grammar.read text = .ok g ∧ r = g.record := by
  cases Grammar.read text <;> simp [Except.map, eq_comm]

namespace Processor

variable {α β : Type} {w : Processor} {found : List Symbol} {X : Symbol} {m : Reading α}
  {result : Except GrammarError α} {symbols : α → List Symbol}

/-- The processor knows the symbols that have been found, by name and in the order of their first appearance. -/
structure Holds (w : Processor) (found : List Symbol) : Prop where
  written : ∀ X ∈ found, X.IsWritten
  get?_iff : ∀ name X, w.symbols.get? name = some X ↔ X ∈ found ∧ X.name = name
  terminals_eq : w.terminals = Distinct.ofList (found.filter Symbol.isTerminal)
  nonterminals_eq : w.nonterminals = Distinct.ofList (found.filter Symbol.isNonterminal)

theorem holds_empty : empty.Holds [] where
  written := by simp
  get?_iff name X := by simp [empty, Entries.get?_empty]
  terminals_eq := rfl
  nonterminals_eq := rfl

theorem Holds.again (h : w.Holds found) (hX : X ∈ found) : w.Holds (found ++ [X]) := by
  have hmem : ∀ Y, Y ∈ found ++ [X] ↔ Y ∈ found := by
    intro Y
    rw [List.mem_append, List.mem_singleton, or_iff_left_of_imp]
    rintro rfl
    exact hX
  have hlist : ∀ kind : Symbol → Bool,
      Distinct.ofList ((found ++ [X]).filter kind) = Distinct.ofList (found.filter kind) := by
    intro kind
    rw [Distinct.ofList_filter_concat]
    split
    · next hkind => exact if_pos (Distinct.mem_ofList.mpr (List.mem_filter.mpr ⟨hX, hkind⟩))
    · rfl
  exact {
    written := fun Y hY => h.written Y ((hmem Y).mp hY)
    get?_iff := fun name Y => by rw [h.get?_iff, hmem]
    terminals_eq := by rw [h.terminals_eq, hlist]
    nonterminals_eq := by rw [h.nonterminals_eq, hlist] }

theorem Holds.add (h : w.Holds found) (hX : X.IsWritten) (hnew : w.symbols.get? X.name = none) :
    (w.add X).Holds (found ++ [X]) := by
  have hfresh : X ∉ found := by
    intro hmem
    rw [(h.get?_iff X.name X).mpr ⟨hmem, rfl⟩] at hnew
    cases hnew
  have hsymbols : (w.add X).symbols = w.symbols.put X.name X := by
    unfold Processor.add
    split <;> rfl
  have hinsert : ∀ kind : Symbol → Bool,
      Distinct.insert (Distinct.ofList (found.filter kind)) X = Distinct.ofList (found.filter kind) ++ [X] :=
    fun kind => if_neg fun hmem => hfresh (List.mem_filter.mp (Distinct.mem_ofList.mp hmem)).1
  constructor
  case written =>
    intro Y hY
    rcases List.mem_append.mp hY with hY | hY
    · exact h.written Y hY
    · rw [List.mem_singleton.mp hY]
      exact hX
  case get?_iff =>
    intro name Y
    rw [hsymbols, Entries.get?_put, List.mem_append, List.mem_singleton]
    split
    · next hname =>
      subst hname
      constructor
      · rintro ⟨⟩
        exact ⟨Or.inr rfl, rfl⟩
      · rintro ⟨hY | rfl, hname⟩
        · rw [h.written Y hY |>.eq_of_name_eq hX hname]
        · rfl
    · next hname =>
      rw [h.get?_iff]
      constructor
      · exact fun hY => ⟨Or.inl hY.1, hY.2⟩
      · rintro ⟨hY | rfl, hY'⟩
        · exact ⟨hY, hY'⟩
        · exact absurd hY' hname
  case terminals_eq =>
    rw [Distinct.ofList_filter_concat, hinsert, ← h.terminals_eq]
    unfold Processor.add
    split <;> rfl
  case nonterminals_eq =>
    rw [Distinct.ofList_filter_concat, hinsert, ← h.nonterminals_eq]
    rcases hX with ⟨hkind, -⟩ | ⟨hkind, -⟩ <;> simp [Processor.add, Symbol.isTerminal, Symbol.isNonterminal, hkind]

/-- The reading has this outcome, and if it succeeds, then the processor knows the symbols of the outcome, too. -/
def Gives (m : Reading α) (result : Except GrammarError α) (symbols : α → List Symbol) : Prop :=
  ∀ w found, Holds w found →
    (m.run.run w).1 = result ∧ ∀ a, result = .ok a → (m.run.run w).2.Holds (found ++ symbols a)

theorem gives_throw (e : GrammarError) (symbols : α → List Symbol) : Gives (throw e) (.error e) symbols := by
  intro w found _
  exact ⟨rfl, fun a ha => nomatch ha⟩

theorem gives_pure {a : α} (ha : symbols a = []) : Gives (pure a) (.ok a) symbols := by
  intro w found h
  refine ⟨rfl, ?_⟩
  rintro _ ⟨⟩
  rwa [ha, List.append_nil]

theorem run_bind (m : Reading α) (k : α → Reading β) (w : Processor) :
    (m >>= k).run.run w = match m.run.run w with
      | (.error e, w) => (.error e, w)
      | (.ok a, w) => (k a).run.run w := by
  rw [ExceptT.run_bind, StateT.run_bind]
  generalize m.run.run w = p
  obtain ⟨r, w⟩ := p
  cases r <;> rfl

theorem Gives.bind {k : α → Reading β} {f : α → Except GrammarError β} {all : β → List Symbol}
    (more : β → List Symbol) (hm : Gives m result symbols) (hk : ∀ a, Gives (k a) (f a) more)
    (hall : ∀ a b, f a = .ok b → all b = symbols a ++ more b) : Gives (m >>= k) (result >>= f) all := by
  intro w found h
  obtain ⟨hresult, hholds⟩ := hm w found h
  rw [run_bind]
  generalize m.run.run w = p at hresult hholds
  obtain ⟨r, w'⟩ := p
  subst hresult
  cases r with
  | error e => exact ⟨rfl, fun b hb => nomatch hb⟩
  | ok a =>
    obtain ⟨hresult', hholds'⟩ := hk a w' (found ++ symbols a) (hholds a rfl)
    refine ⟨hresult', fun b hb => ?_⟩
    rw [hall a b hb, ← List.append_assoc]
    exact hholds' b hb

/-- A name that has come up before stands for the same symbol, and any other name for a new one. -/
theorem gives_classify (hX : X.IsWritten) : Gives (classify X.kind X.name) (.ok X) fun Y => [Y] := by
  intro w found h
  have hget : (get : Reading Processor).run.run w = (.ok w, w) := rfl
  rw [classify, run_bind, hget]
  dsimp only
  cases hfind : w.symbols.get? X.name with
  | none =>
    refine ⟨rfl, ?_⟩
    rintro _ ⟨⟩
    exact h.add hX hfind
  | some Y =>
    obtain ⟨hY, hname⟩ := (h.get?_iff X.name Y).mp hfind
    obtain rfl := (h.written Y hY).eq_of_name_eq hX hname
    refine ⟨rfl, ?_⟩
    rintro _ ⟨⟩
    exact h.again hY

theorem isWritten_terminal {name : List Char} (h : Grammar.isTerminalName name = true) :
    (Symbol.terminal (String.ofList name)).IsWritten := by
  refine Or.inl ⟨rfl, ?_⟩
  rwa [Symbol.terminal, String.toList_ofList]

theorem isWritten_nonterminal {name : List Char} (h : Grammar.isNonterminalName name = true) :
    (Symbol.nonterminal (String.ofList name)).IsWritten := by
  refine Or.inr ⟨rfl, ?_⟩
  rwa [Symbol.nonterminal, String.toList_ofList]

theorem gives_readSymbol (number : Nat) (line : String) (word : List Char) :
    Gives (readSymbol number line word) (Grammar.readSymbol number line word) fun X => [X] := by
  unfold readSymbol Grammar.readSymbol
  split
  · next hname => exact gives_classify (isWritten_terminal hname)
  · split
    · next hname => exact gives_classify (isWritten_nonterminal hname)
    · exact gives_throw _ _

theorem gives_readSymbols (number : Nat) (line : String) (words : List (List Char)) :
    Gives (readSymbols number line words) (Grammar.readSymbols number line words) id := by
  induction words with
  | nil => exact gives_pure rfl
  | cons word words ih =>
    refine Gives.bind List.tail (gives_readSymbol number line word) (fun X => ?_) ?_
    · refine Gives.bind (fun _ => []) ih (fun Xs => gives_pure rfl) ?_
      rintro Xs _ ⟨⟩
      simp
    · intro X Xs hXs
      obtain ⟨Ys, -, hXs⟩ := Grammar.bind_eq_ok.mp hXs
      cases hXs
      rfl

def ruleSymbols (rule : Rule) : List Symbol := rule.lhs :: rule.rhs

theorem gives_readRule (number : Nat) (line : List Char) :
    Gives (readRule number line) (Grammar.readRule number line) ruleSymbols := by
  unfold readRule Grammar.readRule
  cases hsplit : Grammar.splitRule line with
  | none => exact gives_throw _ _
  | some sides =>
    obtain ⟨lhs, body⟩ := sides
    have hlhs := gives_classify (isWritten_nonterminal (Grammar.isNonterminalName_of_splitRule hsplit))
    simp only [List.contains_iff_mem]
    split
    · refine Gives.bind (f := fun lhs => .ok (Rule.mk lhs [])) (fun _ => []) hlhs (fun lhs => gives_pure rfl) ?_
      rintro lhs _ ⟨⟩
      rfl
    · split
      · exact Gives.bind (f := fun _ => .error _) (fun _ => []) hlhs (fun _ => gives_throw _ _) fun _ _ h => nomatch h
      · refine Gives.bind (f := fun lhs => Grammar.readSymbols _ _ body >>= fun rhs => .ok (Rule.mk lhs rhs)) Rule.rhs
          hlhs (fun lhs => Gives.bind (fun _ => []) (gives_readSymbols _ _ body) (fun rhs => gives_pure rfl) ?_) ?_
        · rintro rhs _ ⟨⟩
          simp
        · intro lhs rule hrule
          obtain ⟨rhs, -, hrule⟩ := Grammar.bind_eq_ok.mp hrule
          cases hrule
          rfl

theorem gives_readRules (entries : List (List Char × Nat)) :
    Gives (readRules entries) (Grammar.readRules entries) fun rules => rules.flatMap ruleSymbols := by
  induction entries with
  | nil => exact gives_pure rfl
  | cons entry entries ih =>
    refine Gives.bind (fun rules => rules.tail.flatMap ruleSymbols) (gives_readRule entry.2 entry.1) (fun rule => ?_) ?_
    · refine Gives.bind (fun _ => []) ih (fun rules => gives_pure rfl) ?_
      rintro rules _ ⟨⟩
      simp
    · intro rule rules hrules
      obtain ⟨rest, -, hrules⟩ := Grammar.bind_eq_ok.mp hrules
      cases hrules
      rfl

theorem ofList_filter_isTerminal {g : Grammar} (hg : g.WellFormed) :
    Distinct.ofList ((g.rules.flatMap ruleSymbols).filter Symbol.isTerminal) = g.writtenTerminals := by
  rw [Grammar.writtenTerminals, List.filter_flatMap]
  congr 1
  apply List.flatMap_congr
  intro rule hrule
  have hlhs := (hg.lhs_written rule hrule).2
  simp only [Symbol.isNonterminal, decide_eq_true_eq] at hlhs
  exact List.filter_cons_of_neg (by simp [Symbol.isTerminal, hlhs])

theorem ofList_filter_isNonterminal {g : Grammar} (hg : g.WellFormed) :
    Distinct.ofList ((g.rules.flatMap ruleSymbols).filter Symbol.isNonterminal) = g.writtenNonterminals := by
  rw [Grammar.writtenNonterminals, List.filter_flatMap]
  congr 1
  apply List.flatMap_congr
  intro rule hrule
  exact List.filter_cons_of_pos (hg.lhs_written rule hrule).2

/-- Whatever was read before, the outcome is that of reading the text on its own. -/
theorem result_eq (w : Processor) (text : String) : w.result text = (Grammar.read text).map Grammar.record := by
  obtain ⟨hresult, hholds⟩ := gives_readRules (Grammar.numberedLines text) empty [] holds_empty
  have hwellFormed : ∀ g, Grammar.read text = .ok g → g.WellFormed := fun g => Grammar.wellFormed_of_read
  rw [result, read, run_bind]
  change ((readRules (Grammar.numberedLines text) >>= _).run.run empty).1 = _
  rw [run_bind]
  rw [← hresult] at hholds
  rw [Grammar.read, ← hresult] at hwellFormed ⊢
  generalize (readRules (Grammar.numberedLines text)).run.run empty = p at hwellFormed hholds
  obtain ⟨r, w'⟩ := p
  cases r with
  | error e => rfl
  | ok rules =>
    cases rules with
    | nil => rfl
    | cons rule rest =>
      have hg : (⟨rule.lhs, rule :: rest⟩ : Grammar).WellFormed := hwellFormed _ rfl
      have hw := hholds _ rfl
      have hterminals := hw.terminals_eq.trans (ofList_filter_isTerminal hg)
      have hnonterminals := hw.nonterminals_eq.trans (ofList_filter_isNonterminal hg)
      change Except.ok (Grammar.Record.mk _ (w'.terminals ++ [.endMarker]) (_ :: w'.nonterminals) _) = _
      rw [hterminals, hnonterminals]
      rfl

theorem result_eq_ok_iff {text : String} {r : Grammar.Record} :
    w.result text = .ok r ↔ ∃ g, Grammar.read text = .ok g ∧ r = g.record := by
  rw [result_eq, Grammar.map_record_eq_ok_iff]

end Processor

namespace Grammar

/-- What the lines of a text say about the outcome of reading it. -/
structure Decides (ls : List (List Char)) (outcome : Except GrammarError Record) : Prop where
  succeeds_iff : (∃ record, outcome = .ok record) ↔
    (∃ line ∈ ls, ¬ Text.IsBlank line) ∧ ∀ line ∈ ls, ¬ Text.IsBlank line → ∃ rule, Spells line rule
  record_iff : ∀ record, outcome = .ok record ↔ ∃ first rest,
    List.Forall₂ Spells (ls.filter fun line => !line.all Text.isBlank) (first :: rest) ∧
      record = (⟨first.lhs, first :: rest⟩ : Grammar).record
  error_iff : ∀ e, outcome = .error e ↔ FirstFault ls 1 e ∨ (∀ line ∈ ls, Text.IsBlank line) ∧ e = .noProductions
  empty_iff : outcome = .error .noProductions ↔ ∀ line ∈ ls, Text.IsBlank line

theorem exists_rules_iff {lines : List (List Char)} :
    (∃ rules, List.Forall₂ Spells lines rules) ↔ ∀ line ∈ lines, ∃ rule, Spells line rule := by
  induction lines with
  | nil => simp
  | cons line lines ih =>
    rw [List.forall_mem_cons, ← ih]
    constructor
    · rintro ⟨_, hrules⟩
      cases hrules with
      | cons hrule hrest => exact ⟨⟨_, hrule⟩, _, hrest⟩
    · rintro ⟨⟨rule, hrule⟩, rules, hrules⟩
      exact ⟨rule :: rules, .cons hrule hrules⟩

theorem mem_writtenLines {text : String} {line : List Char} :
    line ∈ writtenLines text ↔ line ∈ Text.lines text.toList ∧ ¬ Text.IsBlank line := by
  rw [writtenLines, List.mem_filter, not_all_isBlank_iff]

theorem writtenLines_eq_nil_iff {text : String} :
    writtenLines text = [] ↔ ∀ line ∈ Text.lines text.toList, Text.IsBlank line := by
  simp [List.eq_nil_iff_forall_not_mem, mem_writtenLines]

theorem Fault.ne_noProductions {line : List Char} {number : Nat} {e : GrammarError} (h : Fault line number e) :
    e ≠ .noProductions := by
  rintro rfl
  cases h

theorem decides_read (text : String) : Decides (Text.lines text.toList) ((read text).map record) := by
  have herror : ∀ e, (read text).map record = .error e ↔
      FirstFault (Text.lines text.toList) 1 e ∨
        (∀ line ∈ Text.lines text.toList, Text.IsBlank line) ∧ e = .noProductions := by
    intro e
    rw [← writtenLines_eq_nil_iff, ← read_eq_error_iff]
    cases read text <;> simp [Except.map]
  have hrecord : ∀ r, (read text).map record = .ok r ↔ ∃ first rest,
      List.Forall₂ Spells (writtenLines text) (first :: rest) ∧ r = (⟨first.lhs, first :: rest⟩ : Grammar).record := by
    intro r
    rw [map_record_eq_ok_iff]
    constructor
    · rintro ⟨g, hg, rfl⟩
      obtain ⟨first, rest, hspelt, rfl⟩ := read_eq_ok_iff.mp hg
      exact ⟨first, rest, hspelt, rfl⟩
    · rintro ⟨first, rest, hspelt, rfl⟩
      exact ⟨_, read_eq_ok_iff.mpr ⟨first, rest, hspelt, rfl⟩, rfl⟩
  constructor
  case succeeds_iff =>
    have hspell : (∀ line ∈ Text.lines text.toList, ¬ Text.IsBlank line → ∃ rule, Spells line rule) ↔
        ∃ rules, List.Forall₂ Spells (writtenLines text) rules := by
      simp only [exists_rules_iff, mem_writtenLines, and_imp]
    have hsome : (∃ line ∈ Text.lines text.toList, ¬ Text.IsBlank line) ↔ writtenLines text ≠ [] := by
      rw [Ne, writtenLines_eq_nil_iff]
      simp
    rw [hspell, hsome]
    constructor
    · rintro ⟨r, hr⟩
      obtain ⟨first, rest, hspelt, -⟩ := (hrecord r).mp hr
      refine ⟨fun hnil => ?_, _, hspelt⟩
      rw [hnil] at hspelt
      cases hspelt
    · rintro ⟨hne, rules, hspelt⟩
      cases rules with
      | nil => exact absurd (List.forall₂_nil_right_iff.mp hspelt) hne
      | cons first rest => exact ⟨_, (hrecord _).mpr ⟨first, rest, hspelt, rfl⟩⟩
  case record_iff => exact hrecord
  case error_iff => exact herror
  case empty_iff =>
    rw [herror]
    constructor
    · rintro (⟨before, line, after, -, -, -, hfault⟩ | ⟨hblank, -⟩)
      · exact absurd rfl hfault.ne_noProductions
      · exact hblank
    · exact fun hblank => Or.inr ⟨hblank, rfl⟩

end Grammar

/-- A processor reads exactly the texts in which some line is not blank and each such line spells a rule. The first
line that does neither decides the error. What was read before does not count. -/
theorem Processor.reads_exactly (w : Processor) (earlier : List String) (text : String) :
    (∀ ls, Text.IsLines text.toList ls ↔ ls = Text.lines text.toList) ∧
      Grammar.Decides (Text.lines text.toList) ((earlier.foldl next w).result text) ∧
      (earlier.foldl next w).result text = empty.result text := by
  refine ⟨fun ls => by rw [← Text.lines_eq_iff, eq_comm], ?_, ?_⟩
  · rw [result_eq]
    exact Grammar.decides_read text
  · rw [result_eq, result_eq]

/-- An `ε` among other words comes before a word that is no name, and blank lines count. -/
example : (["S -> a b", "S -> c +"].foldl Processor.next .empty).result "S -> a\n \nA -> + ε\nB" =
    .error (.epsilonNotAlone 3 "A -> + ε") :=
  rfl

end CanonicalLR
