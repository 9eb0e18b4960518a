import CanonicalLR.Proofs.Reading
import Mathlib.Data.List.Forall2

/-! # What a grammar text spells

Lines, words and the two sides of a rule, each as a relation between characters and what they spell: where a
line ends, what stands between white space, what may stand around the arrow. The functions of the reader compute
these relations. A line spells one rule at most, and a line that spells none has one fault.
-/
namespace CanonicalLR

namespace Text

variable {cs line rest tail gap word l : List Char} {ls ws : List (List Char)} {c : Char}

/-- The characters end a line that the rest of the text follows. A carriage return and a line feed end it together. -/
inductive Ends : List Char → List Char → Prop
  | pair (rest : List Char) : Ends ['\r', '\n'] rest
  | single {c : Char} {rest : List Char} (isBreak : isLineBreak c = true)
      (not_pair : c = '\r' → rest.head? ≠ some '\n') : Ends [c] rest

def IsBlank (line : List Char) : Prop := ∀ c ∈ line, isBlank c = true

inductive IsLines : List Char → List (List Char) → Prop
  | nil : IsLines [] []
  | last (line : List Char) (ne_nil : line ≠ []) (unbroken : ∀ c ∈ line, isLineBreak c = false) : IsLines line [line]
  | next (line : List Char) {ending rest : List Char} {ls : List (List Char)}
      (unbroken : ∀ c ∈ line, isLineBreak c = false) (ends : Ends ending rest) (more : IsLines rest ls) :
      IsLines (line ++ ending ++ rest) (line :: ls)

theorem lines_cons (hc : isLineBreak c = false) (rest : List Char) :
    lines (c :: rest) = match lines rest with
      | [] => [[c]]
      | l :: ls => (c :: l) :: ls := by
  have hreturn : c ≠ '\r' := by
    rintro rfl
    cases hc
  have hunbroken : ¬ isLineBreak c = true := by simp [hc]
  exact (lines.eq_3 c rest fun _ h => absurd h hreturn).trans (if_neg hunbroken)

theorem lines_append (hline : ∀ c ∈ line, isLineBreak c = false) (htail : lines tail = l :: ls) :
    lines (line ++ tail) = (line ++ l) :: ls := by
  induction line with
  | nil => exact htail
  | cons c line ih =>
    rw [List.cons_append, lines_cons (hline c List.mem_cons_self), ih fun d hd => hline d (List.mem_cons_of_mem c hd)]
    rfl

theorem lines_of_ends (h : Ends tail rest) : lines (tail ++ rest) = [] :: lines rest := by
  cases h with
  | pair => rfl
  | @single c _ isBreak not_pair =>
    rw [List.singleton_append, lines.eq_3 c rest ?_, if_pos isBreak]
    rintro rest' rfl rfl
    exact not_pair rfl rfl

theorem IsLines.cons_unbroken (h : IsLines rest (l :: ls)) (hc : isLineBreak c = false) :
    IsLines (c :: rest) ((c :: l) :: ls) := by
  have hall : ∀ {line : List Char}, (∀ d ∈ line, isLineBreak d = false) → ∀ d ∈ c :: line, isLineBreak d = false :=
    fun hline => List.forall_mem_cons.mpr ⟨hc, hline⟩
  cases h with
  | last _ ne_nil unbroken => exact .last (c :: _) (List.cons_ne_nil c _) (hall unbroken)
  | next _ unbroken ends more => exact .next (c :: l) (hall unbroken) ends more

theorem isLines_lines (cs : List Char) : IsLines cs (lines cs) := by
  fun_induction lines cs with
  | case1 => exact .nil
  | case2 rest ih => exact .next [] (by simp) (.pair rest) ih
  | case3 c rest hpair hc ih =>
    refine .next [] (by simp) (.single hc ?_) ih
    rintro rfl hhead
    cases rest with
    | nil => cases hhead
    | cons d rest =>
      cases hhead
      exact hpair rest rfl rfl
  | case4 c rest hpair hc hlines ih =>
    rw [hlines] at ih
    cases ih
    exact .last [c] (List.cons_ne_nil c []) (by simpa using hc)
  | case5 c rest hpair hc l ls hlines ih =>
    rw [hlines] at ih
    exact ih.cons_unbroken (by simpa using hc)

theorem lines_eq_iff : lines cs = ls ↔ IsLines cs ls := by
  constructor
  · rintro rfl
    exact isLines_lines cs
  · intro h
    induction h with
    | nil => rfl
    | last line ne_nil unbroken =>
      have hlast : lines [line.getLast ne_nil] = [[line.getLast ne_nil]] :=
        lines_cons (unbroken _ (List.getLast_mem ne_nil)) []
      have hall := lines_append (fun c hc => unbroken c (List.dropLast_subset line hc)) hlast
      rwa [List.dropLast_append_getLast ne_nil] at hall
    | next line unbroken ends more ih =>
      rw [List.append_assoc, lines_append unbroken (lines_of_ends ends), ih, List.append_nil]

/-- A line feed between two texts ends the last line of the first one, and otherwise gives an empty line. -/
theorem exists_lines_append (h : IsLines cs ls) (ds : List Char) :
    ∃ gap, lines (cs ++ '\n' :: ds) = ls ++ gap ++ lines ds ∧ ∀ l ∈ gap, l = [] := by
  have hfeed : lines ('\n' :: ds) = [] :: lines ds := lines_of_ends (.single rfl fun h => absurd h (by decide))
  induction h with
  | nil => exact ⟨[[]], hfeed, by simp⟩
  | last line ne_nil unbroken =>
    refine ⟨[], ?_, by simp⟩
    rw [lines_append unbroken hfeed]
    simp
  | @next line ending rest ls unbroken ends more ih =>
    obtain ⟨gap, hgap, hempty⟩ := ih
    by_cases hreturn : ending = ['\r'] ∧ rest = []
    · -- The return at the end of the first text and the line feed end a line together.
      obtain ⟨rfl, rfl⟩ := hreturn
      obtain rfl : [] = ls := lines_eq_iff.mpr more
      refine ⟨[], ?_, by simp⟩
      simpa using lines_append unbroken (lines_of_ends (.pair ds))
    · refine ⟨gap, ?_, hempty⟩
      have hends : Ends ending (rest ++ '\n' :: ds) := by
        cases ends with
        | pair => exact .pair _
        | single isBreak not_pair =>
          refine .single isBreak fun hc => ?_
          cases rest with
          | nil => exact absurd ⟨by rw [hc], rfl⟩ hreturn
          | cons d rest => exact not_pair hc
      rw [List.append_assoc, List.append_assoc, lines_append unbroken (lines_of_ends hends), hgap]
      simp

/-- The words are the longest pieces without white space. -/
inductive IsWords : List Char → List (List Char) → Prop
  | blank {gap : List Char} (blank : ∀ c ∈ gap, isBlank c = true) : IsWords gap []
  | word (gap word : List Char) {rest : List Char} {ws : List (List Char)} (blank : ∀ c ∈ gap, isBlank c = true)
      (ne_nil : word ≠ []) (solid : ∀ c ∈ word, isBlank c = false)
      (boundary : ∀ c, rest.head? = some c → isBlank c = true) (more : IsWords rest ws) :
      IsWords (gap ++ word ++ rest) (word :: ws)

theorem words_cons_of_isBlank (hc : isBlank c = true) (rest : List Char) : words (c :: rest) = words rest := by
  rw [words.eq_def]
  exact if_pos hc

theorem words_blank_append (hgap : ∀ c ∈ gap, isBlank c = true) (cs : List Char) : words (gap ++ cs) = words cs := by
  induction gap with
  | nil => rfl
  | cons c gap ih =>
    rw [List.cons_append, words_cons_of_isBlank (hgap c List.mem_cons_self)]
    exact ih fun d hd => hgap d (List.mem_cons_of_mem c hd)

theorem words_word_append (hne : word ≠ []) (hsolid : ∀ c ∈ word, isBlank c = false)
    (hboundary : ∀ c, rest.head? = some c → isBlank c = true) : words (word ++ rest) = word :: words rest := by
  induction word with
  | nil => exact absurd rfl hne
  | cons c word ih =>
    obtain ⟨hc, hword⟩ := List.forall_mem_cons.mp hsolid
    rw [List.cons_append, words.eq_def]
    dsimp only
    rw [if_neg (by simp [hc])]
    cases word with
    | nil =>
      cases rest with
      | nil => rfl
      | cons d rest => exact if_pos (hboundary d rfl)
    | cons d word =>
      rw [ih (List.cons_ne_nil d word) hword]
      exact if_neg (by simp [hword d List.mem_cons_self])

theorem IsWords.cons_blank (h : IsWords rest ws) (hc : isBlank c = true) : IsWords (c :: rest) ws := by
  cases h with
  | blank blank => exact .blank (List.forall_mem_cons.mpr ⟨hc, blank⟩)
  | word gap word blank ne_nil solid boundary more =>
    exact .word (c :: gap) word (List.forall_mem_cons.mpr ⟨hc, blank⟩) ne_nil solid boundary more

theorem IsWords.forall_isBlank (h : IsWords cs ws) (hws : ws = []) : ∀ c ∈ cs, isBlank c = true := by
  cases h with
  | blank blank => exact blank
  | word => cases hws

theorem IsWords.cons_solid {d : Char} (h : IsWords (d :: rest) (word :: ws)) (hc : isBlank c = false)
    (hd : isBlank d = false) : IsWords (c :: d :: rest) ((c :: word) :: ws) := by
  generalize htext : d :: rest = text at h ⊢
  cases h with
  | word gap _ blank ne_nil solid boundary more =>
    cases gap with
    | nil =>
      exact .word [] (c :: word) (by simp) (List.cons_ne_nil c word) (List.forall_mem_cons.mpr ⟨hc, solid⟩) boundary
        more
    | cons e gap =>
      cases htext
      rw [blank d List.mem_cons_self] at hd
      cases hd

theorem isWords_words (cs : List Char) : IsWords cs (words cs) := by
  induction cs with
  | nil => exact .blank (by simp)
  | cons c rest ih =>
    unfold words
    split
    · next hc => exact ih.cons_blank hc
    · next hc =>
      have hsolid : isBlank c = false := by simpa using hc
      split
      · exact .word [] [c] (by simp) (by simp) (by simpa) (by simp) (.blank (by simp))
      · next d rest =>
        split
        · next hd => exact .word [] [c] (by simp) (by simp) (by simpa) (by simpa) ih
        · next hd =>
          split
          · next hwords =>
            rw [hwords] at ih
            exact absurd (ih.forall_isBlank rfl d List.mem_cons_self) hd
          · next w ws hwords =>
            rw [hwords] at ih
            exact ih.cons_solid hsolid (by simpa using hd)

theorem words_eq_iff : words cs = ws ↔ IsWords cs ws := by
  constructor
  · rintro rfl
    exact isWords_words cs
  · intro h
    induction h with
    | @blank gap blank =>
      have hall := words_blank_append blank []
      rwa [List.append_nil] at hall
    | word gap word blank ne_nil solid boundary more ih =>
      rw [List.append_assoc, words_blank_append blank, words_word_append ne_nil solid boundary, ih]

end Text

namespace Grammar

variable {line lhs word rest : List Char} {words ls : List (List Char)} {number : Nat} {X : Symbol} {rhs : List Symbol}
  {rule : Rule} {rules : List Rule} {e : GrammarError}

/-- A left side, an arrow and the words after it, with white space where none is needed. -/
inductive Sides : List Char → List Char → List (List Char) → Prop
  | arrow (gap gap' : List Char) {lhs body : List Char} {words : List (List Char)}
      (blank : ∀ c ∈ gap, Text.isBlank c = true) (isName : isNonterminalName lhs = true)
      (blank' : ∀ c ∈ gap', Text.isBlank c = true) (isWords : Text.IsWords body words) :
      Sides (gap ++ lhs ++ gap' ++ '-' :: '>' :: body) lhs words

inductive Names : List Char → Symbol → Prop
  | terminal {word : List Char} (isName : isTerminalName word = true) : Names word (.terminal (String.ofList word))
  | nonterminal {word : List Char} (isName : isNonterminalName word = true) :
      Names word (.nonterminal (String.ofList word))

/-- The right side is `ε` alone, or the names of its symbols. -/
inductive Spells (line : List Char) : Rule → Prop
  | epsilon {lhs : List Char} (sides : Sides line lhs [['ε']]) : Spells line ⟨.nonterminal (String.ofList lhs), []⟩
  | symbols {lhs : List Char} {words : List (List Char)} {rhs : List Symbol} (sides : Sides line lhs words)
      (names : List.Forall₂ Names words rhs) : Spells line ⟨.nonterminal (String.ofList lhs), rhs⟩

/-- What is wrong with the line: its form, or an `ε` among other words, or else its first word that is no name. -/
inductive Fault (line : List Char) (number : Nat) : GrammarError → Prop
  | form (no_sides : ∀ lhs words, ¬ Sides line lhs words) : Fault line number (.badFormat number (String.ofList line))
  | epsilon {lhs : List Char} {words : List (List Char)} (sides : Sides line lhs words) (mem : ['ε'] ∈ words)
      (not_alone : words ≠ [['ε']]) : Fault line number (.epsilonNotAlone number (String.ofList line))
  | symbol {lhs word : List Char} {before after : List (List Char)} (sides : Sides line lhs (before ++ word :: after))
      (no_epsilon : ['ε'] ∉ before ++ word :: after) (names : ∀ w ∈ before, ∃ X, Names w X)
      (no_name : ∀ X, ¬ Names word X) :
      Fault line number (.invalidSymbol number (String.ofList line) (String.ofList word))

/-- White space ends a name. -/
theorem isBlank_of_isAlphanum {c : Char} (hc : c.isAlphanum = true) : Text.isBlank c = false := by
  have hranges : (65 ≤ c.toNat ∧ c.toNat ≤ 90 ∨ 97 ≤ c.toNat ∧ c.toNat ≤ 122) ∨ 48 ≤ c.toNat ∧ c.toNat ≤ 57 := by
    change (decide ('A'.val ≤ c.val ∧ c.val ≤ 'Z'.val) || decide ('a'.val ≤ c.val) && decide (c.val ≤ 'z'.val) ||
      decide ('0'.val ≤ c.val) && decide (c.val ≤ '9'.val)) = true at hc
    simp only [Bool.or_eq_true, Bool.and_eq_true, decide_eq_true_eq, UInt32.le_iff_toNat_le] at hc
    exact hc
  simp only [Text.isBlank, Bool.or_eq_false_iff, Bool.and_eq_false_iff, decide_eq_false_iff_not, beq_eq_false_iff_ne]
  omega

theorem sides_of_splitRule (h : splitRule line = some (lhs, words)) : Sides line lhs words := by
  have hname := isNonterminalName_of_splitRule h
  unfold splitRule at h
  split at h
  · cases h
  · next c rest hstart =>
    split at h
    · split at h
      · next body hbody =>
        cases h
        have hblank : ∀ {cs : List Char}, ∀ d ∈ cs.takeWhile Text.isBlank, Text.isBlank d = true :=
          fun d hd => List.all_eq_true.mp List.all_takeWhile d hd
        have hsides := Sides.arrow (line.takeWhile Text.isBlank)
          ((rest.dropWhile Char.isAlphanum).takeWhile Text.isBlank) hblank hname hblank (Text.isWords_words body)
        rwa [← hbody, List.append_assoc, List.takeWhile_append_dropWhile, List.append_assoc, List.cons_append,
          List.takeWhile_append_dropWhile, ← hstart, List.takeWhile_append_dropWhile] at hsides
      · cases h
    · cases h

theorem splitRule_of_sides (h : Sides line lhs words) : splitRule line = some (lhs, words) := by
  cases h with
  | @arrow gap gap' lhs body words blank isName blank' isWords =>
    cases lhs with
    | nil => cases isName
    | cons c name =>
      simp only [isNonterminalName, Bool.and_eq_true, List.all_eq_true] at isName
      obtain ⟨hupper, halnum⟩ := isName
      have hc : Text.isBlank c = false := isBlank_of_isAlphanum (by simp [Symbol.isAlphanum_eq, hupper])
      have hstart : (gap ++ c :: name ++ gap' ++ '-' :: '>' :: body).dropWhile Text.isBlank =
          c :: (name ++ (gap' ++ '-' :: '>' :: body)) := by
        rw [List.append_assoc, List.append_assoc, List.dropWhile_append_of_pos blank, List.cons_append,
          List.dropWhile_cons_of_neg (by simp [hc])]
      -- Neither white space nor the arrow goes on with the name.
      have hstop : (gap' ++ '-' :: '>' :: body).takeWhile Char.isAlphanum = [] := by
        cases gap' with
        | nil => rfl
        | cons d gap' =>
          rw [List.cons_append, List.takeWhile_cons_of_neg]
          intro hd
          have hblank := blank' d List.mem_cons_self
          rw [isBlank_of_isAlphanum hd] at hblank
          cases hblank
      have hname : (name ++ (gap' ++ '-' :: '>' :: body)).takeWhile Char.isAlphanum = name := by
        rw [List.takeWhile_append_of_pos halnum, hstop, List.append_nil]
      have hrest : (name ++ (gap' ++ '-' :: '>' :: body)).dropWhile Char.isAlphanum = gap' ++ '-' :: '>' :: body := by
        have hparts := List.takeWhile_append_dropWhile (p := Char.isAlphanum) (l := name ++ (gap' ++ '-' :: '>' :: body))
        rw [hname] at hparts
        exact List.append_cancel_left hparts
      rw [splitRule, hstart]
      dsimp only
      rw [if_pos hupper, hrest, hname, List.dropWhile_append_of_pos blank']
      exact congrArg (fun words => some (c :: name, words)) (Text.words_eq_iff.mpr isWords)

theorem splitRule_eq_some_iff : splitRule line = some (lhs, words) ↔ Sides line lhs words :=
  ⟨sides_of_splitRule, splitRule_of_sides⟩

theorem readSymbol_eq_ok_iff {text : String} : readSymbol number text word = .ok X ↔ Names word X := by
  constructor
  · intro h
    unfold readSymbol at h
    split at h
    · next hname =>
      cases h
      exact .terminal hname
    · split at h
      · next hname =>
        cases h
        exact .nonterminal hname
      · cases h
  · intro h
    cases h with
    | terminal isName => exact if_pos isName
    | nonterminal isName =>
      rw [readSymbol, Symbol.not_isTerminalName_of_isNonterminalName isName, if_neg Bool.false_ne_true]
      exact if_pos isName

theorem readSymbol_eq_error_iff {text : String} :
    readSymbol number text word = .error e ↔
      (∀ X, ¬ Names word X) ∧ e = .invalidSymbol number text (String.ofList word) := by
  constructor
  · intro h
    refine ⟨fun X hX => ?_, ?_⟩
    · rw [readSymbol_eq_ok_iff.mpr hX] at h
      cases h
    · unfold readSymbol at h
      split at h
      · cases h
      · split at h
        · cases h
        · cases h
          rfl
  · rintro ⟨hnone, rfl⟩
    rw [readSymbol, if_neg fun hname => hnone _ (.terminal hname), if_neg fun hname => hnone _ (.nonterminal hname)]

theorem readSymbols_eq_ok_iff {text : String} :
    readSymbols number text words = .ok rhs ↔ List.Forall₂ Names words rhs := by
  induction words generalizing rhs with
  | nil => simp [readSymbols, eq_comm]
  | cons word words ih =>
    rw [readSymbols, List.forall₂_cons_left_iff, bind_eq_ok]
    constructor
    · rintro ⟨X, hX, h⟩
      obtain ⟨Xs, hXs, h⟩ := bind_eq_ok.mp h
      cases h
      exact ⟨X, Xs, readSymbol_eq_ok_iff.mp hX, ih.mp hXs, rfl⟩
    · rintro ⟨X, Xs, hX, hXs, rfl⟩
      exact ⟨X, readSymbol_eq_ok_iff.mpr hX, bind_eq_ok.mpr ⟨Xs, ih.mpr hXs, rfl⟩⟩

theorem bind_eq_error {ε α β : Type} {x : Except ε α} {f : α → Except ε β} {e : ε} :
    x >>= f = .error e ↔ x = .error e ∨ ∃ a, x = .ok a ∧ f a = .error e := by
  cases x with
  | error e => simp [bind, Except.bind]
  | ok a => simp [bind, Except.bind]

/-- The first word that is no name is at fault. -/
theorem readSymbols_eq_error_iff {text : String} :
    readSymbols number text words = .error e ↔
      ∃ before word after, words = before ++ word :: after ∧ (∀ w ∈ before, ∃ X, Names w X) ∧ (∀ X, ¬ Names word X) ∧
        e = .invalidSymbol number text (String.ofList word) := by
  induction words with
  | nil => simp [readSymbols]
  | cons word words ih =>
    rw [readSymbols, bind_eq_error, readSymbol_eq_error_iff]
    constructor
    · rintro (⟨hnone, rfl⟩ | ⟨X, hX, h⟩)
      · exact ⟨[], word, words, rfl, by simp, hnone, rfl⟩
      · rcases bind_eq_error.mp h with h | ⟨Xs, -, h⟩
        · obtain ⟨before, bad, after, rfl, hbefore, hnone, rfl⟩ := ih.mp h
          exact ⟨word :: before, bad, after, rfl,
            List.forall_mem_cons.mpr ⟨⟨X, readSymbol_eq_ok_iff.mp hX⟩, hbefore⟩, hnone, rfl⟩
        · cases h
    · rintro ⟨before, bad, after, hwords, hbefore, hnone, rfl⟩
      cases before with
      | nil =>
        cases hwords
        exact Or.inl ⟨hnone, rfl⟩
      | cons first before =>
        cases hwords
        obtain ⟨⟨X, hX⟩, hbefore⟩ := List.forall_mem_cons.mp hbefore
        exact Or.inr ⟨X, readSymbol_eq_ok_iff.mpr hX,
          bind_eq_error.mpr (Or.inl (ih.mpr ⟨before, bad, after, rfl, hbefore, hnone, rfl⟩))⟩

theorem Names.ne_epsilon (h : Names word X) : word ≠ ['ε'] := by
  rintro rfl
  cases h with
  | terminal isName => exact absurd isName (by decide)
  | nonterminal isName => exact absurd isName (by decide)

theorem not_mem_of_names (h : List.Forall₂ Names words rhs) : ['ε'] ∉ words := by
  have hall : List.Forall₂ (fun w X => w ≠ ['ε'] ∧ Names w X) words rhs :=
    h.imp fun _ _ hname => ⟨hname.ne_epsilon, hname⟩
  exact fun hmem => ((List.forall₂_and_left _ _).mp hall).1 _ hmem rfl

theorem readRule_eq_ok_iff : readRule number line = .ok rule ↔ Spells line rule := by
  constructor
  · intro h
    unfold readRule at h
    split at h
    · cases h
    · next lhs words hsplit =>
      have hsides := splitRule_eq_some_iff.mp hsplit
      dsimp only at h
      split at h
      · next halone =>
        cases h
        exact .epsilon (halone ▸ hsides)
      · split at h
        · cases h
        · obtain ⟨rhs, hrhs, h⟩ := bind_eq_ok.mp h
          cases h
          exact .symbols hsides (readSymbols_eq_ok_iff.mp hrhs)
  · intro h
    cases h with
    | epsilon sides =>
      rw [readRule, splitRule_eq_some_iff.mpr sides]
      rfl
    | symbols sides names =>
      have hnone := not_mem_of_names names
      rw [readRule, splitRule_eq_some_iff.mpr sides]
      dsimp only
      rw [if_neg fun halone => hnone (by simp [halone]), if_neg hnone, bind_eq_ok]
      exact ⟨_, readSymbols_eq_ok_iff.mpr names, rfl⟩

theorem readRule_eq_error_iff : readRule number line = .error e ↔ Fault line number e := by
  constructor
  · intro h
    unfold readRule at h
    split at h
    · next hnone =>
      cases h
      refine .form fun lhs words hsides => ?_
      rw [splitRule_eq_some_iff.mpr hsides] at hnone
      cases hnone
    · next lhs words hsplit =>
      have hsides := splitRule_eq_some_iff.mp hsplit
      dsimp only at h
      split at h
      · cases h
      · next hnot =>
        split at h
        · next hmem =>
          cases h
          exact .epsilon hsides hmem hnot
        · next hmem =>
          rcases bind_eq_error.mp h with h | ⟨rhs, -, h⟩
          · obtain ⟨before, word, after, rfl, hbefore, hnone, rfl⟩ := readSymbols_eq_error_iff.mp h
            exact .symbol hsides hmem hbefore hnone
          · cases h
  · intro h
    cases h with
    | form no_sides =>
      cases hsplit : splitRule line with
      | none => rw [readRule, hsplit]
      | some sides => exact absurd (splitRule_eq_some_iff.mp hsplit) (no_sides sides.1 sides.2)
    | epsilon sides mem not_alone =>
      rw [readRule, splitRule_eq_some_iff.mpr sides]
      dsimp only
      rw [if_neg not_alone, if_pos mem]
    | symbol sides no_epsilon names no_name =>
      rw [readRule, splitRule_eq_some_iff.mpr sides]
      dsimp only
      rw [if_neg fun halone => no_epsilon (by simp [halone]), if_neg no_epsilon, bind_eq_error]
      exact Or.inl (readSymbols_eq_error_iff.mpr ⟨_, _, _, rfl, names, no_name, rfl⟩)

theorem readRules_eq_ok_iff {entries : List (List Char × Nat)} :
    readRules entries = .ok rules ↔ List.Forall₂ Spells (entries.map Prod.fst) rules := by
  induction entries generalizing rules with
  | nil => simp [readRules, eq_comm]
  | cons entry entries ih =>
    rw [readRules, List.map_cons, List.forall₂_cons_left_iff, bind_eq_ok]
    constructor
    · rintro ⟨rule, hrule, h⟩
      obtain ⟨rest, hrest, h⟩ := bind_eq_ok.mp h
      cases h
      exact ⟨rule, rest, readRule_eq_ok_iff.mp hrule, ih.mp hrest, rfl⟩
    · rintro ⟨rule, rest, hrule, hrest, rfl⟩
      exact ⟨rule, readRule_eq_ok_iff.mpr hrule, bind_eq_ok.mpr ⟨rest, ih.mpr hrest, rfl⟩⟩

/-- The first line that is neither blank nor spells a rule is at fault, with its number counted over all lines. -/
def FirstFault (ls : List (List Char)) (number : Nat) (e : GrammarError) : Prop :=
  ∃ before line after, ls = before ++ line :: after ∧
    (∀ l ∈ before, Text.IsBlank l ∨ ∃ rule, Spells l rule) ∧ ¬ Text.IsBlank line ∧ Fault line (before.length + number) e

theorem firstFault_cons : FirstFault (line :: ls) number e ↔
    ¬ Text.IsBlank line ∧ Fault line number e ∨
      (Text.IsBlank line ∨ ∃ rule, Spells line rule) ∧ FirstFault ls (number + 1) e := by
  constructor
  · rintro ⟨before, bad, after, hls, hbefore, hbad, hfault⟩
    cases before with
    | nil =>
      cases hls
      rw [List.length_nil, Nat.zero_add] at hfault
      exact Or.inl ⟨hbad, hfault⟩
    | cons first before =>
      cases hls
      obtain ⟨hfirst, hbefore⟩ := List.forall_mem_cons.mp hbefore
      rw [List.length_cons, Nat.add_right_comm, Nat.add_assoc] at hfault
      exact Or.inr ⟨hfirst, before, bad, after, rfl, hbefore, hbad, hfault⟩
  · rintro (⟨hline, hfault⟩ | ⟨hline, before, bad, after, rfl, hbefore, hbad, hfault⟩)
    · refine ⟨[], line, ls, rfl, by simp, hline, ?_⟩
      rwa [List.length_nil, Nat.zero_add]
    · refine ⟨line :: before, bad, after, rfl, List.forall_mem_cons.mpr ⟨hline, hbefore⟩, hbad, ?_⟩
      rwa [List.length_cons, Nat.add_right_comm, Nat.add_assoc]

theorem not_all_isBlank_iff : (!line.all Text.isBlank) = true ↔ ¬ Text.IsBlank line := by
  simp [Text.IsBlank]

theorem readRules_eq_error_iff :
    readRules ((ls.zipIdx number).filter fun (line, _) => !line.all Text.isBlank) = .error e ↔
      FirstFault ls number e := by
  induction ls generalizing number with
  | nil => simp [readRules, FirstFault]
  | cons line ls ih =>
    rw [List.zipIdx_cons, List.filter_cons, firstFault_cons, ← ih]
    dsimp only
    by_cases hline : Text.IsBlank line
    · rw [if_neg fun hnot => not_all_isBlank_iff.mp hnot hline]
      constructor
      · exact fun h => Or.inr ⟨Or.inl hline, h⟩
      · rintro (⟨hnot, -⟩ | ⟨-, h⟩)
        · exact absurd hline hnot
        · exact h
    · rw [if_pos (not_all_isBlank_iff.mpr hline), readRules, bind_eq_error, readRule_eq_error_iff]
      constructor
      · rintro (hfault | ⟨rule, hrule, h⟩)
        · exact Or.inl ⟨hline, hfault⟩
        · rcases bind_eq_error.mp h with h | ⟨rest, -, h⟩
          · exact Or.inr ⟨Or.inr ⟨rule, readRule_eq_ok_iff.mp hrule⟩, h⟩
          · cases h
      · rintro (⟨-, hfault⟩ | ⟨hspelt | ⟨rule, hrule⟩, h⟩)
        · exact Or.inl hfault
        · exact absurd hspelt hline
        · exact Or.inr ⟨rule, readRule_eq_ok_iff.mpr hrule, bind_eq_error.mpr (Or.inl h)⟩

/-- The lines of a text that are not blank. -/
def writtenLines (text : String) : List (List Char) :=
  (Text.lines text.toList).filter fun line => !line.all Text.isBlank

/-- Of two texts one under the other. -/
theorem writtenLines_append (text more : String) :
    writtenLines (text ++ "\n" ++ more) = writtenLines text ++ writtenLines more := by
  obtain ⟨gap, hlines, hempty⟩ := Text.exists_lines_append (Text.isLines_lines text.toList) more.toList
  have hgap : gap.filter (fun line => !line.all Text.isBlank) = [] := by
    rw [List.filter_eq_nil_iff]
    intro l hl
    rw [hempty l hl]
    decide
  have htext : (text ++ "\n" ++ more).toList = text.toList ++ '\n' :: more.toList := by
    simp [String.toList_append]
  rw [writtenLines, htext, hlines, List.filter_append, List.filter_append, hgap, List.append_nil]
  rfl

theorem map_fst_numberedLines (text : String) : (numberedLines text).map Prod.fst = writtenLines text := by
  rw [writtenLines, ← List.zipIdx_map_fst 1 (Text.lines text.toList), List.filter_map]
  rfl

theorem read_eq_ok_iff {text : String} {g : Grammar} :
    read text = .ok g ↔
      ∃ first rest, List.Forall₂ Spells (writtenLines text) (first :: rest) ∧ g = ⟨first.lhs, first :: rest⟩ := by
  rw [← map_fst_numberedLines, read, bind_eq_ok]
  constructor
  · rintro ⟨rules, hrules, h⟩
    cases rules with
    | nil => cases h
    | cons first rest =>
      cases h
      exact ⟨first, rest, readRules_eq_ok_iff.mp hrules, rfl⟩
  · rintro ⟨first, rest, hspelt, rfl⟩
    exact ⟨first :: rest, readRules_eq_ok_iff.mpr hspelt, rfl⟩

theorem read_eq_error_iff {text : String} :
    read text = .error e ↔ FirstFault (Text.lines text.toList) 1 e ∨ writtenLines text = [] ∧ e = .noProductions := by
  rw [← readRules_eq_error_iff, ← map_fst_numberedLines, read, bind_eq_error]
  apply or_congr Iff.rfl
  constructor
  · rintro ⟨rules, hrules, h⟩
    cases rules with
    | nil =>
      cases h
      exact ⟨List.forall₂_nil_right_iff.mp (readRules_eq_ok_iff.mp hrules), rfl⟩
    | cons first rest => cases h
  · rintro ⟨hnone, rfl⟩
    exact ⟨[], readRules_eq_ok_iff.mpr (hnone ▸ .nil), rfl⟩

end Grammar

end CanonicalLR
