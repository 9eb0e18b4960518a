import CanonicalLR.Proofs.Closure
import Mathlib.Data.List.Basic

/-! # What a signature tells

The text of an item tells its dot, its lookahead and the two sides of its production, though not the
number of the production, since a rule may be written twice. A signature tells the texts of a set. So
two sets that hold an item for every copy of its rule have the same signature only if they have the
same items, and sets of the same items without repeats always have the same signature.
-/
namespace CanonicalLR

/-- Texts without a separator are told by their row between separators. -/
theorem intercalate_injective {separator : String} {c : Char} (hseparator : separator.toList = [c])
    {xs ys : List String} (hxs : ∀ x ∈ xs, c ∉ x.toList) (hys : ∀ y ∈ ys, c ∉ y.toList) (hxs' : xs ≠ [])
    (hys' : ys ≠ []) (h : String.intercalate separator xs = String.intercalate separator ys) : xs = ys := by
  have hlists := congrArg String.toList h
  rw [String.toList_intercalate, String.toList_intercalate, hseparator] at hlists
  have hsplit := congrArg (List.splitOn c) hlists
  have hmem : ∀ {zs : List String}, (∀ z ∈ zs, c ∉ z.toList) → ∀ l ∈ zs.map String.toList, c ∉ l := by
    intro zs hzs l hl
    obtain ⟨z, hz, rfl⟩ := List.mem_map.mp hl
    exact hzs z hz
  rw [List.splitOn_intercalate c (hmem hxs) (by simpa using hxs'),
    List.splitOn_intercalate c (hmem hys) (by simpa using hys')] at hsplit
  exact List.map_injective_iff.mpr (fun _ _ => String.toList_injective) hsplit

namespace Symbol

theorem map_name_injective {xs ys : List Symbol} (hxs : ∀ X ∈ xs, X.IsWritten) (hys : ∀ Y ∈ ys, Y.IsWritten)
    (h : xs.map name = ys.map name) : xs = ys := by
  induction xs generalizing ys with
  | nil => exact (List.map_eq_nil_iff.mp h.symm).symm
  | cons X xs ih =>
    obtain ⟨Y, ys, rfl, hname, hrest⟩ := List.map_eq_cons_iff.mp h.symm
    rw [(hxs X List.mem_cons_self).eq_of_name_eq (hys Y List.mem_cons_self) hname.symm,
      ih (fun Z hZ => hxs Z (List.mem_cons_of_mem X hZ)) (fun Z hZ => hys Z (List.mem_cons_of_mem Y hZ))
        hrest.symm]

end Symbol

/-- The rule that an item is about, with its dot and its lookahead. -/
def Item.core (i : Item) : Rule × Nat × Symbol := (i.production.rule, i.dot, i.lookahead)

theorem Item.core_eq_iff {i j : Item} : i.core = j.core ↔ i.production.lhs = j.production.lhs ∧
    i.production.rhs = j.production.rhs ∧ i.dot = j.dot ∧ i.lookahead = j.lookahead := by
  simp only [core, Production.rule, Prod.mk.injEq, Rule.mk.injEq, and_assoc]

/-- The core leaves out only which copy of the rule the item is about. -/
theorem Item.eq_of_core_eq {i j : Item} (hproduction : i.production = j.production) (h : i.core = j.core) : i = j := by
  obtain ⟨-, -, hdot, hlookahead⟩ := core_eq_iff.mp h
  obtain ⟨p, dot, a⟩ := i
  obtain ⟨q, dot', b⟩ := j
  cases hproduction
  cases hdot
  cases hlookahead
  rfl

/-- The characters that keep the parts of an item text, and the texts of a signature, apart. -/
def isPunctuation (c : Char) : Bool := c = ' ' || c = '>' || c = ',' || c = '|' || c = '•'

def Symbol.IsPlain (X : Symbol) : Prop := ∀ c ∈ X.name.toList, isPunctuation c = false

theorem not_isPunctuation_of_isAlphanum {c : Char} (h : c.isAlphanum = true) : isPunctuation c = false := by
  simp only [isPunctuation, Bool.or_eq_false_iff, decide_eq_false_iff_not]
  refine ⟨⟨⟨⟨?_, ?_⟩, ?_⟩, ?_⟩, ?_⟩ <;> (rintro rfl; revert h; decide)

theorem Symbol.IsWritten.isPlain {X : Symbol} (h : X.IsWritten) : X.IsPlain :=
  fun c hc => not_isPunctuation_of_isAlphanum (h.isAlphanum c hc)

theorem mem_intercalate_of {s : List Char} {words : List (List Char)} {c : Char}
    (h : c ∈ s.intercalate words) : c ∈ s ∨ ∃ word ∈ words, c ∈ word := by
  induction words with
  | nil => cases h
  | cons word words ih =>
    cases words with
    | nil =>
      rw [List.intercalate_singleton] at h
      exact Or.inr ⟨word, List.mem_cons_self, h⟩
    | cons next words =>
      rw [List.intercalate_cons_cons, List.mem_append, List.mem_append] at h
      rcases h with (h | h) | h
      · exact Or.inr ⟨word, List.mem_cons_self, h⟩
      · exact Or.inl h
      · rcases ih h with h | ⟨other, hother, h⟩
        · exact Or.inl h
        · exact Or.inr ⟨other, List.mem_cons_of_mem word hother, h⟩

namespace Item

/-- The part of the text between the arrow and the comma. -/
def dottedText (i : Item) : String := String.intercalate " " i.dottedNames

theorem toList_text (i : Item) :
    i.text.toList = (i.production.lhs.name.toList ++ [' ', '-']) ++
      '>' :: ' ' :: (i.dottedText.toList ++ ',' :: ' ' :: i.lookahead.name.toList) := by
  simp [text, dottedText, toString, String.toList_append]

end Item

namespace ItemSet

/-- The texts that a signature is made of. -/
def sortedTexts (items : ItemSet) : List String :=
  sort (fun a b => decide (a ≤ b)) (items.map Item.text)

theorem sortedTexts_perm (items : ItemSet) : items.sortedTexts.Perm (items.map Item.text) :=
  sort_perm _ _

theorem sortedTexts_eq_nil_iff {items : ItemSet} : items.sortedTexts = [] ↔ items = [] := by
  rw [← List.length_eq_zero_iff, items.sortedTexts_perm.length_eq, List.length_map, List.length_eq_zero_iff]

theorem pairwise_sortedTexts (items : ItemSet) : items.sortedTexts.Pairwise (· ≤ ·) := by
  let le : String → String → Bool := fun a b => decide (a ≤ b)
  have htotal : ∀ a b, le a b = true ∨ le b a = true := by
    intro a b
    simpa [le] using Std.le_total
  have htrans : ∀ a b c, le a b = true → le b c = true → le a c = true := by
    intro a b c hab hbc
    exact decide_eq_true (Std.le_trans (of_decide_eq_true hab) (of_decide_eq_true hbc))
  exact (pairwise_sort htotal htrans (items.map Item.text)).imp of_decide_eq_true

end ItemSet

namespace Grammar

variable {g : Grammar} {p : Production} {i j : Item}

theorem lhs_isPlain (hg : g.WellFormed) (hp : p ∈ g.productions) : p.lhs.IsPlain := by
  by_cases h : p.id = 0
  · rw [eq_augmentedProduction_of_id_eq_zero hp h]
    intro c hc
    simp only [augmentedProduction, augmentedStart, Symbol.nonterminal, String.toList_append,
      List.mem_append] at hc
    rcases hc with hc | hc
    · exact (start_written hg).1.isPlain c hc
    · rw [List.mem_singleton.mp hc]
      decide
  · exact (lhs_written hg hp h).isPlain

theorem rhs_isPlain (hg : g.WellFormed) (hp : p ∈ g.productions) : ∀ X ∈ p.rhs, X.IsPlain :=
  fun X hX => (rhs_written hg hp X hX).isPlain

theorem isPlain_of_mem_terminals (hg : g.WellFormed) {a : Symbol} (ha : a ∈ g.terminals) : a.IsPlain := by
  rcases mem_terminals.mp ha with ⟨-, rule, hrule, ha⟩ | rfl
  · exact (hg.rhs_written rule hrule a ha).isPlain
  · intro c hc
    rw [List.mem_singleton.mp hc]
    decide

theorem mem_dottedNames {i : Item} {name : String} (h : name ∈ i.dottedNames) :
    name = "•" ∨ ∃ X ∈ i.production.rhs, name = X.name := by
  simp only [Item.dottedNames, List.mem_append, List.mem_cons] at h
  have hmap : ∀ {name}, name ∈ i.production.rhs.map Symbol.name → ∃ X ∈ i.production.rhs, name = X.name := by
    intro name hname
    obtain ⟨X, hX, rfl⟩ := List.mem_map.mp hname
    exact ⟨X, hX, rfl⟩
  rcases h with h | rfl | h
  · exact Or.inr (hmap (List.mem_of_mem_take h))
  · exact Or.inl rfl
  · exact Or.inr (hmap (List.mem_of_mem_drop h))

/-- No character of the middle part is a comma or a bar, and its words have no space. -/
theorem not_mem_dottedName (hg : g.WellFormed) (hi : g.HasItem i) {c : Char} (hc : isPunctuation c = true)
    (hbullet : c ≠ '•') : ∀ name ∈ i.dottedNames, c ∉ name.toList := by
  intro name hname hmem
  rcases mem_dottedNames hname with rfl | ⟨X, hX, rfl⟩
  · exact hbullet (List.mem_singleton.mp hmem)
  · have hplain := rhs_isPlain hg hi.production_mem X hX c hmem
    rw [hc] at hplain
    cases hplain

theorem not_mem_dottedText (hg : g.WellFormed) (hi : g.HasItem i) {c : Char} (hc : isPunctuation c = true)
    (hbullet : c ≠ '•') (hspace : c ≠ ' ') : c ∉ i.dottedText.toList := by
  intro hmem
  rw [Item.dottedText, String.toList_intercalate] at hmem
  rcases mem_intercalate_of hmem with hmem | ⟨word, hword, hmem⟩
  · exact hspace (List.mem_singleton.mp hmem)
  · obtain ⟨name, hname, rfl⟩ := List.mem_map.mp hword
    exact not_mem_dottedName hg hi hc hbullet name hname hmem

theorem not_mem_of_isPlain {X : Symbol} (h : X.IsPlain) {c : Char} (hc : isPunctuation c = true) :
    c ∉ X.name.toList := by
  intro hmem
  rw [h c hmem] at hc
  cases hc

theorem bar_not_mem_text (hg : g.WellFormed) (hi : g.HasItem i) : '|' ∉ i.text.toList := by
  rw [Item.toList_text]
  simp only [List.mem_append, List.mem_cons, not_or]
  exact ⟨⟨not_mem_of_isPlain (lhs_isPlain hg hi.production_mem) rfl, by decide, by decide, by simp⟩,
    by decide, by decide, not_mem_dottedText hg hi rfl (by decide) (by decide), by decide, by decide,
    not_mem_of_isPlain (isPlain_of_mem_terminals hg hi.lookahead_mem) rfl⟩

theorem rhs_and_dot_eq_of_dottedNames_eq (hg : g.WellFormed) (hi : g.HasItem i) (hj : g.HasItem j)
    (h : i.dottedNames = j.dottedNames) : i.production.rhs = j.production.rhs ∧ i.dot = j.dot := by
  have hbullet : ∀ {k : Item}, g.HasItem k → ∀ names ⊆ k.production.rhs.map Symbol.name, "•" ∉ names := by
    intro k hk names hnames hmem
    obtain ⟨X, hX, hname⟩ := List.mem_map.mp (hnames hmem)
    have hplain := rhs_isPlain hg hk.production_mem X hX '•' (by rw [hname]; decide)
    cases hplain
  obtain ⟨hbefore, -, hafter⟩ := (List.append_cons_inj_of_notMem (hbullet hi _ (List.take_subset i.dot _))
    (hbullet hi _ (List.drop_subset i.dot _))).mp h
  have hnames : i.production.rhs.map Symbol.name = j.production.rhs.map Symbol.name := by
    rw [← List.take_append_drop i.dot (i.production.rhs.map Symbol.name), hbefore, hafter,
      List.take_append_drop]
  have hlength := congrArg List.length hbefore
  simp only [List.length_take, List.length_map] at hlength
  refine ⟨Symbol.map_name_injective (rhs_written hg hi.production_mem) (rhs_written hg hj.production_mem)
    hnames, ?_⟩
  have := hi.dot_le
  have := hj.dot_le
  omega

theorem parts_eq_of_text_eq (hg : g.WellFormed) (hi : g.HasItem i)
    (h : i.text = j.text) :
    i.production.lhs.name = j.production.lhs.name ∧ i.dottedText = j.dottedText ∧
      i.lookahead.name = j.lookahead.name := by
  have hlists := congrArg String.toList h
  rw [Item.toList_text, Item.toList_text] at hlists
  have hlookahead : ∀ c, isPunctuation c = true → c ∉ i.lookahead.name.toList :=
    fun _ => not_mem_of_isPlain (isPlain_of_mem_terminals hg hi.lookahead_mem)
  have hbefore : '>' ∉ i.production.lhs.name.toList ++ [' ', '-'] := by
    simp only [List.mem_append, List.mem_cons, not_or]
    exact ⟨not_mem_of_isPlain (lhs_isPlain hg hi.production_mem) rfl, by decide, by decide, by simp⟩
  have hafter : '>' ∉ ' ' :: (i.dottedText.toList ++ ',' :: ' ' :: i.lookahead.name.toList) := by
    simp only [List.mem_append, List.mem_cons, not_or]
    exact ⟨by decide, not_mem_dottedText hg hi rfl (by decide) (by decide), by decide, by decide,
      hlookahead _ rfl⟩
  obtain ⟨hleft, -, hright⟩ := (List.append_cons_inj_of_notMem hbefore hafter).mp hlists
  have hcomma : ',' ∉ ' ' :: i.lookahead.name.toList := by
    rw [List.mem_cons, not_or]
    exact ⟨by decide, hlookahead _ rfl⟩
  obtain ⟨hbody, -, hend⟩ := (List.append_cons_inj_of_notMem
    (not_mem_dottedText hg hi rfl (by decide) (by decide)) hcomma).mp (List.cons.inj hright).2
  exact ⟨String.toList_injective (List.append_cancel_right hleft), String.toList_injective hbody,
    String.toList_injective (List.cons.inj hend).2⟩

/-- The text of an item tells all but the number of its production. -/
theorem core_eq_of_text_eq (hg : g.WellFormed) (hi : g.HasItem i) (hj : g.HasItem j)
    (h : i.text = j.text) : i.core = j.core := by
  obtain ⟨hlhs, hbody, hlookahead⟩ := parts_eq_of_text_eq hg hi h
  have hnames : i.dottedNames = j.dottedNames := by
    refine intercalate_injective (c := ' ') rfl (not_mem_dottedName hg hi rfl (by decide))
      (not_mem_dottedName hg hj rfl (by decide)) ?_ ?_ hbody
    all_goals simp [Item.dottedNames]
  obtain ⟨hrhs, hdot⟩ := rhs_and_dot_eq_of_dottedNames_eq hg hi hj hnames
  have hlhs' : i.production.lhs = j.production.lhs := by
    rw [Symbol.eq_nonterminal_of_isNonterminal (lhs_isNonterminal hg hi.production_mem), hlhs,
      ← Symbol.eq_nonterminal_of_isNonterminal (lhs_isNonterminal hg hj.production_mem)]
  have hlookahead' : i.lookahead = j.lookahead := by
    rw [Symbol.eq_terminal_of_isTerminal (isTerminal_of_mem_terminals hi.lookahead_mem), hlookahead,
      ← Symbol.eq_terminal_of_isTerminal (isTerminal_of_mem_terminals hj.lookahead_mem)]
  simp only [Item.core, Production.rule, hlhs', hrhs, hdot, hlookahead']

/-- The set has an item for every copy of a rule, or for none. -/
def TwinClosed (g : Grammar) (items : ItemSet) : Prop :=
  ∀ i ∈ items, ∀ j, g.HasItem j → i.core = j.core → j ∈ items

theorem perm_texts_of_signature_eq {I J : ItemSet} (hg : g.WellFormed) (hI : ∀ i ∈ I, g.HasItem i)
    (hJ : ∀ j ∈ J, g.HasItem j) (hI' : I ≠ []) (hJ' : J ≠ []) (h : I.signature = J.signature) :
    (I.map Item.text).Perm (J.map Item.text) := by
  have hbar : ∀ {K : ItemSet}, (∀ k ∈ K, g.HasItem k) → ∀ text ∈ K.sortedTexts, '|' ∉ text.toList := by
    intro K hK text htext
    obtain ⟨k, hk, rfl⟩ := List.mem_map.mp (K.sortedTexts_perm.mem_iff.mp htext)
    exact bar_not_mem_text hg (hK k hk)
  have hne : ∀ {K : ItemSet}, K ≠ [] → K.sortedTexts ≠ [] := mt ItemSet.sortedTexts_eq_nil_iff.mp
  have hsorted : I.sortedTexts = J.sortedTexts :=
    intercalate_injective (c := '|') rfl (hbar hI) (hbar hJ) (hne hI') (hne hJ') h
  exact I.sortedTexts_perm.symm.trans (hsorted ▸ J.sortedTexts_perm)

theorem mem_iff_of_signature_eq {I J : ItemSet} (hg : g.WellFormed) (hI : ∀ i ∈ I, g.HasItem i)
    (hJ : ∀ j ∈ J, g.HasItem j) (hI' : I ≠ []) (hJ' : J ≠ []) (twinsI : g.TwinClosed I)
    (twinsJ : g.TwinClosed J) (h : I.signature = J.signature) : ∀ i, i ∈ I ↔ i ∈ J := by
  have hperm := perm_texts_of_signature_eq hg hI hJ hI' hJ' h
  intro i
  constructor
  · intro hi
    obtain ⟨j, hj, htext⟩ := List.mem_map.mp (hperm.subset (List.mem_map_of_mem hi))
    exact twinsJ j hj i (hI i hi) (core_eq_of_text_eq hg (hJ j hj) (hI i hi) htext)
  · intro hi
    obtain ⟨j, hj, htext⟩ := List.mem_map.mp (hperm.symm.subset (List.mem_map_of_mem hi))
    exact twinsI j hj i (hJ i hi) (core_eq_of_text_eq hg (hI j hj) (hJ i hi) htext)

theorem signature_eq_of_mem_iff {I J : ItemSet} (hI : I.Nodup) (hJ : J.Nodup) (h : ∀ i, i ∈ I ↔ i ∈ J) :
    I.signature = J.signature := by
  have hperm : (I.map Item.text).Perm (J.map Item.text) := ((List.perm_ext_iff_of_nodup hI hJ).mpr h).map _
  have hsorted : I.sortedTexts = J.sortedTexts := by
    apply List.Perm.eq_of_pairwise ?_ I.pairwise_sortedTexts J.pairwise_sortedTexts
    · exact I.sortedTexts_perm.trans (hperm.trans J.sortedTexts_perm.symm)
    · intro a b _ _ hab hba
      exact Std.le_antisymm hab hba
  exact congrArg (String.intercalate "|") hsorted

end Grammar

end CanonicalLR
