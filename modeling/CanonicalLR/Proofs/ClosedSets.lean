import CanonicalLR.Proofs.Beginning
import CanonicalLR.Proofs.Collected
import Mathlib.Order.Bounds.Defs

/-! # Closure and GOTO on sets of items

An item that waits for a nonterminal introduces the productions of that nonterminal, with every terminal that what
stands behind it can begin with. The closure holds the given items in their order, and as a set it is the least one
with them that holds whatever its items introduce. So it depends on what is given only, and so does GOTO.
-/
namespace CanonicalLR

namespace Distinct

variable {α : Type} [DecidableEq α]

theorem extend_eq_append_eraseDups (xs ys : List α) : extend xs ys = xs ++ (ys.filter (· ∉ xs)).eraseDups := by
  induction ys generalizing xs with
  | nil => simp [extend]
  | cons y ys ih =>
    rw [show extend xs (y :: ys) = extend (insert xs y) ys from rfl, ih, insert]
    by_cases hy : y ∈ xs
    · simp [hy]
    · have hrest : ys.filter (· ∉ xs ++ [y]) = (ys.filter (· ∉ xs)).filter fun z => !z == y := by
        rw [List.filter_filter]
        apply List.filter_congr
        intro z _
        simp [and_comm, beq_eq_decide]
      rw [if_neg hy, hrest, List.filter_cons_of_pos (by simpa using hy), List.eraseDups_cons, List.append_assoc]
      rfl

/-- Of the repeats of an element the first one stays. -/
theorem ofList_eq_eraseDups (ys : List α) : ofList ys = ys.eraseDups := by
  rw [ofList, extend_eq_append_eraseDups]
  simp

end Distinct

theorem saturate_of_fixed {α : Type} [DecidableEq α] {step : α → α} {x : α} (h : step x = x) (n : Nat) :
    saturate step n x = x := by
  cases n with
  | zero => rfl
  | succ n => rw [saturate, if_pos h]

namespace Grammar

variable {g : Grammar} {items more : ItemSet} {i j : Item}

/-- The first item waits for the left side of a production, and the lookahead of the second can come next behind it. -/
inductive Introduces (g : Grammar) : Item → Item → Prop
  | intro {p q : Production} {before after : List Symbol} {a b : Symbol} (rhs_eq : p.rhs = before ++ q.lhs :: after)
      (mem : q ∈ g.productions) (terminal : b.isTerminal = true) (begins : g.Begins (after ++ [a]) b) :
      Introduces g ⟨p, before.length, a⟩ ⟨q, 0, b⟩

theorem follows_iff_begins (hg : g.WellFormed) (hi : g.Admits i) {b : Symbol} :
    g.Follows i b ↔ b.isTerminal = true ∧ g.Begins (i.production.rhs.drop (i.dot + 1) ++ [i.lookahead]) b := by
  have hsymbols : ∀ X ∈ i.production.rhs.drop (i.dot + 1) ++ [i.lookahead],
      X.isTerminal = true ∨ X.isNonterminal = true := by
    intro X hX
    rcases List.mem_append.mp hX with hX | hX
    · exact rhs_terminal_or_nonterminal hg hi.1 X (List.mem_of_mem_drop hX)
    · exact Or.inl (List.mem_singleton.mp hX ▸ hi.2)
  rw [Follows, mem_first_iff hg hsymbols]
  constructor
  · rintro ⟨⟨hepsilon, -⟩ | hbegins, hne⟩
    · exact absurd hepsilon hne
    · exact hbegins
  · rintro ⟨hterminal, hbegins⟩
    refine ⟨Or.inr ⟨hterminal, hbegins⟩, ?_⟩
    rintro rfl
    cases hterminal

theorem mem_predictions_iff_introduces (hg : g.WellFormed) (hi : g.Admits i) :
    j ∈ g.predictor.predictions i ↔ g.Introduces i j := by
  rw [mem_predictions]
  constructor
  · rintro ⟨X, hnext, -, hmem, rfl, hdot, hfollows⟩
    obtain ⟨hterminal, hbegins⟩ := (follows_iff_begins hg hi).mp hfollows
    have hlength : (i.production.rhs.take i.dot).length = i.dot :=
      List.length_take_of_le (Nat.le_of_lt (Item.next?_eq_some_iff.mp hnext).1)
    have hintro := Introduces.intro (Item.rhs_eq_of_next? hnext) hmem hterminal hbegins
    rw [hlength] at hintro
    obtain ⟨p, dot, b⟩ := j
    cases hdot
    exact hintro
  · intro h
    cases h with
    | @intro p q before after a b rhs_eq mem terminal begins =>
      refine ⟨q.lhs, ?_, lhs_isNonterminal hg mem, mem, rfl, rfl, (follows_iff_begins hg hi).mpr ⟨terminal, ?_⟩⟩
      · simp [Item.next?, rhs_eq]
      · simpa [rhs_eq] using begins

/-- The closure of items, and how it depends on what it is given. -/
structure ClosureExact (g : Grammar) (items : ItemSet) : Prop where
  nodup : (g.closure items).Nodup
  front : items.eraseDups <+: g.closure items
  least : IsLeast {K : Set Item | (∀ i ∈ items, i ∈ K) ∧ ∀ i ∈ K, ∀ j, g.Introduces i j → j ∈ K}
    {i | i ∈ g.closure items}
  again : g.closure (g.closure items) = g.closure items
  joined : ∀ more : ItemSet, (∀ i ∈ more, g.Admits i) →
    ∀ i, i ∈ g.closure (items ++ more) ↔ i ∈ g.closure items ∨ i ∈ g.closure more
  rearranged : ∀ more : ItemSet, (∀ i, i ∈ more ↔ i ∈ items) → ∀ i, i ∈ g.closure more ↔ i ∈ g.closure items
  goto_rearranged : ∀ more : ItemSet, (∀ i, i ∈ more ↔ i ∈ items) →
    ∀ X i, i ∈ g.goto more X ↔ i ∈ g.goto items X

theorem prefix_closure (g : Grammar) (items : ItemSet) : Distinct.ofList items <+: g.closure items :=
  saturate_induction (fun found h => h.trans (prefix_closurePass g.predictor found)) _ List.prefix_rfl

theorem isLeast_closure (hg : g.WellFormed) (hitems : ∀ i ∈ items, g.Admits i) :
    IsLeast {K : Set Item | (∀ i ∈ items, i ∈ K) ∧ ∀ i ∈ K, ∀ j, g.Introduces i j → j ∈ K}
      {i | i ∈ g.closure items} := by
  have hadmits := (closing_closure hg hitems).admits
  refine ⟨⟨fun i hi => mem_closure_of_mem hi, ?_⟩, ?_⟩
  · intro i hi j hj
    exact mem_closure_of_mem_predictions hg hitems hi ((mem_predictions_iff_introduces hg (hadmits i hi)).mpr hj)
  · rintro K ⟨hgiven, hclosed⟩ i hi
    have hall : ∀ i ∈ g.closure items, i ∈ K ∧ g.Admits i := by
      refine closure_induction (fun i hi => ⟨hgiven i hi, hitems i hi⟩) ?_
      rintro i ⟨hi, hadmits⟩ j hj
      exact ⟨hclosed i hi j ((mem_predictions_iff_introduces hg hadmits).mp hj), hadmits.of_mem_predictions hg hj⟩
    exact (hall i hi).1

theorem closure_closure (hg : g.WellFormed) (hitems : ∀ i ∈ items, g.Admits i) :
    g.closure (g.closure items) = g.closure items := by
  change saturate g.predictor.closurePass _ (Distinct.ofList (g.closure items)) = g.closure items
  rw [Distinct.ofList_of_nodup (nodup_closure hg hitems)]
  exact saturate_of_fixed (closurePass_closure hg hitems) _

theorem mem_closure_append (hg : g.WellFormed) (hitems : ∀ i ∈ items, g.Admits i) (hmore : ∀ i ∈ more, g.Admits i) :
    i ∈ g.closure (items ++ more) ↔ i ∈ g.closure items ∨ i ∈ g.closure more := by
  have hboth : ∀ i ∈ items ++ more, g.Admits i := List.forall_mem_append.mpr ⟨hitems, hmore⟩
  constructor
  · revert i
    apply closure_induction
    · intro i hi
      rcases List.mem_append.mp hi with hi | hi
      · exact Or.inl (mem_closure_of_mem hi)
      · exact Or.inr (mem_closure_of_mem hi)
    · rintro i (hi | hi) j hj
      · exact Or.inl (mem_closure_of_mem_predictions hg hitems hi hj)
      · exact Or.inr (mem_closure_of_mem_predictions hg hmore hi hj)
  · rintro (hi | hi)
    · exact mem_closure_of_subset hg hboth (fun j hj => mem_closure_of_mem (List.mem_append_left _ hj)) i hi
    · exact mem_closure_of_subset hg hboth (fun j hj => mem_closure_of_mem (List.mem_append_right _ hj)) i hi

/-- The items may have their dots anywhere, also past the end, any terminals as lookaheads, and repeats. -/
theorem closure_exact {text : String} (hread : read text = .ok g) (hitems : ∀ i ∈ items, g.Admits i) :
    g.ClosureExact items := by
  have hg := wellFormed_of_read hread
  have hsame : ∀ {more : ItemSet}, (∀ i, i ∈ more ↔ i ∈ items) → ∀ i ∈ more, g.Admits i :=
    fun hmore i hi => hitems i ((hmore i).mp hi)
  exact {
    nodup := nodup_closure hg hitems
    front := Distinct.ofList_eq_eraseDups items ▸ prefix_closure g items
    least := isLeast_closure hg hitems
    again := closure_closure hg hitems
    joined := fun more hmore i => mem_closure_append hg hitems hmore
    rearranged := by
      intro more hmore i
      exact ⟨mem_closure_of_subset hg hitems (fun j hj => mem_closure_of_mem ((hmore j).mp hj)) i,
        mem_closure_of_subset hg (hsame hmore) (fun j hj => mem_closure_of_mem ((hmore j).mpr hj)) i⟩
    goto_rearranged := by
      intro more hmore X i
      exact ⟨mem_goto_of_subset hg hitems (fun j => (hmore j).mp) i,
        mem_goto_of_subset hg (hsame hmore) (fun j => (hmore j).mpr) i⟩ }

/-- The start item twice, and an item with its dot past the end and a lookahead that is in no rule. -/
def hiddenItems : ItemSet :=
  [hidden.startItem, ⟨⟨3, .nonterminal "S", [.terminal "d"]⟩, 5, .terminal "z"⟩, hidden.startItem]

theorem closure_exact_hidden :
    read "S -> A B S c\nS -> C\nS -> d\nA -> B\nB -> A\nB ->" = .ok hidden ∧
      (∀ i ∈ hiddenItems, hidden.Admits i) ∧ hidden.ClosureExact hiddenItems := by
  have hadmits : ∀ i ∈ hiddenItems, i.production ∈ hidden.productions ∧ i.lookahead.isTerminal = true := by decide
  exact ⟨read_hidden, hadmits, closure_exact read_hidden hadmits⟩

end Grammar

end CanonicalLR
