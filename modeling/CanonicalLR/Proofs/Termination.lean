import CanonicalLR.Proofs.Climbing
import CanonicalLR.Proofs.Safety
import Mathlib.Data.Set.Finite.Lemmas
import Mathlib.Data.Set.Finite.List
import Mathlib.Order.Interval.Finset.Nat
import Mathlib.Order.Preorder.Finite
import Mathlib.Order.WellFounded

/-! # Which runs end

A run that the reduce guard does not end makes different stacks after its last shift. There are finitely
many stacks of a given height, so the stack grows beyond every height, and again and again it is lower than
it will ever be later. Two such moments in one state make a climb. So a run without a limit ends unless
its moves come to a climb.
-/
namespace CanonicalLR

def Action.target? : Action → Option Int
  | .shift target => some target
  | _ => none

/-- The states that the entries of a table lead to. -/
def Table.targets (t : Table) : List Int :=
  t.actions.toList.filterMap (fun e => e.2.target?) ++ t.gotos.toList.map Prod.snd

namespace Configuration

variable {g : Grammar} {t : Table} {c d : Configuration} {n : Nat}

/-- The marks that can come on the stack over an input. -/
def markRange (g : Grammar) (t : Table) (input : List Symbol) : List Mark :=
  (input ++ g.productions.map Production.lhs) ×ˢ t.targets

theorem mem_markRange_of_next? (hnext : c.next? g t = some d) {input : List Symbol} (hinput : c.input <:+ input)
    (hmarks : ∀ mark ∈ c.marks, mark ∈ markRange g t input) :
    ∀ mark ∈ d.marks, mark ∈ markRange g t input := by
  intro mark hmark
  cases next_of_next? hnext with
  | @shift x rest target input_eq action =>
    rw [marks_shift] at hmark
    rcases List.mem_cons.mp hmark with rfl | hmark
    · have hx : x ∈ input := hinput.subset (by rw [input_eq]; exact List.mem_cons_self)
      have htarget : target ∈ t.targets :=
        List.mem_append_left _ (List.mem_filterMap.mpr ⟨_, Entries.mem_of_get? action, rfl⟩)
      exact List.mem_product.mpr ⟨List.mem_append_left _ hx, htarget⟩
    · exact hmarks mark hmark
  | @reduce x rest id p target input_eq action production le_length goto =>
    rw [marks_reduce] at hmark
    rcases List.mem_cons.mp hmark with rfl | hmark
    · have hp := (Grammar.production?_eq_some_iff.mp production).1
      have htarget : target ∈ t.targets :=
        List.mem_append_right _ (List.mem_map.mpr ⟨_, Entries.mem_of_get? goto, rfl⟩)
      exact List.mem_product.mpr ⟨List.mem_append_right _ (List.mem_map_of_mem hp), htarget⟩
    · exact hmarks mark (List.mem_of_mem_drop hmark)

theorem mem_markRange (tokens : List String) (hc : (initial tokens).after? g t n = some c) :
    ∀ mark ∈ c.marks, mark ∈ markRange g t (initial tokens).input := by
  induction n generalizing c with
  | zero =>
    cases hc
    simp [marks, initial]
  | succ n ih =>
    rw [after?_succ] at hc
    obtain ⟨d, hd, hnext⟩ := Option.bind_eq_some_iff.mp hc
    exact mem_markRange_of_next? hnext (input_suffix (Nat.zero_le n) rfl hd) (ih hd)

theorem topState_mem_targets (tokens : List String) (hc : (initial tokens).after? g t n = some c) :
    topState c.frames ∈ 0 :: t.targets := by
  rw [topState_eq_topOf]
  cases hmarks : c.marks with
  | nil => exact List.mem_cons_self
  | cons mark marks =>
    have hmark := mem_markRange tokens hc mark (by rw [hmarks]; exact List.mem_cons_self)
    exact List.mem_cons_of_mem 0 (List.mem_product.mp hmark).2

end Configuration

theorem finite_lists {α : Type} (range : List α) (bound : Nat) :
    {l : List α | (∀ x ∈ l, x ∈ range) ∧ l.length ≤ bound}.Finite := by
  have : Finite {x // x ∈ range} := (List.finite_toSet range).to_subtype
  have hfinite := List.finite_length_le {x // x ∈ range} bound
  refine (hfinite.image (List.map Subtype.val)).subset ?_
  rintro l ⟨hl, hlength⟩
  refine ⟨l.pmap Subtype.mk hl, ?_, ?_⟩
  · simpa using hlength
  · simp [List.map_pmap]

/-- The configurations of a run that the reduce guard lets go on for ever. -/
structure Endless (g : Grammar) (t : Table) (tokens : List String) (run : Nat → Configuration) : Prop where
  after_eq : ∀ n, (Configuration.initial tokens).after? g t n = some (run n)
  view_ne : ∀ j k l, j < k → k < l → (run j).input = (run l).input → (run k).view ≠ (run l).view

theorem Machine.endless_of_underway {m : Machine} {tokens : List String}
    (h : ∀ n, (m.advance n (.start tokens)).ending = none) :
    Endless m.grammar m.table tokens fun n => (m.advance n (.start tokens)).configuration where
  after_eq n := (tracks_advance (h n)).after_eq
  view_ne j k l hjk hkl hinput :=
    view_ne_of_underway (h l) hjk hkl (tracks_advance (h j)).after_eq (tracks_advance (h k)).after_eq
      (tracks_advance (h l)).after_eq hinput

namespace Endless

open CanonicalLR.Configuration

variable {g : Grammar} {t : Table} {tokens : List String} {run : Nat → Configuration} {n N : Nat}

theorem after_add (h : Endless g t tokens run) (n j : Nat) : (run n).after? g t j = some (run (n + j)) := by
  have hlater := h.after_eq (n + j)
  rwa [after?_add, h.after_eq n, Option.bind_some] at hlater

theorem next?_eq (h : Endless g t tokens run) (n : Nat) : (run n).next? g t = some (run (n + 1)) := by
  have hnext := h.after_eq (n + 1)
  rwa [after?_succ, h.after_eq n, Option.bind_some] at hnext

/-- There is a last shift. -/
theorem exists_settled (h : Endless g t tokens run) : ∃ N, ∀ n ≥ N, (run n).input = (run N).input := by
  let shortest := Function.argmin fun n => (run n).input.length
  refine ⟨shortest, ?_⟩
  intro n hn
  apply (input_suffix hn (h.after_eq shortest) (h.after_eq n)).eq_of_length_le
  exact Function.argmin_le (fun n => (run n).input.length) n

/-- Only finitely often the stack is not higher than some bound. -/
theorem finite_heights (h : Endless g t tokens run) (hN : ∀ n ≥ N, (run n).input = (run N).input) (bound : Nat) :
    {n | (run n).frames.length ≤ bound}.Finite := by
  have hlater : {n | N < n ∧ (run n).frames.length ≤ bound}.Finite := by
    apply Set.Finite.of_finite_image (f := fun n => (run n).marks)
    · apply (finite_lists (markRange g t (initial tokens).input) bound).subset
      rintro _ ⟨n, ⟨-, hn⟩, rfl⟩
      exact ⟨mem_markRange tokens (h.after_eq n), by rw [length_marks]; exact hn⟩
    · -- After the last shift the stacks are all different.
      have hne : ∀ {k l}, N < k → k < l → (run k).marks ≠ (run l).marks := by
        intro k l hk hkl hmarks
        have hinput := hN l (by omega)
        apply h.view_ne N k l hk hkl hinput.symm
        exact Prod.ext hmarks ((hN k (by omega)).trans hinput.symm)
      rintro k ⟨hk, -⟩ l ⟨hl, -⟩ hmarks
      rcases Nat.lt_trichotomy k l with hkl | rfl | hlk
      · exact absurd hmarks (hne hk hkl)
      · rfl
      · exact absurd hmarks.symm (hne hl hlk)
  refine ((Set.finite_Iic N).union hlater).subset ?_
  intro n hn
  rcases Nat.lt_or_ge N n with hlt | hle
  · exact Or.inr ⟨hlt, hn⟩
  · exact Or.inl hle

/-- The stack is lower than it will ever be later. -/
def Lowest (run : Nat → Configuration) (n : Nat) : Prop :=
  ∀ m, n < m → (run n).frames.length < (run m).frames.length

theorem exists_lowest (h : Endless g t tokens run) (hN : ∀ n ≥ N, (run n).input = (run N).input) (m : Nat) :
    ∃ n ≥ m, Lowest run n := by
  obtain ⟨n, hn, hlast⟩ := Set.exists_max_image {n | (run n).frames.length ≤ (run m).frames.length} id
    (h.finite_heights hN _) ⟨m, Nat.le_refl _⟩
  refine ⟨n, hlast m (Nat.le_refl _), ?_⟩
  intro k hk
  have hn : (run n).frames.length ≤ (run m).frames.length := hn
  by_contra hlow
  have hle : k ≤ n := hlast k (show (run k).frames.length ≤ (run m).frames.length by omega)
  omega

theorem exists_above (h : Endless g t tokens run) (hN : ∀ n ≥ N, (run n).input = (run N).input) (hn : N ≤ n)
    (hlowest : Lowest run n) (j : Nat) : ∃ us, Above g t (run n) j us (run (n + j)) := by
  have hinput : ∀ j, (run (n + j)).input = (run n).input := fun j =>
    (hN (n + j) (by omega)).trans (hN n hn).symm
  induction j with
  | zero => exact ⟨[], Above.zero _⟩
  | succ j ih =>
    obtain ⟨us, hus⟩ := ih
    have hhigher := hlowest (n + (j + 1)) (by omega)
    have hsame := (hinput (j + 1)).trans (hinput j).symm
    obtain ⟨x, rest, id, p, target, -, -, -, hle, -, hreduce⟩ :=
      exists_reduce_of_input_eq (h.next?_eq (n + j)) hsame
    have hmarks : (run (n + (j + 1))).marks = (p.lhs, target) :: (us ++ (run n).marks).drop p.rhs.length := by
      rw [show run (n + (j + 1)) = _ from hreduce, marks_reduce, hus.marks_eq]
    have hsuffix : ∃ vs, (run (n + (j + 1))).marks = vs ++ (run n).marks := by
      rw [← length_marks, ← length_marks, hmarks, List.length_cons, List.length_drop,
        List.length_append] at hhigher
      rw [← length_marks, hus.marks_eq, List.length_append] at hle
      rw [hmarks, List.drop_append_of_le_length (by omega)]
      exact ⟨(p.lhs, target) :: us.drop p.rhs.length, rfl⟩
    obtain ⟨vs, hvs⟩ := hsuffix
    refine ⟨vs, h.after_add n (j + 1), hinput (j + 1), hvs, ?_⟩
    rintro rfl
    rw [← length_marks, ← length_marks, hvs] at hhigher
    exact absurd hhigher (Nat.lt_irrefl _)

theorem exists_climbs (h : Endless g t tokens run) : ∃ n k, (run n).Climbs g t k := by
  obtain ⟨N, hN⟩ := h.exists_settled
  have hinfinite : {n | N ≤ n ∧ Lowest run n}.Infinite := by
    apply Set.infinite_of_forall_exists_gt
    intro m
    obtain ⟨n, hn, hlowest⟩ := h.exists_lowest hN (max N (m + 1))
    exact ⟨n, ⟨by omega, hlowest⟩, by omega⟩
  obtain ⟨k, hk, l, hl, hne, htop⟩ := hinfinite.exists_ne_map_eq_of_mapsTo (f := fun n => topState (run n).frames)
    (t := {q | q ∈ 0 :: t.targets}) (fun n _ => topState_mem_targets tokens (h.after_eq n)) (List.finite_toSet _)
  have hclimbs : ∀ {k l}, N ≤ k → Lowest run k → k < l → topState (run k).frames = topState (run l).frames →
      (run k).Climbs g t (l - k) := by
    intro k l hk hlowest hkl htop
    refine ⟨by omega, fun j _ => ?_, ?_⟩
    · obtain ⟨us, hus⟩ := h.exists_above hN hk hlowest j
      exact ⟨us, _, hus⟩
    · intro d hd
      rw [h.after_add, show k + (l - k) = l by omega] at hd
      cases hd
      exact htop.symm
  rcases Nat.lt_or_gt_of_ne hne with hkl | hlk
  · exact ⟨k, l - k, hclimbs hk.1 hk.2 hkl htop⟩
  · exact ⟨l, k - l, hclimbs hl.1 hl.2 hlk htop.symm⟩

end Endless

namespace Recognizer

/-- On the grammar's own tables a run without a limit comes to a verdict exactly if its moves never come to
a climb. -/
theorem verdict_iff_never_climbs {text : String} {g : Grammar} (hread : Grammar.read text = .ok g)
    (tokens : List String) :
    (∃ n, (∃ tree, ((ofGrammar g none).machine.advance n (.start tokens)).ending = some (.accepted tree)) ∨
      ∃ reason position,
        ((ofGrammar g none).machine.advance n (.start tokens)).ending = some (.rejected reason position)) ↔
    ¬ ∃ n c k, (Configuration.initial tokens).after? g (g.automaton.table g) n = some c ∧
      c.Climbs g (g.automaton.table g) k := by
  have hg := Grammar.wellFormed_of_read hread
  constructor
  · rintro ⟨n, hverdict⟩ ⟨i, c, k, hc, hclimbs⟩
    have hunderway := Machine.underway_of_climbs (m := (ofGrammar g none).machine) rfl hc hclimbs n
    rw [hunderway] at hverdict
    rcases hverdict with ⟨tree, htree⟩ | ⟨reason, position, hreason⟩
    · cases htree
    · cases hreason
  · intro hnever
    by_contra hverdict
    have hunderway : ∀ n, ((ofGrammar g none).machine.advance n (.start tokens)).ending = none := by
      intro n
      have hstanding := (Machine.standing_advance hg none tokens n).2
      cases hending : ((ofGrammar g none).machine.advance n (.start tokens)).ending with
      | none => rfl
      | some ending =>
        apply absurd _ hverdict
        rw [hending] at hstanding
        cases ending with
        | accepted tree => exact ⟨n, Or.inl ⟨tree, hending⟩⟩
        | rejected reason position => exact ⟨n, Or.inr ⟨reason, position, hending⟩⟩
        | failed fault => cases hstanding
    have hendless := Machine.endless_of_underway hunderway
    obtain ⟨n, k, hclimbs⟩ := hendless.exists_climbs
    exact hnever ⟨n, _, k, hendless.after_eq n, hclimbs⟩

theorem never_climbs_nested :
    Grammar.read "S -> a S b\nS ->" = .ok .nested ∧
      ¬ ∃ n c k,
        (Configuration.initial ["a", "b"]).after? .nested (Grammar.nested.automaton.table .nested) n = some c ∧
        c.Climbs .nested (Grammar.nested.automaton.table .nested) k :=
  ⟨Grammar.read_nested, (verdict_iff_never_climbs Grammar.read_nested ["a", "b"]).mp ⟨5, Or.inl ⟨_, rfl⟩⟩⟩

/-- Of the rules that reduce on the end marker the empty rule for `A` stays, and leads back to its state. -/
def growing : Grammar where
  start := .nonterminal "S"
  rules := [⟨.nonterminal "S", [.nonterminal "A", .nonterminal "S"]⟩, ⟨.nonterminal "S", []⟩,
    ⟨.nonterminal "A", []⟩]

/-- The stack grows by `A` for ever, so that no stack is made twice. -/
theorem growing_never_ends :
    Grammar.read "S -> A S\nS ->\nA ->" = .ok growing ∧
      ∀ n, ((ofGrammar growing none).machine.advance n (.start [])).ending = none := by
  refine ⟨rfl, ?_⟩
  have hfirst : (Configuration.initial []).after? growing (growing.automaton.table growing) 1 =
      some ⟨[⟨.nonterminal "A", 2, .branch "A" []⟩], 0, [.endMarker]⟩ := rfl
  apply Machine.underway_of_climbs (m := (ofGrammar growing none).machine) rfl hfirst
  have haction : (growing.automaton.table growing).action? 2 .endMarker = some (.reduce 3) := by decide +kernel
  have hgoto : (growing.automaton.table growing).goto? 2 (.nonterminal "A") = some 2 := by decide +kernel
  exact Configuration.climbs_of_empty_rhs (p := ⟨3, .nonterminal "A", []⟩) rfl haction rfl rfl hgoto

end Recognizer

end CanonicalLR
