import CanonicalLR.Machine.Move
import CanonicalLR.Proofs.Tables

/-! # Stacks that are paths of the automaton

On a path from the first state every item of the top state can be walked back: the symbols before its
dot are those of the top frames, and the state below them holds the item with its dot at the front.
There it was predicted by an item that waits for its left side, unless its production is 0.
-/
namespace CanonicalLR

theorem Automaton.mem_edges_of_target? {a : Automaton} {q n : Int} {X : Symbol}
    (h : a.target? q X = some n) : ⟨q, n, X⟩ ∈ a.edges := by
  obtain ⟨e, he, rfl⟩ := Option.map_eq_some_iff.mp h
  have hmem := List.mem_reverse.mp (List.mem_of_find?_eq_some he)
  have hcell := List.find?_some he
  simp only [Bool.and_eq_true, decide_eq_true_eq] at hcell
  obtain ⟨rfl, rfl⟩ := hcell
  exact hmem

namespace Grammar

variable {g : Grammar} {a : Automaton} {s t : State} {X : Symbol} {i j : Item} {n q : Int}

namespace IsCanonical

theorem eq_of_id_eq (h : g.IsCanonical a) (hs : s ∈ a.states) (ht : t ∈ a.states) (hid : s.id = t.id) : s = t :=
  List.inj_on_of_nodup_map h.ids_distinct hs ht hid

theorem target?_of_mem_edges (h : g.IsCanonical a) {e : Edge} (he : e ∈ a.edges) :
    a.target? e.source e.symbol = some e.target := by
  cases htarget : a.target? e.source e.symbol with
  | none =>
    have hnone := List.find?_eq_none.mp (Option.map_eq_none_iff.mp htarget) e (List.mem_reverse.mpr he)
    simp at hnone
  | some n => rw [h.edge_eq e he _ (Automaton.mem_edges_of_target? htarget) rfl rfl]

theorem exists_target (h : g.IsCanonical a) (hs : s ∈ a.states) (hX : X ∈ s.items.nextSymbols) :
    ∃ t ∈ a.states, a.target? s.id X = some t.id := by
  obtain ⟨e, he, hsource, rfl⟩ := h.edge_exists s hs X hX
  obtain ⟨-, -, t, ht, -, hid, -⟩ := h.edge_goto e he
  exact ⟨t, ht, by rw [← hsource, hid, h.target?_of_mem_edges he]⟩

theorem goto_of_target (h : g.IsCanonical a) (hs : s ∈ a.states) (htarget : a.target? s.id X = some n) :
    X ∈ s.items.nextSymbols ∧ ∃ t ∈ a.states, t.id = n ∧ ∀ i, i ∈ t.items ↔ i ∈ g.goto s.items X := by
  obtain ⟨s', hs', t, ht, hsource, hid, hX, hitems⟩ := h.edge_goto _ (Automaton.mem_edges_of_target? htarget)
  cases h.eq_of_id_eq hs hs' hsource.symm
  exact ⟨hX, t, ht, hid, hitems⟩

theorem mem_goto (h : g.IsCanonical a) (hs : s ∈ a.states) (ht : t ∈ a.states)
    (htarget : a.target? s.id X = some t.id) : i ∈ t.items ↔ i ∈ g.goto s.items X := by
  obtain ⟨-, t', ht', hid, hitems⟩ := h.goto_of_target hs htarget
  cases h.eq_of_id_eq ht ht' hid.symm
  exact hitems i

theorem advance_mem (h : g.IsCanonical a) (hs : s ∈ a.states) (ht : t ∈ a.states)
    (htarget : a.target? s.id X = some t.id) (hi : i ∈ s.items) (hnext : i.next? = some X) :
    i.advance ∈ t.items :=
  (h.mem_goto hs ht htarget).mpr
    (mem_closure_of_mem (ItemSet.mem_advanceOver.mpr ⟨i, hi, hnext, rfl⟩))

/-- An item of a target comes from an item of the source, or is predicted in the target. -/
theorem mem_target_cases (h : g.IsCanonical a) (hs : s ∈ a.states) (ht : t ∈ a.states)
    (htarget : a.target? s.id X = some t.id) (hj : j ∈ t.items) :
    (∃ i ∈ s.items, i.next? = some X ∧ j = i.advance) ∨ ∃ i ∈ t.items, j ∈ g.predictor.predictions i := by
  rcases mem_closure_cases ((h.mem_goto hs ht htarget).mp hj) with hj | ⟨i, hi, hj⟩
  · exact Or.inl (ItemSet.mem_advanceOver.mp hj)
  · exact Or.inr ⟨i, (h.mem_goto hs ht htarget).mpr hi, hj⟩

theorem items_eq_of_id_eq_zero (h : g.IsCanonical a) (hs : s ∈ a.states) (hid : s.id = 0) :
    s.items = g.closure [g.startItem] := by
  rw [h.eq_of_id_eq hs h.start_mem hid]

theorem mem_start_cases (h : g.IsCanonical a) (hs : s ∈ a.states) (hid : s.id = 0) (hj : j ∈ s.items) :
    j = g.startItem ∨ ∃ i ∈ s.items, j ∈ g.predictor.predictions i := by
  rw [h.items_eq_of_id_eq_zero hs hid] at hj ⊢
  exact (mem_closure_cases hj).imp_left List.mem_singleton.mp

theorem mem_rhs_of_target? (h : g.IsCanonical a) (htarget : a.target? q X = some n) :
    ∃ p ∈ g.productions, X ∈ p.rhs := by
  obtain ⟨s, hs, -, -, -, -, hX, -⟩ := h.edge_goto _ (Automaton.mem_edges_of_target? htarget)
  obtain ⟨i, hi, hnext⟩ := ItemSet.mem_nextSymbols.mp hX
  exact ⟨i.production, ((h.regular s hs).hasItem i hi).production_mem, Item.mem_rhs_of_next? hnext⟩

theorem isWritten_of_target? (hg : g.WellFormed) (h : g.IsCanonical a) (htarget : a.target? q X = some n) :
    X.IsWritten := by
  obtain ⟨p, hp, hX⟩ := h.mem_rhs_of_target? htarget
  exact rhs_written hg hp X hX

theorem target?_endMarker (hg : g.WellFormed) (h : g.IsCanonical a) (q : Int) :
    a.target? q .endMarker = none := by
  cases htarget : a.target? q .endMarker with
  | none => rfl
  | some n => exact absurd rfl (h.isWritten_of_target? hg htarget).ne_endMarker

end IsCanonical

end Grammar

namespace Automaton

/-- The frames spell a path from state 0 to the state `s`. -/
inductive Path (a : Automaton) : List Frame → State → Prop
  | nil {s : State} (mem : s ∈ a.states) (id_eq : s.id = 0) : Path a [] s
  | cons {frames : List Frame} {f : Frame} {s t : State} (below : Path a frames s) (mem : t ∈ a.states)
      (id_eq : f.state = t.id) (target : a.target? s.id f.symbol = some t.id) : Path a (f :: frames) t

namespace Path

variable {g : Grammar} {a : Automaton} {frames : List Frame} {s t : State} {i : Item}

theorem mem (h : a.Path frames s) : s ∈ a.states := by
  cases h with
  | nil mem id_eq => exact mem
  | cons below mem id_eq target => exact mem

theorem topState_eq (h : a.Path frames s) : topState frames = s.id := by
  cases h with
  | nil mem id_eq => exact id_eq.symm
  | cons below mem id_eq target => exact id_eq

/-- The symbols before the dot are on top of the stack, and below them the item has its dot in front. -/
theorem walkBack (ha : g.IsCanonical a) (h : a.Path frames s) (hi : i ∈ s.items) :
    i.dot ≤ frames.length ∧
      (frames.take i.dot).reverse.map Frame.symbol = i.production.rhs.take i.dot ∧
        ∃ s', a.Path (frames.drop i.dot) s' ∧ { i with dot := 0 } ∈ s'.items := by
  induction h generalizing i with
  | @nil s mem id_eq =>
    have hdot : i.dot = 0 := by
      rcases ha.mem_start_cases mem id_eq hi with rfl | ⟨k, -, hi⟩
      · rfl
      · obtain ⟨-, -, -, -, -, hdot, -⟩ := Grammar.mem_predictions.mp hi
        exact hdot
    obtain ⟨p, dot, x⟩ := i
    cases hdot
    exact ⟨Nat.le_refl 0, rfl, s, .nil mem id_eq, hi⟩
  | @cons frames f s t below mem id_eq target ih =>
    rcases ha.mem_target_cases below.mem mem target hi with ⟨k, hk, hnext, rfl⟩ | ⟨k, -, hpredicted⟩
    · obtain ⟨hle, hspelt, s', hpath, hs'⟩ := ih hk
      refine ⟨Nat.succ_le_succ hle, ?_, s', hpath, hs'⟩
      have htake : k.production.rhs.take (k.dot + 1) = k.production.rhs.take k.dot ++ [f.symbol] := by
        rw [List.take_add_one, show k.production.rhs[k.dot]? = some f.symbol from hnext]
        rfl
      simp only [Item.advance, List.take_succ_cons, List.reverse_cons, List.map_append, List.map_cons,
        List.map_nil, hspelt, htake]
    · obtain ⟨-, -, -, -, -, hdot, -⟩ := Grammar.mem_predictions.mp hpredicted
      obtain ⟨p, dot, x⟩ := i
      cases hdot
      exact ⟨Nat.zero_le _, rfl, t, .cons below mem id_eq target, hi⟩

/-- An item with its dot in front is the start item of an empty stack, or something waits for it. -/
theorem front_cases (ha : g.IsCanonical a) (h : a.Path frames s) (hi : i ∈ s.items) (hdot : i.dot = 0) :
    frames = [] ∧ i = g.startItem ∨ ∃ k ∈ s.items, i ∈ g.predictor.predictions k := by
  cases h with
  | nil mem id_eq => exact (ha.mem_start_cases mem id_eq hi).imp_left fun hi => ⟨rfl, hi⟩
  | cons below mem id_eq target =>
    rcases ha.mem_target_cases below.mem mem target hi with ⟨k, -, -, rfl⟩ | hpredicted
    · cases hdot
    · exact Or.inr hpredicted

theorem id_ne_zero_of_mem_predictions (hg : g.WellFormed) {k : Item} (hk : g.HasItem k)
    (hi : i ∈ g.predictor.predictions k) : i.production.id ≠ 0 := by
  intro hid
  obtain ⟨X, hnext, -, hp, hlhs, -⟩ := Grammar.mem_predictions.mp hi
  rw [Grammar.eq_augmentedProduction_of_id_eq_zero hp hid] at hlhs
  apply Grammar.augmentedStart_not_mem_rhs hg hk.production_mem
  rw [show g.augmentedStart = X from hlhs]
  exact Item.mem_rhs_of_next? hnext

/-- Items of production 0 are on stacks as high as their dot, and wait for the end marker. -/
theorem augmented_item (hg : g.WellFormed) (ha : g.IsCanonical a) (h : a.Path frames s) (hi : i ∈ s.items)
    (hid : i.production.id = 0) : frames.length = i.dot ∧ i.lookahead = .endMarker := by
  obtain ⟨hle, -, s', hpath, hs'⟩ := h.walkBack ha hi
  rcases hpath.front_cases ha hs' rfl with ⟨hempty, hstart⟩ | ⟨k, hk, hpredicted⟩
  · exact ⟨Nat.le_antisymm (List.drop_eq_nil_iff.mp hempty) hle, congrArg Item.lookahead hstart⟩
  · have hne := id_ne_zero_of_mem_predictions hg ((ha.regular s' hpath.mem).hasItem k hk) hpredicted
    exact absurd hid hne

/-- Below the right side of any other item there is a state with an edge over the left side. -/
theorem exists_goto (ha : g.IsCanonical a) (h : a.Path frames s) (hi : i ∈ s.items)
    (hid : i.production.id ≠ 0) :
    ∃ s', a.Path (frames.drop i.dot) s' ∧ ∃ t ∈ a.states, a.target? s'.id i.production.lhs = some t.id := by
  obtain ⟨-, -, s', hpath, hs'⟩ := h.walkBack ha hi
  refine ⟨s', hpath, ?_⟩
  rcases hpath.front_cases ha hs' rfl with ⟨-, hstart⟩ | ⟨k, hk, hpredicted⟩
  · exact absurd (congrArg (fun i => i.production.id) hstart) hid
  · obtain ⟨X, hnext, -, -, hlhs, -, -⟩ := Grammar.mem_predictions.mp hpredicted
    apply ha.exists_target hpath.mem
    rw [hlhs]
    exact ItemSet.mem_nextSymbols.mpr ⟨k, hk, hnext⟩

end Path

end Automaton

end CanonicalLR
