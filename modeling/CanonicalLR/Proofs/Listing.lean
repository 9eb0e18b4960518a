import CanonicalLR.Proofs.Cells
import CanonicalLR.Proofs.Stack
import CanonicalLR.Table.Listing

/-! # Listings of the grammar's own tables

A cell can be listed if its state has a row, and the rows are those of the states of the table. In the table of
a canonical automaton every filled cell belongs to one of its states, so that the table can be listed.
-/
namespace CanonicalLR

namespace Rows

variable {α : Type}

theorem mem_keys_blank {states : List Int} {q : Int} (hq : q ∈ states) : q ∈ (blank states : Rows α).keys := by
  rw [Entries.mem_keys, blank, Entries.get?_ofList, Option.isSome_map, List.find?_isSome]
  exact ⟨(q, .empty), List.mem_reverse.mpr (List.mem_map.mpr ⟨q, hq, rfl⟩), decide_eq_true rfl⟩

/-- Filling a cell keeps the rows, so one row for each cell is enough. -/
theorem exists_fill (rows : Rows α) {cells : List (Cell × α)} (h : ∀ c ∈ cells, c.1.1 ∈ rows.keys) :
    ∃ filled, rows.fill cells = .ok filled := by
  induction cells generalizing rows with
  | nil => exact ⟨rows, rfl⟩
  | cons c cells ih =>
    obtain ⟨⟨q, X⟩, value⟩ := c
    obtain ⟨row, hrow⟩ := Option.isSome_iff_exists.mp (Entries.mem_keys.mp (h ((q, X), value) List.mem_cons_self))
    have hkept : ∀ c ∈ cells, c.1.1 ∈ (rows.put q (row.put X.name value)).keys := by
      intro c hc
      rw [Entries.keys_put]
      exact Distinct.mem_insert.mpr (.inl (h c (List.mem_cons_of_mem _ hc)))
    obtain ⟨filled, hfilled⟩ := ih _ hkept
    refine ⟨filled, ?_⟩
    rw [fill, hrow]
    exact hfilled

end Rows

theorem Table.exists_listing {t : Table} (hactions : ∀ cell ∈ t.actions.keys, cell.1 ∈ t.states)
    (hgotos : ∀ cell ∈ t.gotos.keys, cell.1 ∈ t.states) : ∃ l, t.listing = .ok l := by
  have hactionRows : ∀ c ∈ t.actions.toList.map (Prod.map id Action.code),
      c.1.1 ∈ (Rows.blank t.states : Rows String).keys := by
    intro c hc
    obtain ⟨entry, hentry, rfl⟩ := List.mem_map.mp hc
    exact Rows.mem_keys_blank (hactions entry.1 (List.mem_map_of_mem hentry))
  have hgotoRows : ∀ c ∈ t.gotos.toList, c.1.1 ∈ (Rows.blank t.states : Rows Int).keys := by
    intro c hc
    exact Rows.mem_keys_blank (hgotos c.1 (List.mem_map_of_mem hc))
  obtain ⟨actions, hfilledActions⟩ := Rows.exists_fill _ hactionRows
  obtain ⟨gotos, hfilledGotos⟩ := Rows.exists_fill _ hgotoRows
  exact ⟨_, Grammar.bind_eq_ok.mpr ⟨actions, hfilledActions, Grammar.bind_eq_ok.mpr ⟨gotos, hfilledGotos, rfl⟩⟩⟩

namespace Grammar.IsCanonical

variable {g : Grammar} {a : Automaton} {q : Int} {X : Symbol}

theorem source_mem (ha : g.IsCanonical a) {n : Int} (htarget : a.target? q X = some n) : q ∈ a.states.map State.id := by
  obtain ⟨s, hs, -, -, hid, -⟩ := ha.edge_goto _ (Automaton.mem_edges_of_target? htarget)
  exact List.mem_map.mpr ⟨s, hs, hid⟩

theorem mem_states_of_action? (ha : g.IsCanonical a) {act : Action} (h : (a.table g).action? q X = some act) :
    q ∈ (a.table g).states := by
  cases Automaton.candidate_of_action? h with
  | shift terminal target => exact ha.source_mem target
  | complete state_mem id_eq item_mem complete lookahead_eq => exact List.mem_map.mpr ⟨_, state_mem, id_eq⟩

theorem mem_states_of_goto? (ha : g.IsCanonical a) {n : Int} (h : (a.table g).goto? q X = some n) :
    q ∈ (a.table g).states := by
  rw [Automaton.goto?_table] at h
  split at h
  · exact ha.source_mem h
  · cases h

theorem exists_listing (ha : g.IsCanonical a) : ∃ l, (a.table g).listing = .ok l := by
  apply Table.exists_listing
  · intro cell hcell
    obtain ⟨act, hact⟩ := Option.isSome_iff_exists.mp (Entries.mem_keys.mp hcell)
    exact ha.mem_states_of_action? hact
  · intro cell hcell
    obtain ⟨n, hn⟩ := Option.isSome_iff_exists.mp (Entries.mem_keys.mp hcell)
    exact ha.mem_states_of_goto? hn

end Grammar.IsCanonical

end CanonicalLR
