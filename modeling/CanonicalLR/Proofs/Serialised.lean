import CanonicalLR.Proofs.Acceptance
import CanonicalLR.Proofs.Sections
import CanonicalLR.Proofs.Unreached

/-! # Nothing of a grammar's own table is lost in JSON

The entries of the table belong to its states, the ACTION entries to terminals and the GOTO entries to nonterminals
other than the fresh start symbol, so that its listing can be made and read back. Every edge has one entry: a shift is
never overwritten.
-/
namespace CanonicalLR

namespace Grammar.IsCanonical

variable {g : Grammar} {a : Automaton} {q : Int} {X : Symbol}

theorem mem_terminals_of_action? (hg : g.WellFormed) (ha : g.IsCanonical a) {act : Action}
    (h : (a.table g).action? q X = some act) : X ∈ g.terminals := by
  cases Automaton.candidate_of_action? h with
  | shift terminal target =>
    obtain ⟨p, hp, hX⟩ := ha.mem_rhs_of_target? target
    exact mem_terminals_of_mem_rhs hg hp hX terminal
  | complete state_mem id_eq item_mem complete lookahead_eq =>
    exact lookahead_eq ▸ ((ha.regular _ state_mem).hasItem _ item_mem).lookahead_mem

theorem mem_writtenNonterminals_of_goto? (hg : g.WellFormed) (ha : g.IsCanonical a) {n : Int}
    (h : (a.table g).goto? q X = some n) : X ∈ g.writtenNonterminals := by
  rw [Automaton.goto?_table] at h
  split at h
  · next hX =>
    obtain ⟨p, hp, hmem⟩ := ha.mem_rhs_of_target? h
    exact mem_writtenNonterminals_of_mem_rhs hg hp hmem hX
  · cases h

theorem keys_actions (hg : g.WellFormed) (ha : g.IsCanonical a) :
    ∀ cell ∈ (a.table g).actions.keys, cell.1 ∈ (a.table g).states ∧ cell.2 ∈ (a.table g).terminals := by
  intro cell hcell
  obtain ⟨act, hact⟩ := Option.isSome_iff_exists.mp (Entries.mem_keys.mp hcell)
  exact ⟨ha.mem_states_of_action? hact, ha.mem_terminals_of_action? hg hact⟩

theorem keys_gotos (hg : g.WellFormed) (ha : g.IsCanonical a) :
    ∀ cell ∈ (a.table g).gotos.keys, cell.1 ∈ (a.table g).states ∧ cell.2 ∈ (a.table g).nonterminals := by
  intro cell hcell
  obtain ⟨n, hn⟩ := Option.isSome_iff_exists.mp (Entries.mem_keys.mp hcell)
  have hmem := ha.mem_writtenNonterminals_of_goto? hg hn
  refine ⟨ha.mem_states_of_goto? hn, List.mem_filter.mpr ⟨List.mem_cons_of_mem _ hmem, decide_eq_true ?_⟩⟩
  intro hstart
  exact not_isWritten_augmentedStart g (hstart ▸ (written_of_mem_writtenNonterminals hg hmem).1)

theorem terminal_name (a : Automaton) (g : Grammar) : ∀ X ∈ (a.table g).terminals, Symbol.terminal X.name = X :=
  fun _ hX => (Symbol.eq_terminal_of_isTerminal (isTerminal_of_mem_terminals hX)).symm

theorem nonterminal_name (hg : g.WellFormed) (a : Automaton) :
    ∀ X ∈ (a.table g).nonterminals, Symbol.nonterminal X.name = X := by
  intro X hX
  have hnonterminal := isNonterminal_of_mem_nonterminals hg (List.mem_filter.mp hX).1
  exact (Symbol.eq_nonterminal_of_isNonterminal hnonterminal).symm

theorem names_actions (hg : g.WellFormed) (ha : g.IsCanonical a) : (a.table g).actions.Names .terminal where
  nodup := a.nodup_keys_actions g
  symbol_eq cell hcell := terminal_name a g _ (ha.keys_actions hg cell hcell).2

theorem names_gotos (hg : g.WellFormed) (ha : g.IsCanonical a) : (a.table g).gotos.Names .nonterminal where
  nodup := a.nodup_keys_gotos g
  symbol_eq cell hcell := nonterminal_name hg a _ (ha.keys_gotos hg cell hcell).2

end Grammar.IsCanonical

namespace Automaton

variable {g : Grammar} {a : Automaton}

theorem toList_gotos (hkeys : (a.edges.map fun e => (e.source, e.symbol)).Nodup) :
    a.gotos.toList = (a.edges.filter (·.symbol.isNonterminal)).map fun e => ((e.source, e.symbol), e.target) := by
  apply Entries.toList_ofList
  rw [List.map_map]
  exact hkeys.sublist (List.filter_sublist.map _)

theorem toList_shifts (hkeys : (a.edges.map fun e => (e.source, e.symbol)).Nodup) :
    a.shifts.toList = (a.edges.filter (·.symbol.isTerminal)).map fun e => ((e.source, e.symbol), .shift e.target) := by
  apply Entries.toList_ofList
  rw [List.map_map]
  exact hkeys.sublist (List.filter_sublist.map _)

/-- No shift of an edge is overwritten, and no other comes up. -/
theorem shifts_perm (ha : a.Orderly) (g : Grammar) :
    ((a.table g).actions.toList.filter (·.2.isShift)).Perm a.shifts.toList := by
  have hshifts : a.shifts.keys.Nodup := Entries.nodup_keys_foldl_put Entries.nodup_keys_empty _
  rw [List.perm_ext_iff_of_nodup ((a.nodup_keys_actions g).of_map.filter _) hshifts.of_map]
  rintro ⟨⟨q, X⟩, act⟩
  rw [List.mem_filter, ← Entries.get?_eq_some_iff (a.nodup_keys_actions g), ← Entries.get?_eq_some_iff hshifts,
    get?_shifts]
  change (a.table g).action? q X = some act ∧ _ ↔ _
  cases act with
  | shift n => simp [ha.action?_eq_shift_iff, Action.isShift]
  | reduce n => simp [Action.isShift]
  | accept => simp [Action.isShift]

theorem length_edges (hg : g.WellFormed) : g.automaton.edges.length =
    (g.automaton.table g).gotos.size + (g.automaton.table g).actions.toList.countP (·.2.isShift) := by
  have ha := Grammar.isCanonical_automaton hg
  have hkeys := (Grammar.explored_exploration hg).keys_distinct
  have hshifts := (shifts_perm (orderly_of_isCanonical hg ha) g).length_eq
  have hgotos : (g.automaton.table g).gotos.size = g.automaton.edges.countP (·.symbol.isNonterminal) := by
    rw [Entries.size, show (g.automaton.table g).gotos = g.automaton.gotos from rfl, toList_gotos hkeys,
      List.length_map, List.countP_eq_length_filter]
  rw [toList_shifts hkeys, List.length_map, ← List.countP_eq_length_filter, ← List.countP_eq_length_filter] at hshifts
  rw [hshifts, hgotos, List.length_eq_countP_add_countP (·.symbol.isNonterminal)]
  congr 1
  apply List.countP_congr
  intro e he
  have hwritten := ha.isWritten_of_target? hg (ha.target?_of_mem_edges he)
  rcases hwritten with ⟨hkind, -⟩ | ⟨hkind, -⟩ <;> simp [Symbol.isNonterminal, Symbol.isTerminal, hkind]

end Automaton

/-- What the description of a grammar tells of its table, in numbers and in the two sections of the JSON form. -/
structure Grammar.ListedAs (g : Grammar) (d : Description) (action goto : Json) : Prop where
  action_eq : d.listing.toJson.get? "action" = some action
  goto_eq : d.listing.toJson.get? "goto" = some goto
  isSection_action : action.IsSection (g.automaton.states.map State.id) g.terminals (.string ∘ Action.code)
    (g.automaton.table g).action?
  isSection_goto : goto.IsSection (g.automaton.states.map State.id) (g.nonterminals.filter (· ≠ g.augmentedStart))
    .integer (g.automaton.table g).goto?
  action_count : action.cells.length = d.actionEntries
  goto_count : goto.cells.length = d.gotoEntries
  edges_count : d.edgesCount = d.gotoEntries + action.cells.countP fun cell => cell.2.isShiftCode
  decoded : ∃ t, Table.ofJson? d.listing.toJson = some t ∧ t.Agrees (g.automaton.table g) ∧
    ∀ limit tokens, (⟨g, t, limit⟩ : Machine).run tokens = (Recognizer.ofGrammar g limit).machine.run tokens ∧
      ∀ n, (⟨g, t, limit⟩ : Machine).advance n (.start tokens) =
        (Recognizer.ofGrammar g limit).machine.advance n (.start tokens)

theorem Json.Lists.countP_isShiftCode {j : Json} {states : List Int} {t : Entries Cell Action}
    (h : j.Lists states (.string ∘ Action.code) t) :
    (j.cells.countP fun cell => cell.2.isShiftCode) = t.toList.countP (·.2.isShift) := by
  rw [h.cells.countP_eq, List.countP_map]
  exact List.countP_congr fun entry _ => by simp [entryJson, Json.isShiftCode_code]

namespace Recognizer

variable {g : Grammar}

/-- The description of a grammar that has been read can be made, and its table in JSON has every entry in a place of
its own, which is all that it has, so that the machine runs alike on the table read back from it. -/
theorem listing_loses_nothing {text : String} (hread : Grammar.read text = .ok g) (limit : Option Int) :
    ∃ d action goto, (ofGrammar g limit).describe = .ok d ∧ (ofGrammar g limit).table.listing = .ok d.listing ∧
      g.ListedAs d action goto := by
  have hg := Grammar.wellFormed_of_read hread
  have ha := Grammar.isCanonical_automaton hg
  have hactions := ha.names_actions hg
  have hgotos := ha.names_gotos hg
  have hterminals := Grammar.IsCanonical.terminal_name g.automaton g
  have hnonterminals := Grammar.IsCanonical.nonterminal_name hg g.automaton
  obtain ⟨l, hlisting⟩ := ha.exists_listing
  obtain ⟨haction, hgoto⟩ := Table.lists_of_listing hlisting ha.ids_distinct hactions hgotos
  obtain ⟨t, ht, hagrees⟩ := Table.exists_ofJson? hlisting ha.ids_distinct hactions hgotos hterminals hnonterminals
  have hmove : ∀ c : Configuration, c.move g t = c.move g (g.automaton.table g) :=
    Configuration.move_congr hagrees.action?_eq hagrees.goto?_eq fun _ _ _ _ => rfl
  refine ⟨_, Rows.toJson .string l.actions, Rows.toJson .integer l.gotos,
    Grammar.bind_eq_ok.mpr ⟨l, hlisting, rfl⟩, hlisting, ?_⟩
  exact {
    action_eq := l.get?_toJson.1
    goto_eq := l.get?_toJson.2.1
    isSection_action := haction.isSection ha.ids_distinct hactions hterminals (ha.keys_actions hg)
    isSection_goto := hgoto.isSection ha.ids_distinct hgotos hnonterminals (ha.keys_gotos hg)
    action_count := haction.length_cells
    goto_count := hgoto.length_cells
    edges_count := by
      rw [haction.countP_isShiftCode]
      exact Automaton.length_edges hg
    decoded := ⟨t, ht, hagrees, fun limit tokens =>
      ⟨Machine.run_congr hmove limit tokens, fun n => Machine.advance_congr hmove limit n (.start tokens)⟩⟩ }

theorem listing_loses_nothing_nested :
    Grammar.read "S -> a S b\nS ->" = .ok .nested ∧
      ∃ d action goto, (ofGrammar .nested none).describe = .ok d ∧ Grammar.nested.ListedAs d action goto ∧
        ((action.get? "2").bind fun row => row.get? "b") = some (.string "r2") := by
  obtain ⟨d, action, goto, hdescribe, -, hlisted⟩ := listing_loses_nothing Grammar.read_nested none
  have hids : Grammar.nested.automaton.states.map State.id = [0, 1, 2, 3, 4, 5, 6, 7] := rfl
  have hentry := hlisted.isSection_action.entry 2 (by rw [hids]; decide) (.terminal "b") (by decide)
  exact ⟨Grammar.read_nested, d, action, goto, hdescribe, hlisted, hentry⟩

end Recognizer

end CanonicalLR
