import CanonicalLR.Proofs.Cells
import CanonicalLR.Proofs.Discovery
import CanonicalLR.Proofs.Safety
import CanonicalLR.Proofs.Traced

/-! # The state that accepts

Nothing waits for the fresh start symbol, so that the item of production 0 is in the first set only, and with its dot
at the end only in the set that is reached from there over the start symbol. Whatever else the start symbol stands
for in the rules, this state has no other way in, and no other cell accepts than the one in which it meets the end
marker. So a stack on which the machine accepts holds the start symbol and nothing else.
-/
namespace CanonicalLR

theorem filter_eq_singleton {α : Type} {l : List α} (h : l.Nodup) {keep : α → Bool} {x : α}
    (hkeep : ∀ y, y ∈ l ∧ keep y = true ↔ y = x) : l.filter keep = [x] := by
  rw [← List.perm_singleton, List.perm_ext_iff_of_nodup (h.filter keep) (List.nodup_singleton x)]
  intro y
  rw [List.mem_filter, List.mem_singleton]
  exact hkeep y

namespace Grammar

variable {g : Grammar} {items : ItemSet} {s : State} {i j : Item} {X : Symbol} {n : Int}

/-- The item of production 0 with the dot at the end. -/
def finalItem (g : Grammar) : Item := g.startItem.advance

theorem next?_startItem (g : Grammar) : g.startItem.next? = some g.start := rfl

theorem isComplete_finalItem (g : Grammar) : g.finalItem.isComplete = true := rfl

theorem advance_eq_finalItem_iff : i.advance = g.finalItem ↔ i = g.startItem := by
  constructor
  · intro h
    obtain ⟨p, dot, x⟩ := i
    simpa [finalItem, Item.advance, startItem] using h
  · rintro rfl
    rfl

/-- Only over the start symbol and from a set with the start item does a GOTO have the final item. -/
theorem finalItem_mem_goto (hg : g.WellFormed) (hitems : ∀ i ∈ items, g.HasItem i) :
    g.finalItem ∈ g.goto items X ↔ g.startItem ∈ items ∧ X = g.start := by
  constructor
  · intro hmem
    have hgiven := mem_of_mem_closure_of_id_eq_zero hg (hasItem_of_mem_advanceOver hitems) hmem rfl
    obtain ⟨j, hj, hnext, hadvance⟩ := ItemSet.mem_advanceOver.mp hgiven
    obtain rfl := advance_eq_finalItem_iff.mp hadvance.symm
    rw [next?_startItem] at hnext
    exact ⟨hj, (Option.some.inj hnext).symm⟩
  · rintro ⟨hstart, rfl⟩
    exact mem_closure_of_mem (ItemSet.mem_advanceOver.mpr ⟨_, hstart, rfl, rfl⟩)

theorem Collected.eq_of_startItem_mem (hg : g.WellFormed) (h : g.Collected items) (hmem : g.startItem ∈ items) :
    items = g.closure [g.startItem] := by
  cases h with
  | start => rfl
  | goto collected X ne_nil => exact absurd hmem (startItem_not_mem_goto hg (collected.regular hg).hasItem)

theorem Collected.eq_of_finalItem_mem (hg : g.WellFormed) (h : g.Collected items) (hmem : g.finalItem ∈ items) :
    items = g.goto (g.closure [g.startItem]) g.start := by
  cases h with
  | start =>
    have hgiven := mem_of_mem_closure_of_id_eq_zero hg (List.forall_mem_singleton.mpr (hasItem_startItem g)) hmem rfl
    cases List.mem_singleton.mp hgiven
  | goto collected X ne_nil =>
    obtain ⟨hstart, rfl⟩ := (finalItem_mem_goto hg (collected.regular hg).hasItem).mp hmem
    rw [collected.eq_of_startItem_mem hg hstart]

/-- All items of production 0 that a reached set can have. -/
theorem Collected.augmented_cases (hg : g.WellFormed) (h : g.Collected items) (hi : i ∈ items)
    (hid : i.production.id = 0) : i = g.startItem ∨ i = g.finalItem := by
  induction h generalizing i with
  | start =>
    have hgiven := mem_of_mem_closure_of_id_eq_zero hg (List.forall_mem_singleton.mpr (hasItem_startItem g)) hi hid
    exact Or.inl (List.mem_singleton.mp hgiven)
  | goto collected X ne_nil ih =>
    have hitems := (collected.regular hg).hasItem
    have hgiven := mem_of_mem_closure_of_id_eq_zero hg (hasItem_of_mem_advanceOver hitems) hi hid
    obtain ⟨j, hj, hnext, rfl⟩ := ItemSet.mem_advanceOver.mp hgiven
    rcases ih hj hid with rfl | rfl
    · exact Or.inr rfl
    · cases hnext

theorem nodup_edges (hg : g.WellFormed) : g.automaton.edges.Nodup :=
  (explored_exploration hg).keys_distinct.of_map _

theorem exists_final (hg : g.WellFormed) :
    ∃ s ∈ g.automaton.states, g.automaton.target? 0 g.start = some s.id ∧ g.finalItem ∈ s.items := by
  have ha := isCanonical_automaton hg
  have hstart : g.startItem ∈ g.closure [g.startItem] := mem_closure_of_mem List.mem_cons_self
  obtain ⟨s, hs, htarget⟩ := ha.exists_target (X := g.start) ha.start_mem
    (ItemSet.mem_nextSymbols.mpr ⟨_, hstart, next?_startItem g⟩)
  exact ⟨s, hs, htarget, ha.advance_mem ha.start_mem hs htarget hstart (next?_startItem g)⟩

theorem target_ne_zero (hg : g.WellFormed) : ∀ e ∈ g.automaton.edges, e.target ≠ 0 := by
  intro e he hzero
  have ha := isCanonical_automaton hg
  obtain ⟨s, hs, t, ht, -, htarget, -, hitems⟩ := ha.edge_goto e he
  apply startItem_not_mem_goto hg (X := e.symbol) (ha.regular s hs).hasItem
  rw [← hitems, ha.items_eq_of_id_eq_zero ht (htarget.trans hzero)]
  exact mem_closure_of_mem List.mem_cons_self

/-- An edge to a state with the final item comes from the first state and is the one over the start symbol. -/
theorem source_of_finalItem_mem (hg : g.WellFormed) (hs : s ∈ g.automaton.states) (hfinal : g.finalItem ∈ s.items)
    {e : Edge} (he : e ∈ g.automaton.edges) (htarget : e.target = s.id) : e = ⟨0, s.id, g.start⟩ := by
  have ha := isCanonical_automaton hg
  obtain ⟨t, ht, s', hs', hsource, htarget', -, hitems⟩ := ha.edge_goto e he
  cases ha.eq_of_id_eq hs' hs (htarget'.trans htarget)
  rw [hitems, finalItem_mem_goto hg (ha.regular t ht).hasItem] at hfinal
  obtain ⟨hstart, hsymbol⟩ := hfinal
  have hfirst := (collected_of_mem_states hg ht).eq_of_startItem_mem hg hstart
  cases eq_of_toFinset_eq hg ht ha.start_mem (congrArg List.toFinset hfirst)
  obtain ⟨source, target, symbol⟩ := e
  cases htarget
  cases hsource
  cases hsymbol
  rfl

theorem filter_edges_of_finalItem_mem (hg : g.WellFormed) (hs : s ∈ g.automaton.states)
    (hfinal : g.finalItem ∈ s.items) (htarget : g.automaton.target? 0 g.start = some s.id) :
    g.automaton.edges.filter (fun e => e.target = s.id) = [⟨0, s.id, g.start⟩] := by
  apply filter_eq_singleton (nodup_edges hg)
  intro e
  constructor
  · rintro ⟨he, hid⟩
    exact source_of_finalItem_mem hg hs hfinal he (of_decide_eq_true hid)
  · rintro rfl
    exact ⟨Automaton.mem_edges_of_target? htarget, decide_eq_true rfl⟩

theorem eq_of_finalItem_mem (hg : g.WellFormed) {t : State} (hs : s ∈ g.automaton.states)
    (ht : t ∈ g.automaton.states) (hs' : g.finalItem ∈ s.items) (ht' : g.finalItem ∈ t.items) : s = t := by
  apply eq_of_toFinset_eq hg hs ht
  rw [(collected_of_mem_states hg hs).eq_of_finalItem_mem hg hs',
    (collected_of_mem_states hg ht).eq_of_finalItem_mem hg ht']

end Grammar

namespace Automaton

variable {g : Grammar} {a : Automaton} {s : State} {q : Int} {X : Symbol}

theorem Path.target?_of_single {f : Frame} (h : a.Path [f] s) : a.target? 0 f.symbol = some f.state := by
  cases h with
  | cons below mem id_eq target =>
    cases below with
    | nil mem id_eq' => rw [← id_eq', target, id_eq]

theorem action?_eq_accept_iff_of_finalItem_mem (hg : g.WellFormed) (hs : s ∈ g.automaton.states)
    (hfinal : g.finalItem ∈ s.items) :
    (g.automaton.table g).action? q X = some .accept ↔ q = s.id ∧ X = .endMarker := by
  rw [(orderly_of_isCanonical hg (Grammar.isCanonical_automaton hg)).action?_eq_accept_iff, candidate_accept_iff]
  constructor
  · rintro ⟨rfl, t, ht, rfl, i, hi, hcomplete, hid, -⟩
    refine ⟨?_, rfl⟩
    rcases (Grammar.collected_of_mem_states hg ht).augmented_cases hg hi hid with rfl | rfl
    · cases hcomplete
    · rw [Grammar.eq_of_finalItem_mem hg ht hs hi hfinal]
  · rintro ⟨rfl, rfl⟩
    exact ⟨rfl, s, hs, rfl, _, hfinal, g.isComplete_finalItem, rfl, rfl⟩

/-- Whatever else has been entered, the table has a single entry that accepts. -/
theorem filter_actions_of_finalItem_mem (hg : g.WellFormed) (hs : s ∈ g.automaton.states)
    (hfinal : g.finalItem ∈ s.items) :
    (g.automaton.table g).actions.toList.filter (fun entry => entry.2 = .accept) =
      [((s.id, .endMarker), .accept)] := by
  have hkeys := nodup_keys_actions g.automaton g
  apply filter_eq_singleton (hkeys.of_map _)
  rintro ⟨⟨q, X⟩, act⟩
  rw [← Entries.get?_eq_some_iff hkeys]
  constructor
  · rintro ⟨hentry, hact⟩
    obtain rfl : act = .accept := of_decide_eq_true hact
    obtain ⟨rfl, rfl⟩ := (action?_eq_accept_iff_of_finalItem_mem hg hs hfinal).mp hentry
    rfl
  · intro h
    cases h
    exact ⟨(action?_eq_accept_iff_of_finalItem_mem hg hs hfinal).mpr ⟨rfl, rfl⟩, decide_eq_true rfl⟩

end Automaton

/-- What the state is that accepts, and how a run comes to it. -/
structure Grammar.AcceptsIn (g : Grammar) (j : Int) : Prop where
  start_not_entered : ∀ e ∈ g.automaton.edges, e.target ≠ 0
  target : g.automaton.target? 0 g.start = some j
  entered_once : g.automaton.edges.filter (fun e => e.target = j) = [⟨0, j, g.start⟩]
  one_entry : (g.automaton.table g).actions.toList.filter (fun entry => entry.2 = .accept) =
    [((j, .endMarker), .accept)]
  reached : ∀ limit tokens n, ∀ s ∈ ((Recognizer.ofGrammar g limit).machine.advance n (.start tokens)).steps,
    s.event = .accept →
      s.marks = [(g.start, j)] ∧ s.entry.stack = ["0", g.start.name, toString j] ∧
        ∃ tree, ((Recognizer.ofGrammar g limit).machine.advance n (.start tokens)).configuration.frames.map Frame.tree =
            [tree] ∧
          ((Recognizer.ofGrammar g limit).machine.advance n (.start tokens)).ending = some (.accepted (some tree))

namespace Recognizer

open CanonicalLR.Configuration

variable {g : Grammar}

/-- On the grammar's own tables an accept finds the start symbol alone on the stack, with the state that is reached
over it, and a single tree. -/
theorem single_of_accept (hg : g.WellFormed) {limit : Option Int} {tokens : List String} {n : Nat} {j : Int}
    (htarget : g.automaton.target? 0 g.start = some j) {s : Step}
    (hs : s ∈ ((ofGrammar g limit).machine.advance n (.start tokens)).steps) (hevent : s.event = .accept) :
    s.marks = [(g.start, j)] ∧
      ∃ tree, ((ofGrammar g limit).machine.advance n (.start tokens)).configuration.frames.map Frame.tree = [tree] ∧
        ((ofGrammar g limit).machine.advance n (.start tokens)).ending = some (.accepted (some tree)) := by
  obtain ⟨hmarks, hending⟩ := Machine.accepted_of_mem_steps hs hevent
  obtain ⟨hgrounded, hstanding⟩ := Machine.standing_advance hg limit tokens n
  generalize (ofGrammar g limit).machine.advance n (.start tokens) = r at *
  obtain ⟨f, hframes, hsymbol⟩ : ∃ f, r.configuration.frames = [f] ∧ f.symbol = g.start := by
    rw [hending] at hstanding
    generalize r.configuration.frames.head?.map Frame.tree = tree at hstanding
    cases hstanding with
    | accepted frames_eq symbol_eq => exact ⟨_, frames_eq, symbol_eq⟩
  obtain ⟨t, hpath⟩ := hgrounded.path
  have hstate : f.state = j := by
    rw [hframes] at hpath
    have hedge := hpath.target?_of_single
    rw [hsymbol, htarget] at hedge
    exact (Option.some.inj hedge).symm
  rw [hframes] at hending
  refine ⟨?_, f.tree, by rw [hframes]; rfl, hending⟩
  rw [hmarks, marks, hframes, ← hsymbol, ← hstate]
  rfl

theorem accepts_in_one_state {text : String} (hread : Grammar.read text = .ok g) : ∃ j, g.AcceptsIn j := by
  have hg := Grammar.wellFormed_of_read hread
  obtain ⟨s, hs, htarget, hfinal⟩ := Grammar.exists_final hg
  exact ⟨s.id, {
    start_not_entered := Grammar.target_ne_zero hg
    target := htarget
    entered_once := Grammar.filter_edges_of_finalItem_mem hg hs hfinal htarget
    one_entry := Automaton.filter_actions_of_finalItem_mem hg hs hfinal
    reached := by
      intro limit tokens n step hstep hevent
      obtain ⟨hmarks, htree⟩ := single_of_accept hg htarget hstep hevent
      refine ⟨hmarks, ?_, htree⟩
      rw [Step.entry, hmarks]
      rfl }⟩

/-- A grammar whose start symbol derives itself. -/
def selfish : Grammar where
  start := .nonterminal "S"
  rules := [⟨.nonterminal "S", [.nonterminal "S"]⟩, ⟨.nonterminal "S", [.terminal "a"]⟩]

theorem read_selfish : Grammar.read "S -> S\nS -> a" = .ok selfish := rfl

/-- The cell that accepts has a conflict. -/
theorem accepts_in_one_state_selfish :
    Grammar.read "S -> S\nS -> a" = .ok selfish ∧
      (selfish.automaton.table selfish).conflicts = [⟨1, .endMarker, .acceptReduce, .accept, .reduce 1⟩] ∧
      selfish.AcceptsIn 1 := by
  obtain ⟨j, haccepts⟩ := accepts_in_one_state read_selfish
  obtain rfl : 1 = j := Option.some.inj haccepts.target
  exact ⟨read_selfish, rfl, haccepts⟩

end Recognizer

end CanonicalLR
