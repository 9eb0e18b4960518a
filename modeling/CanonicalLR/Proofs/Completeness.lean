import CanonicalLR.Proofs.Derivation
import CanonicalLR.Proofs.Safety

/-! # Without conflicts every derivation tree is found

Where an item of the top state waits for the root of a derivation tree, and what comes behind the yield can
follow, the machine reads the yield and puts the tree on the stack. The induction is on the tree: the
item for the rule of the root is in the top state, and its dot moves over one child after the other.
-/
namespace CanonicalLR

open CanonicalLR.Configuration

/-- Wherever an item waits for the root of the tree and the next symbol can follow, the machine reads the
yield and pushes the tree, with a state over its root. -/
def Parses (g : Grammar) (a : Automaton) (t : Tree) : Prop :=
  ∀ (frames : List Frame) (s : State) (i : Item) (x : Symbol) (rest : List Symbol) (k : Nat),
    a.Path frames s → i ∈ s.items → i.next? = some t.symbol → g.Follows i x →
      ∃ s' ∈ a.states, a.target? s.id t.symbol = some s'.id ∧ ∃ n,
        after? g (a.table g) n ⟨frames, k, t.yield.map .terminal ++ x :: rest⟩ =
          some ⟨⟨t.symbol, s'.id, t⟩ :: frames, k + t.yield.length, x :: rest⟩

theorem action?_of_complete {g : Grammar} {a : Automaton} {frames : List Frame} {s : State} {i : Item}
    (hg : g.WellFormed) (ha : g.IsCanonical a) (hconflicts : (a.table g).conflicts = []) (hpath : a.Path frames s)
    (hi : i ∈ s.items) (hcomplete : i.isComplete = true) :
    (a.table g).action? (topState frames) i.lookahead = some i.completion := by
  rw [hpath.topState_eq]
  exact Automaton.action?_of_candidate ha.ids_distinct (ha.target?_endMarker hg) hconflicts
    (.complete hpath.mem rfl hi hcomplete rfl)

namespace Parses

variable {g : Grammar} {a : Automaton} {s : State} {i : Item} {t : Tree} {ts : List Tree} {frames : List Frame}
  {x : Symbol} {rest : List Symbol}

theorem leaf (hg : g.WellFormed) (ha : g.IsCanonical a) (hconflicts : (a.table g).conflicts = [])
    (name : String) :
    Parses g a (.leaf name) := by
  intro frames s i x rest k hpath hi hnext _
  obtain ⟨s', hs', htarget⟩ := ha.exists_target hpath.mem (ItemSet.mem_nextSymbols.mpr ⟨i, hi, hnext⟩)
  have haction := Automaton.action?_of_candidate ha.ids_distinct (ha.target?_endMarker hg) hconflicts
    (.shift rfl htarget)
  rw [← hpath.topState_eq] at haction
  refine ⟨s', hs', htarget, 1, ?_⟩
  rw [Tree.yield_leaf, after?_succ, after?, Option.bind_some, (Next.shift rfl haction).next?_eq]
  rfl

/-- Trees that follow the dot of an item are pushed one after the other. -/
theorem forest (hg : g.WellFormed) (ha : g.IsCanonical a) (hderived : ∀ t ∈ ts, t.IsDerivation g)
    (hts : ∀ t ∈ ts, Parses g a t) (k : Nat) (rest : List Symbol) (hpath : a.Path frames s) (hi : i ∈ s.items)
    (hsymbols : i.production.rhs.drop i.dot = ts.map Tree.symbol) (hx : i.lookahead = x) :
    ∃ pushed s', a.Path (pushed ++ frames) s' ∧ pushed.reverse.map Frame.tree = ts ∧
      { i with dot := i.dot + ts.length } ∈ s'.items ∧
        ∃ n, after? g (a.table g) n ⟨frames, k, (Tree.yieldAll ts).map .terminal ++ x :: rest⟩ =
          some ⟨pushed ++ frames, k + (Tree.yieldAll ts).length, x :: rest⟩ := by
  induction ts generalizing frames s i k with
  | nil => exact ⟨[], s, hpath, rfl, hi, 0, by simp [after?]⟩
  | cons t ts ih =>
    have hitem := (ha.regular s hpath.mem).hasItem i hi
    have hnext : i.next? = some t.symbol := by
      rw [Item.next?, ← List.head?_drop, hsymbols]
      rfl
    have hrest : ts.map Tree.symbol = i.production.rhs.drop (i.dot + 1) := by
      rw [← List.tail_drop, hsymbols]
      rfl
    have hderived' : ∀ u ∈ ts, u.IsDerivation g := fun u hu => hderived u (List.mem_cons_of_mem t hu)
    -- What comes behind the yield of `t` is the yields of the other trees, or the lookahead.
    obtain ⟨y, after, hafter⟩ := List.exists_cons_of_ne_nil
      (show (Tree.yieldAll ts).map Symbol.terminal ++ x :: rest ≠ [] by simp)
    have hfollows : g.Follows i y := by
      have hlookahead := Grammar.isTerminal_of_mem_terminals hitem.lookahead_mem
      apply Grammar.follows_of_isDerivation hg hderived' hlookahead hrest
      rw [hx]
      exact hafter
    obtain ⟨u, hu, htarget, n, hn⟩ :=
      hts t List.mem_cons_self frames s i y after k hpath hi hnext hfollows
    have hpush : a.Path (⟨t.symbol, u.id, t⟩ :: frames) u := .cons hpath hu rfl htarget
    obtain ⟨pushed, s', hpath', htrees, hadvanced, m, hm⟩ :=
      ih hderived' (fun u hu => hts u (List.mem_cons_of_mem t hu)) (k + t.yield.length) hpush
        (ha.advance_mem hpath.mem hu htarget hi hnext) hrest.symm hx
    refine ⟨pushed ++ [⟨t.symbol, u.id, t⟩], s', ?_, ?_, ?_, n + m, ?_⟩
    · rwa [List.append_assoc]
    · simp [htrees]
    · rw [List.length_cons, show i.dot + (ts.length + 1) = i.dot + 1 + ts.length by omega]
      exact hadvanced
    · rw [Tree.yieldAll_cons, List.map_append, List.append_assoc, hafter, after?_add, hn, Option.bind_some,
        ← hafter, hm, List.length_append, List.append_assoc, Nat.add_assoc]
      rfl

theorem branch (hg : g.WellFormed) (ha : g.IsCanonical a) (hconflicts : (a.table g).conflicts = []) {rule : Rule}
    (hrule : rule ∈ g.rules) (hsymbols : ts.map Tree.symbol = rule.rhs) (hderived : ∀ t ∈ ts, t.IsDerivation g)
    (hts : ∀ t ∈ ts, Parses g a t) : Parses g a (.branch rule.lhs.name ts) := by
  intro frames s i x rest k hpath hi hnext hfollows
  obtain ⟨p, hp, rfl, hid⟩ := Grammar.exists_production_of_mem_rules hrule
  have hlhs : Symbol.nonterminal p.rule.lhs.name = p.lhs :=
    (Symbol.eq_nonterminal_of_isNonterminal (Grammar.lhs_isNonterminal hg hp)).symm
  rw [Tree.symbol_branch, hlhs] at hnext ⊢
  rw [Tree.yield_branch]
  have hfront : (⟨p, 0, x⟩ : Item) ∈ s.items :=
    (ha.regular s hpath.mem).closed i hi _ (Grammar.mem_predictions.mpr
      ⟨p.lhs, hnext, Grammar.lhs_isNonterminal hg hp, hp, rfl, rfl, hfollows⟩)
  obtain ⟨pushed, s', hpath', htrees, hcomplete, n, hn⟩ :=
    forest hg ha hderived hts k rest hpath hfront hsymbols.symm rfl
  obtain ⟨u, hu, htarget⟩ := ha.exists_target hpath.mem (ItemSet.mem_nextSymbols.mpr ⟨i, hi, hnext⟩)
  refine ⟨u, hu, htarget, n + 1, ?_⟩
  have hlength : p.rhs.length = ts.length := by
    have hrhs : p.rhs.length = (ts.map Tree.symbol).length := congrArg List.length hsymbols.symm
    rw [hrhs, List.length_map]
  have hpushed : pushed.length = p.rhs.length := by
    rw [hlength, ← htrees, List.length_map, List.length_reverse]
  have haction := action?_of_complete hg ha hconflicts hpath' hcomplete (by simp [Item.isComplete, hlength])
  rw [Item.completion_eq_reduce hid] at haction
  have hgoto : (a.table g).goto? (topState ((pushed ++ frames).drop p.rhs.length)) p.lhs = some u.id := by
    rw [← hpushed, List.drop_left, hpath.topState_eq, Automaton.goto?_table,
      if_pos (Grammar.lhs_isNonterminal hg hp), htarget]
  have hreduce := Next.reduce (c := ⟨pushed ++ frames, k + (Tree.yieldAll ts).length, x :: rest⟩) rfl haction
    (Grammar.production?_eq_some_iff.mpr ⟨hp, rfl⟩) (by simp [← hpushed]) hgoto
  rw [after?_succ, hn, Option.bind_some, hreduce.next?_eq, reduce, ← hpushed, List.take_left, List.drop_left,
    htrees]
  rfl

theorem of_isDerivation (hg : g.WellFormed) (ha : g.IsCanonical a) (hconflicts : (a.table g).conflicts = [])
    (h : t.IsDerivation g) : Parses g a t := by
  induction h with
  | @leaf name mem => exact leaf hg ha hconflicts name
  | branch mem symbols_eq children_derived ih => exact branch hg ha hconflicts mem symbols_eq children_derived ih

end Parses

/-- The moves on the yield of a derivation tree for the start symbol lead to the tree. -/
theorem accept_of_isDerivation {g : Grammar} {a : Automaton} {t : Tree} (hg : g.WellFormed) (ha : g.IsCanonical a)
    (hconflicts : (a.table g).conflicts = []) (ht : t.IsDerivation g) (hroot : t.symbol = g.start) :
    ∃ n c, (initial t.yield).after? g (a.table g) n = some c ∧ c.move g (a.table g) = .accept ∧
      c.frames.head?.map Frame.tree = some t := by
  have hstart : g.startItem ∈ g.closure [g.startItem] := Grammar.mem_closure_of_mem List.mem_cons_self
  have hpath : a.Path [] ⟨0, g.closure [g.startItem]⟩ := .nil ha.start_mem rfl
  have hnext : g.startItem.next? = some t.symbol := congrArg some hroot.symm
  have hinput : (Tree.yieldAll []).map Symbol.terminal ++ g.startItem.lookahead :: [] = [.endMarker] := by
    simp
    rfl
  have hfollows : g.Follows g.startItem .endMarker :=
    Grammar.follows_of_isDerivation hg (List.forall_mem_nil _) rfl rfl hinput
  obtain ⟨s, hs, htarget, n, hn⟩ :=
    Parses.of_isDerivation hg ha hconflicts ht [] _ g.startItem .endMarker [] 0 hpath hstart hnext hfollows
  have hroot_path : a.Path [⟨t.symbol, s.id, t⟩] s := .cons hpath hs rfl htarget
  have haccept : (a.table g).action? (topState [⟨t.symbol, s.id, t⟩]) .endMarker = some .accept :=
    action?_of_complete hg ha hconflicts hroot_path (ha.advance_mem ha.start_mem hs htarget hstart hnext) rfl
  exact ⟨n, _, hn, move_eq_accept rfl haccept, rfl⟩

namespace Recognizer

variable {g : Grammar} {t u : Tree}

theorem accepts_tree (hg : g.WellFormed) (hconflicts : (g.automaton.table g).conflicts = [])
    (ht : t.IsDerivation g) (hroot : t.symbol = g.start) :
    ∃ n, ((ofGrammar g none).machine.advance n (.start t.yield)).ending = some (.accepted (some t)) := by
  obtain ⟨n, c, hn, hmove, htree⟩ :=
    accept_of_isDerivation hg (Grammar.isCanonical_automaton hg) hconflicts ht hroot
  rw [← htree]
  exact ⟨n + 1, Machine.accepted_of_after? (m := (ofGrammar g none).machine) rfl hn hmove⟩

/-- Without conflicts the machine finds every derivation tree of every sentence, and the guard stops none of
these runs. So a sentence with two derivation trees means a conflict. -/
theorem finds_every_tree {text : String} (hread : Grammar.read text = .ok g) :
    ((g.automaton.table g).conflicts = [] →
      (∀ t : Tree, t.IsDerivation g → t.symbol = g.start →
        ∃ n, ((ofGrammar g none).machine.advance n (.start t.yield)).ending = some (.accepted (some t))) ∧
      ∀ words, g.Generates words → ∀ n q x position,
        ((ofGrammar g none).machine.advance n (.start words)).ending ≠ some (.rejected (.cycle q x) position)) ∧
    ∀ t u : Tree, t.IsDerivation g → u.IsDerivation g → t.symbol = g.start → u.symbol = g.start →
      t.yield = u.yield → t ≠ u → (g.automaton.table g).conflicts ≠ [] := by
  have hg := Grammar.wellFormed_of_read hread
  refine ⟨fun hconflicts => ⟨fun t => accepts_tree hg hconflicts, ?_⟩, ?_⟩
  · intro words hwords n q x position hcycle
    obtain ⟨t, ht, hroot, rfl⟩ := (Grammar.generates_iff_exists_tree hg).mp hwords
    obtain ⟨k, hk⟩ := accepts_tree hg hconflicts ht hroot
    cases Machine.ending_unique hcycle hk
  · intro t u ht hu htroot huroot hyield hne hconflicts
    obtain ⟨n, hn⟩ := accepts_tree hg hconflicts ht htroot
    obtain ⟨k, hk⟩ := accepts_tree hg hconflicts hu huroot
    rw [hyield] at hn
    apply hne
    cases Machine.ending_unique hn hk
    rfl

theorem nested_tree_derived :
    (Tree.branch "S" [.leaf "a", .branch "S" [], .leaf "b"]).IsDerivation .nested := by
  have hpair : (⟨.nonterminal "S", [.terminal "a", .nonterminal "S", .terminal "b"]⟩ : Rule) ∈
      Grammar.nested.rules := by
    decide
  have hempty : (⟨.nonterminal "S", []⟩ : Rule) ∈ Grammar.nested.rules := by decide
  refine .branch hpair rfl ?_
  intro t ht
  simp only [List.mem_cons, List.not_mem_nil, or_false] at ht
  rcases ht with rfl | rfl | rfl
  · exact .leaf (by decide)
  · exact .branch hempty rfl (by simp)
  · exact .leaf (by decide)

theorem finds_every_tree_nested :
    (Grammar.nested.automaton.table .nested).conflicts = [] ∧
      ∃ n, ((ofGrammar .nested none).machine.advance n (.start ["a", "b"])).ending =
        some (.accepted (some (.branch "S" [.leaf "a", .branch "S" [], .leaf "b"]))) :=
  ⟨rfl, ((finds_every_tree Grammar.read_nested).1 rfl).1 _ nested_tree_derived rfl⟩

end Recognizer

end CanonicalLR
