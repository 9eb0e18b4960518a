import CanonicalLR.Proofs.Derivation
import CanonicalLR.Proofs.Safety

/-! # What the machine accepts is a sentence

Every frame holds a derivation tree for its symbol, and from the bottom up the trees yield the tokens
read so far. A shift adds a leaf, and a reduction puts the trees of its right side under a new root.
-/
namespace CanonicalLR

namespace Configuration

variable {g : Grammar} {a : Automaton} {tokens : List String} {c d : Configuration}

structure Built (g : Grammar) (tokens : List String) (c : Configuration) : Prop where
  derived : ∀ f ∈ c.frames, f.tree.IsDerivation g ∧ f.tree.symbol = f.symbol
  yield_eq : Tree.yieldAll (c.frames.reverse.map Frame.tree) = tokens.take c.shifted

theorem built_initial (g : Grammar) (tokens : List String) : (initial tokens).Built g tokens where
  derived := by simp [initial]
  yield_eq := by simp [initial]

/-- Frames of the stack have trees for their symbols. -/
theorem Built.map_symbol (h : c.Built g tokens) {frames : List Frame} (hframes : ∀ f ∈ frames, f ∈ c.frames) :
    (frames.map Frame.tree).map Tree.symbol = frames.map Frame.symbol := by
  rw [List.map_map]
  exact List.map_congr_left fun f hf => (h.derived f (hframes f hf)).2

theorem Built.shift (h : c.Built g tokens) {token : String} (htoken : tokens[c.shifted]? = some token)
    (hmem : .terminal token ∈ g.writtenTerminals) (target : Int) (rest : List Symbol) :
    (c.shift (.terminal token) target rest).Built g tokens where
  derived f hf := by
    rcases List.mem_cons.mp hf with rfl | hf
    · exact ⟨.leaf hmem, rfl⟩
    · exact h.derived f hf
  yield_eq := by
    rw [Configuration.shift, List.reverse_cons, List.map_append, Tree.yieldAll_append, h.yield_eq,
      List.take_add_one, htoken]
    simp [Symbol.terminal]

theorem Built.reduce (hg : g.WellFormed) (h : c.Built g tokens) {p : Production} (hp : p ∈ g.productions)
    (hid : p.id ≠ 0) (hspelt : (c.frames.take p.rhs.length).reverse.map Frame.symbol = p.rhs) (target : Int) :
    (c.reduce p target).Built g tokens where
  derived f hf := by
    have hlhs := Symbol.eq_nonterminal_of_isNonterminal (Grammar.lhs_isNonterminal hg hp)
    rcases List.mem_cons.mp hf with rfl | hf
    · refine ⟨.branch (Grammar.mem_rules_of_id_ne_zero hp hid) ?_ ?_, hlhs.symm⟩
      · rw [h.map_symbol fun f hf => List.mem_of_mem_take (List.mem_reverse.mp hf)]
        exact hspelt
      · intro t ht
        obtain ⟨f, hf, rfl⟩ := List.mem_map.mp ht
        exact (h.derived f (List.mem_of_mem_take (List.mem_reverse.mp hf))).1
    · exact h.derived f (List.mem_of_mem_drop hf)
  yield_eq := by
    have hyield := h.yield_eq
    rw [← List.take_append_drop p.rhs.length c.frames, List.reverse_append, List.map_append,
      Tree.yieldAll_append] at hyield
    rw [Configuration.reduce, List.reverse_cons, List.map_append, Tree.yieldAll_append, ← hyield]
    simp

theorem Built.next (hg : g.WellFormed) {move : Move} (h : c.Built g tokens) (hgrounded : c.Grounded a tokens)
    (hlawful : c.Lawful g a move) (hnext : move.next? = some d) : d.Built g tokens := by
  cases hlawful with
  | @shift x rest t input_eq written mem path =>
    cases hnext
    obtain ⟨token, htoken, rfl, -⟩ := hgrounded.next_token input_eq written.ne_endMarker
    exact h.shift htoken mem t.id rest
  | @reduce p t mem id_ne_zero le_length spelt goto path =>
    cases hnext
    exact h.reduce hg mem id_ne_zero spelt t.id
  | accept => cases hnext
  | noAction => cases hnext
  | earlyEnd => cases hnext

end Configuration

namespace Machine

open CanonicalLR.Configuration

variable {g : Grammar} {a : Automaton} {tokens : List String} {limit : Option Int} {r : Run}

/-- A pass leaves the configuration as it is, or goes on to the next one. -/
theorem configuration_pass (m : Machine) (r : Run) :
    (m.pass r).configuration = r.configuration ∨
      (r.configuration.move m.grammar m.table).next? = some (m.pass r).configuration := by
  have hpass := pass_pass m r
  generalize m.pass r = r' at hpass
  cases hpass with
  | shift move_eq => exact Or.inr (by rw [move_eq]; rfl)
  | reduce move_eq => exact Or.inr (by rw [move_eq]; rfl)
  | cycle move_eq => exact Or.inr (by rw [move_eq]; rfl)
  | stepLimit => exact Or.inl rfl
  | accept => exact Or.inl rfl
  | reject => exact Or.inl rfl
  | fail => exact Or.inl rfl

theorem built_advance (hg : g.WellFormed) (limit : Option Int) (tokens : List String) (n : Nat) :
    ((Recognizer.ofGrammar g limit).machine.advance n (.start tokens)).configuration.Built g tokens := by
  have ha := Grammar.isCanonical_automaton hg
  have hstart := grounded_initial ha tokens
  refine (advance_induction
    (fun r => r.configuration.Grounded g.automaton tokens ∧ r.configuration.Built g tokens)
    ?_ ⟨hstart, built_initial g tokens⟩ n).2
  rintro r hunderway ⟨hgrounded, hbuilt⟩
  refine ⟨(standing_pass hg ha hgrounded hunderway).1, ?_⟩
  rcases configuration_pass (Recognizer.ofGrammar g limit).machine r with hsame | hnext
  · rw [hsame]
    exact hbuilt
  · exact hbuilt.next hg hgrounded (hgrounded.lawful_move hg ha) hnext

end Machine

/-- When only the end marker is left, a single frame has the tree of all tokens. -/
theorem Configuration.Built.of_single {g : Grammar} {a : Automaton} {tokens : List String} {c : Configuration}
    {f : Frame} (h : c.Built g tokens) (hgrounded : c.Grounded a tokens) (hframes : c.frames = [f])
    (hinput : c.input = [.endMarker]) : f.tree.symbol = f.symbol ∧ f.tree.IsDerivation g ∧ f.tree.yield = tokens := by
  obtain ⟨hderived, hsymbol⟩ := h.derived f (hframes ▸ List.mem_singleton_self f)
  have hlength := congrArg List.length (hgrounded.input_eq.symm.trans hinput)
  have hall : tokens.length ≤ c.shifted := by
    rw [List.length_append, List.length_map, List.length_drop] at hlength
    exact Nat.le_of_sub_eq_zero (Nat.add_right_cancel hlength)
  have hyield := h.yield_eq
  rw [hframes, List.take_of_length_le hall] at hyield
  exact ⟨hsymbol, hderived, by simpa using hyield⟩

namespace Recognizer

variable {g : Grammar}

theorem derived_of_accepted (hg : g.WellFormed) {limit : Option Int} {tokens : List String} {n : Nat}
    {tree : Option Tree}
    (haccepted : ((ofGrammar g limit).machine.advance n (.start tokens)).ending = some (.accepted tree)) :
    ∃ t, tree = some t ∧ t.symbol = g.start ∧ t.IsDerivation g ∧ t.yield = tokens := by
  obtain ⟨hgrounded, hstanding⟩ := Machine.standing_advance hg limit tokens n
  have hbuilt := Machine.built_advance hg limit tokens n
  rw [haccepted] at hstanding
  cases hstanding with
  | @accepted f frames_eq symbol_eq input_eq =>
    obtain ⟨hsymbol, hderived, hyield⟩ := hbuilt.of_single hgrounded frames_eq input_eq
    exact ⟨f.tree, rfl, hsymbol.trans symbol_eq, hderived, hyield⟩

/-- What is accepted is a sentence of the grammar, and the tree is a derivation tree of exactly it. -/
theorem accepted_is_sentence {text : String} (hread : Grammar.read text = .ok g) (limit : Option Int)
    (tokens : List String) (n : Nat) {tree : Option Tree}
    (haccepted : ((ofGrammar g limit).machine.advance n (.start tokens)).ending = some (.accepted tree)) :
    g.Generates tokens ∧
      ∃ t, tree = some t ∧ t.symbol = g.start ∧ t.IsDerivation g ∧ t.yield = tokens := by
  have hg := Grammar.wellFormed_of_read hread
  obtain ⟨hgrounded, hstanding⟩ := Machine.standing_advance hg limit tokens n
  have hbuilt := Machine.built_advance hg limit tokens n
  rw [haccepted] at hstanding
  generalize ((ofGrammar g limit).machine.advance n (.start tokens)).configuration = c at *
  cases hstanding with
  | @accepted f frames_eq symbol_eq input_eq =>
    obtain ⟨hderived, hsymbol⟩ := hbuilt.derived f (by simp [frames_eq])
    have hall : tokens.length ≤ c.shifted := by
      have hinput := hgrounded.input_eq
      rw [input_eq] at hinput
      have hlength := congrArg List.length hinput
      exact Nat.le_of_sub_eq_zero (by simpa using hlength)
    have hyield : f.tree.yield = tokens := by
      have hyield := hbuilt.yield_eq
      rw [frames_eq, List.take_of_length_le hall] at hyield
      simpa using hyield
    have hroot := hsymbol.trans symbol_eq
    have hgenerates := (Grammar.generates_iff_exists_tree hg).mpr ⟨f.tree, hderived, hroot, hyield⟩
    exact ⟨hgenerates, f.tree, rfl, hroot, hderived, hyield⟩

theorem accepted_is_sentence_nested :
    ((ofGrammar .nested none).machine.advance 5 (.start ["a", "b"])).ending =
        some (.accepted (some (.branch "S" [.leaf "a", .branch "S" [], .leaf "b"]))) ∧
      Grammar.nested.Generates ["a", "b"] :=
  ⟨rfl, (accepted_is_sentence Grammar.read_nested none ["a", "b"] 5 rfl).1⟩

end Recognizer

end CanonicalLR
