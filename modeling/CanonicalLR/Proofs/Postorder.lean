import CanonicalLR.Proofs.FirstError
import CanonicalLR.Proofs.Traced

/-! # The trace of an accepted input

On the grammar's own tables every move builds one node of a tree on the stack: a shift a leaf, and a reduction a node
over the trees of its right side. So the moves made so far are the nodes of these trees, every node behind those
below it. Seen from its end a run is a rightmost derivation: what a reduction undoes is a step that replaces the last
nonterminal, since behind it there are only words that have not been read.
-/
namespace CanonicalLR

namespace Tree

mutual

/-- The nodes of the tree, each behind the nodes below it. -/
def postorder : Tree → List Tree
  | node label isTerminal children => postorderAll children ++ [node label isTerminal children]

def postorderAll : List Tree → List Tree
  | [] => []
  | t :: rest => t.postorder ++ postorderAll rest

end

mutual

def size : Tree → Nat
  | node _ _ children => sizeAll children + 1

def sizeAll : List Tree → Nat
  | [] => 0
  | t :: rest => t.size + sizeAll rest

end

@[simp] theorem postorder_leaf (name : String) : (leaf name).postorder = [leaf name] := by
  simp [leaf, postorder, postorderAll]

@[simp] theorem postorder_branch (name : String) (children : List Tree) :
    (branch name children).postorder = postorderAll children ++ [branch name children] := by
  simp [branch, postorder]

@[simp] theorem postorderAll_nil : postorderAll [] = [] := by
  simp [postorderAll]

@[simp] theorem postorderAll_cons (t : Tree) (ts : List Tree) :
    postorderAll (t :: ts) = t.postorder ++ postorderAll ts := by
  simp [postorderAll]

theorem postorderAll_append (ts us : List Tree) :
    postorderAll (ts ++ us) = postorderAll ts ++ postorderAll us := by
  induction ts with
  | nil => simp
  | cons t ts ih => simp [ih]

theorem mem_postorderAll {u : Tree} {ts : List Tree} : u ∈ postorderAll ts ↔ ∃ t ∈ ts, u ∈ t.postorder := by
  induction ts with
  | nil => simp
  | cons t ts ih => simp [ih]

mutual

theorem length_postorder (t : Tree) : t.postorder.length = t.size := by
  cases t with
  | node label isTerminal children =>
    rw [postorder, size, List.length_append, length_postorderAll]
    rfl

theorem length_postorderAll (ts : List Tree) : (postorderAll ts).length = sizeAll ts := by
  cases ts with
  | nil => simp [postorderAll, sizeAll]
  | cons t ts => rw [postorderAll_cons, sizeAll, List.length_append, length_postorder, length_postorderAll]

end

end Tree

/-- The step makes the node: a shift a leaf with its symbol, and a reduction a node with the left side over the right
side of its production. -/
inductive Step.Builds (g : Grammar) (s : Step) : Tree → Prop
  | shift {x : Symbol} {target : Int} (event_eq : s.event = .shift x target) : Builds g s (.leaf x.name)
  | reduce {p : Production} {target : Int} {children : List Tree} (event_eq : s.event = .reduce p target)
      (mem : p ∈ g.productions) (symbols_eq : children.map Tree.symbol = p.rhs) :
      Builds g s (.branch p.lhs.name children)

/-- The symbols on the stack and behind them the input without the end marker. -/
def Step.form (s : Step) : List Symbol := s.marks.reverse.map Prod.fst ++ s.input.dropLast

/-- The form of the next step is the same behind a shift, and behind a reduction that from which this one arises when
the production is applied to the last nonterminal. -/
inductive Step.Inverts (g : Grammar) (s s' : Step) : Prop
  | shift {x : Symbol} {target : Int} (event_eq : s.event = .shift x target) (form_eq : s'.form = s.form) :
      Inverts g s s'
  | reduce {p : Production} {target : Int} {left : List Symbol} {right : List String}
      (event_eq : s.event = .reduce p target) (mem : p ∈ g.productions) (id_ne_zero : p.id ≠ 0)
      (after_eq : s'.form = left ++ p.lhs :: right.map .terminal)
      (form_eq : s.form = left ++ p.rhs ++ right.map .terminal) : Inverts g s s'

namespace Configuration

variable {g : Grammar} {a : Automaton} {tokens : List String} {c d : Configuration} {event : Event}

def form (c : Configuration) : List Symbol := c.frames.reverse.map Frame.symbol ++ c.input.dropLast

@[simp] theorem form_shown (c : Configuration) (number : Nat) (event : Event) :
    (c.shown number event).form = c.form := by
  simp [shown, Step.form, form, marks, Frame.mark, Function.comp_def]

theorem form_shift {x : Symbol} {target : Int} {rest : List Symbol} (hinput : c.input = x :: rest)
    (hrest : rest ≠ []) : (c.shift x target rest).form = c.form := by
  rw [form, form, hinput, List.dropLast_cons_of_ne_nil hrest]
  simp [shift]

theorem form_reduce (c : Configuration) (p : Production) (target : Int) :
    (c.reduce p target).form = (c.frames.drop p.rhs.length).reverse.map Frame.symbol ++ p.lhs :: c.input.dropLast := by
  simp [form, reduce]

def trees (c : Configuration) : List Tree := c.frames.reverse.map Frame.tree

theorem trees_shift (c : Configuration) (x : Symbol) (target : Int) (rest : List Symbol) :
    (c.shift x target rest).trees = c.trees ++ [.leaf x.name] := by
  simp [trees, shift]

theorem trees_eq_drop_append_take (c : Configuration) (n : Nat) :
    c.trees = (c.frames.drop n).reverse.map Frame.tree ++ (c.frames.take n).reverse.map Frame.tree := by
  rw [← List.map_append, ← List.reverse_append, List.take_append_drop]
  rfl

theorem trees_reduce (c : Configuration) (p : Production) (target : Int) :
    (c.reduce p target).trees = (c.frames.drop p.rhs.length).reverse.map Frame.tree ++
      [.branch p.lhs.name ((c.frames.take p.rhs.length).reverse.map Frame.tree)] := by
  simp [trees, reduce]

/-- All that a move can be on the grammar's own tables. -/
inductive OwnMove (g : Grammar) (c : Configuration) : Event → Configuration → Prop
  | shift {token : String} {target : Int} {rest : List Symbol} (input_eq : c.input = .terminal token :: rest)
      (rest_ne_nil : rest ≠ []) :
      OwnMove g c (.shift (.terminal token) target) (c.shift (.terminal token) target rest)
  | reduce {p : Production} {target : Int} (mem : p ∈ g.productions) (id_ne_zero : p.id ≠ 0)
      (spelt : (c.frames.take p.rhs.length).reverse.map Frame.symbol = p.rhs) :
      OwnMove g c (.reduce p target) (c.reduce p target)

theorem Grounded.ownMove (hg : g.WellFormed) (ha : g.IsCanonical a) (h : c.Grounded a tokens)
    (hmakes : c.Makes g (a.table g) event d) : c.OwnMove g event d := by
  cases hmakes with
  | @shift x rest target input_eq action =>
    have hwritten := ha.isWritten_of_target? hg (Automaton.target?_of_action?_eq_shift action)
    obtain ⟨token, -, rfl, hrest⟩ := h.next_token input_eq hwritten.ne_endMarker
    exact .shift input_eq (by simp [hrest])
  | @reduce x rest p target input_eq action mem le_length goto =>
    have hlawful := h.lawful_move hg ha
    have hmove : c.move g (a.table g) = .reduce p target (c.reduce p target) := by
      simp only [move, input_eq, action, reduction, Grammar.production?_eq_some_iff.mpr ⟨mem, rfl⟩,
        if_neg (Nat.not_lt.mpr le_length), goto]
    rw [hmove] at hlawful
    generalize c.reduce p target = d at hlawful
    cases hlawful with
    | reduce mem id_ne_zero le_length spelt => exact .reduce mem id_ne_zero spelt

theorem OwnMove.inverts (h : c.OwnMove g event d) (hgrounded : c.Grounded a tokens) (m n : Nat) (event' : Event) :
    (c.shown m event).Inverts g (d.shown n event') := by
  cases h with
  | shift input_eq rest_ne_nil => exact .shift rfl (by rw [form_shown, form_shown, form_shift input_eq rest_ne_nil])
  | @reduce p target mem id_ne_zero spelt =>
    have hread : c.input.dropLast = (tokens.drop c.shifted).map .terminal := by
      rw [hgrounded.input_eq, List.dropLast_concat]
    have hafter := form_reduce c p target
    have hform : c.form = (c.frames.drop p.rhs.length).reverse.map Frame.symbol ++ p.rhs ++
        (tokens.drop c.shifted).map .terminal := by
      rw [form, hread]
      nth_rewrite 1 [← List.take_append_drop p.rhs.length c.frames]
      rw [List.reverse_append, List.map_append, spelt]
    rw [hread] at hafter
    exact .reduce rfl mem id_ne_zero (by rw [form_shown, hafter]) (by rw [form_shown, hform])

/-- A move puts one node behind those of the trees on the stack. -/
theorem OwnMove.exists_node (h : c.OwnMove g event d) (hbuilt : c.Built g tokens) (number : Nat) :
    ∃ t, Tree.postorderAll d.trees = Tree.postorderAll c.trees ++ [t] ∧ (c.shown number event).Builds g t := by
  cases h with
  | @shift token target rest input_eq rest_ne_nil =>
    refine ⟨.leaf token, ?_, ?_⟩
    · rw [trees_shift, Tree.postorderAll_append]
      simp [Symbol.terminal]
    · exact .shift (x := .terminal token) rfl
  | @reduce p target mem id_ne_zero spelt =>
    refine ⟨.branch p.lhs.name ((c.frames.take p.rhs.length).reverse.map Frame.tree), ?_, .reduce rfl mem ?_⟩
    · rw [trees_reduce, trees_eq_drop_append_take c p.rhs.length, Tree.postorderAll_append, Tree.postorderAll_append,
        Tree.postorderAll_cons, Tree.postorderAll_nil, List.append_nil, Tree.postorder_branch, List.append_assoc]
    · rw [hbuilt.map_symbol fun f hf => List.mem_of_mem_take (List.mem_reverse.mp hf), spelt]

end Configuration

namespace Traced

open CanonicalLR.Configuration

variable {g : Grammar} {a : Automaton} {tokens : List String} {steps : List Step} {c : Configuration}

theorem builds (hg : g.WellFormed) (ha : g.IsCanonical a) (h : Traced g (a.table g) tokens steps c) :
    List.Forall₂ (Step.Builds g) steps (Tree.postorderAll c.trees) := by
  induction h with
  | start => exact .nil
  | move before made ih =>
    obtain ⟨hgrounded, hbuilt⟩ := Grammar.grounded_and_built hg ha before.after_eq
    obtain ⟨t, hnodes, hbuilds⟩ := (hgrounded.ownMove hg ha made).exists_node hbuilt _
    rw [hnodes]
    exact List.rel_append ih (.cons hbuilds .nil)

theorem inverts (hg : g.WellFormed) (ha : g.IsCanonical a) (h : Traced g (a.table g) tokens steps c) (number : Nat)
    (event : Event) : (steps ++ [c.shown number event]).IsChain (Step.Inverts g) := by
  refine h.isChain ?_ number event
  intro steps c d event hbefore hmakes number event'
  have hgrounded := (Grammar.grounded_and_built hg ha hbefore.after_eq).1
  exact (hgrounded.ownMove hg ha hmakes).inverts hgrounded _ _ _

theorem head_form {t : Table} (h : Traced g t tokens steps c) (event : Event) :
    (steps ++ [c.shown (steps.length + 1) event]).head?.map Step.form = some (tokens.map .terminal) := by
  obtain ⟨s, rest, hsteps, hmarks, hinput⟩ := h.head_eq event
  rw [hsteps, List.head?_cons, Option.map_some, Step.form, hmarks, hinput, initial, List.dropLast_concat]
  rfl

end Traced

namespace Step

variable {g : Grammar} {steps : List Step} {s last : Step}

def forms (steps : List Step) : List (List Symbol) := (steps.filter fun s => !s.isShift).map form

theorem forms_cons_of_isShift (h : s.isShift = true) (steps : List Step) : forms (s :: steps) = forms steps := by
  simp [forms, h]

theorem forms_cons_of_not_isShift (h : s.isShift = false) (steps : List Step) :
    forms (s :: steps) = s.form :: forms steps := by
  simp [forms, h]

theorem forms_concat (h : last.isShift = false) (steps : List Step) :
    forms (steps ++ [last]) = forms steps ++ [last.form] := by
  simp [forms, h]

/-- Where no shift comes last, the first of these forms is that of the first step, and each arises from the next. -/
theorem isChain_forms (h : (steps ++ [last]).IsChain (Inverts g)) (hlast : last.isShift = false) :
    (forms (steps ++ [last])).head? = (steps ++ [last]).head?.map form ∧
      (forms (steps ++ [last])).IsChain fun u v => g.RewritesRightmost v u := by
  -- By induction on the steps before the last one: a shift drops out, and its form comes with the next step.
  induction steps with
  | nil => simp [forms, hlast]
  | cons s steps ih =>
    obtain ⟨s', rest, hrest⟩ := List.exists_cons_of_ne_nil (show steps ++ [last] ≠ [] by simp)
    rw [List.cons_append, hrest] at h ⊢
    rw [hrest] at ih
    obtain ⟨hinverts, hchain⟩ := List.isChain_cons_cons.mp h
    obtain ⟨hhead, hforms⟩ := ih hchain
    cases hinverts with
    | shift event_eq form_eq =>
      rw [forms_cons_of_isShift (by rw [isShift, event_eq]; rfl), hhead]
      exact ⟨congrArg some form_eq, hforms⟩
    | reduce event_eq mem id_ne_zero after_eq form_eq =>
      rw [forms_cons_of_not_isShift (by rw [isShift, event_eq]; rfl)]
      refine ⟨rfl, List.isChain_cons.mpr ⟨?_, hforms⟩⟩
      intro u hu
      rw [hhead] at hu
      obtain rfl : s'.form = u := Option.some.inj hu
      rw [after_eq, form_eq]
      exact .intro mem _ _

end Step

/-- The sentential forms in the order of the derivation: the last one, and those that the reductions undo. -/
def Run.derivation (r : Run) : List (List Symbol) := (Step.forms r.steps).reverse

/-- The moves of the run are the nodes of the tree, and undone from the last one on they derive the tokens. -/
structure Run.Unwinds (g : Grammar) (tokens : List String) (r : Run) (t : Tree) : Prop where
  builds : ∃ moves last, r.steps = moves ++ [last] ∧ last.event = .accept ∧
    List.Forall₂ (Step.Builds g) moves t.postorder
  length_eq : r.steps.length = t.size + 1
  inverts : r.steps.IsChain (Step.Inverts g)
  derives : r.derivation.IsChain g.RewritesRightmost
  from_start : r.derivation.head? = some [g.start]
  to_tokens : r.derivation.getLast? = some (tokens.map .terminal)

namespace Recognizer

open CanonicalLR.Configuration

variable {g : Grammar}

/-- The moves of an accepting run are the nodes of its tree in post-order, and its trace is a rightmost derivation
read from its end. -/
theorem accepted_unwinds {text : String} (hread : Grammar.read text = .ok g) (limit : Option Int)
    (tokens : List String) (n : Nat) {tree : Option Tree}
    (haccepted : ((ofGrammar g limit).machine.advance n (.start tokens)).ending = some (.accepted tree)) :
    ∃ t, tree = some t ∧ ((ofGrammar g limit).machine.advance n (.start tokens)).Unwinds g tokens t := by
  have hg := Grammar.wellFormed_of_read hread
  have ha := Grammar.isCanonical_automaton hg
  have hstanding := (Machine.standing_advance hg limit tokens n).2
  obtain ⟨steps, htraced, hclosed⟩ := Machine.exists_traced_of_verdict (by rw [haccepted]; rfl)
    (show ((ofGrammar g limit).machine.advance n (.start tokens)).fault? = none by rw [Run.fault?, haccepted])
  generalize (ofGrammar g limit).machine.advance n (.start tokens) = r at *
  rw [haccepted] at hstanding
  cases hclosed with
  | reject steps_eq ending_eq =>
    rw [haccepted] at ending_eq
    cases ending_eq
  | accept steps_eq move_eq ending_eq =>
    cases hstanding with
    | @accepted f frames_eq symbol_eq input_eq =>
      -- Nothing but the root is left on the stack, so that its nodes are all the nodes that the moves have built.
      have hbuilds := htraced.builds hg ha
      rw [show r.configuration.trees = [f.tree] by rw [trees, frames_eq]; rfl, Tree.postorderAll_cons,
        Tree.postorderAll_nil, List.append_nil] at hbuilds
      have hinverts := htraced.inverts hg ha (steps.length + 1) .accept
      obtain ⟨hhead, hforms⟩ := Step.isChain_forms hinverts rfl
      have hform : r.configuration.form = [g.start] := by
        rw [form, frames_eq, input_eq, ← symbol_eq]
        rfl
      refine ⟨f.tree, rfl, ⟨_, _, steps_eq, rfl, hbuilds⟩, ?_, steps_eq ▸ hinverts, ?_, ?_, ?_⟩
      · rw [steps_eq, List.length_append, hbuilds.length_eq, Tree.length_postorder]
        rfl
      · rw [Run.derivation, steps_eq, List.isChain_reverse]
        exact hforms
      · rw [Run.derivation, steps_eq, List.head?_reverse, Step.forms_concat rfl, List.getLast?_concat, form_shown,
          hform]
      · rw [Run.derivation, steps_eq, List.getLast?_reverse, hhead, htraced.head_form]

theorem accepted_unwinds_nested :
    Grammar.read "S -> a S b\nS ->" = .ok .nested ∧
      ((ofGrammar .nested none).machine.advance 5 (.start ["a", "b"])).ending =
        some (.accepted (some (.branch "S" [.leaf "a", .branch "S" [], .leaf "b"]))) ∧
      ((ofGrammar .nested none).machine.advance 5 (.start ["a", "b"])).Unwinds .nested ["a", "b"]
        (.branch "S" [.leaf "a", .branch "S" [], .leaf "b"]) := by
  obtain ⟨t, htree, hunwinds⟩ := accepted_unwinds Grammar.read_nested none ["a", "b"] 5 rfl
  cases htree
  exact ⟨Grammar.read_nested, rfl, hunwinds⟩

end Recognizer

end CanonicalLR
