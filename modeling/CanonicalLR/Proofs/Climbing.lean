import CanonicalLR.Proofs.Guard

/-! # Stacks that grow for ever

When some reductions leave a stack as it was, put frames on top of it and end in the state in which they
began, they can be made again on the higher stack, for ever. Such moves have no bound on the height of the
stack, while a view that comes back bounds it. So the reduce guard never ends them.
-/
namespace CanonicalLR.Configuration

variable {g : Grammar} {t : Table} {c d e : Configuration} {k m n : Nat} {us vs base base' : List Mark}

def topOf : List Mark → Int
  | [] => 0
  | mark :: _ => mark.2

theorem topState_eq_topOf (c : Configuration) : topState c.frames = topOf c.marks := by
  obtain ⟨frames, shifted, input⟩ := c
  cases frames <;> rfl

theorem topState_drop_eq_topOf (c : Configuration) (k : Nat) :
    topState (c.frames.drop k) = topOf (c.marks.drop k) := by
  rw [marks, ← List.map_drop]
  exact topState_eq_topOf ⟨c.frames.drop k, c.shifted, c.input⟩

theorem topOf_append (h : topOf base = topOf base') (us : List Mark) :
    topOf (us ++ base) = topOf (us ++ base') := by
  cases us with
  | nil => exact h
  | cons mark us => rfl

/-- A reduction that leaves the base untouched is the same on another base with the same top state. -/
theorem exists_next?_of_base (hc : c.marks = us ++ base) (hd : d.marks = us ++ base')
    (htop : topOf base = topOf base') (hinput : d.input = c.input) {c' : Configuration}
    (hnext : c.next? g t = some c') (hinput' : c'.input = c.input)
    (hc' : c'.marks = vs ++ base) (hvs : vs ≠ []) :
    ∃ d', d.next? g t = some d' ∧ d'.marks = vs ++ base' ∧ d'.input = d.input := by
  obtain ⟨x, rest, id, p, target, input_eq, action, production, le_length, goto, rfl⟩ :=
    exists_reduce_of_input_eq hnext hinput'
  obtain ⟨top, vs, rfl⟩ := List.exists_cons_of_ne_nil hvs
  rw [marks_reduce, hc, List.cons_append] at hc'
  obtain ⟨rfl, hdrop⟩ := List.cons.inj hc'
  have hle : p.rhs.length ≤ us.length := by
    have hlength := congrArg List.length hdrop
    rw [← length_marks, hc] at le_length
    simp only [List.length_drop, List.length_append] at hlength le_length
    omega
  rw [List.drop_append_of_le_length hle] at hdrop
  have hvs := List.append_cancel_right hdrop
  refine ⟨d.reduce p target, (Next.reduce (hinput ▸ input_eq) ?_ production ?_ ?_).next?_eq, ?_, rfl⟩
  · rw [topState_eq_topOf, hd, ← topOf_append htop us, ← hc, ← topState_eq_topOf]
    exact action
  · rw [← length_marks, hd, List.length_append]
    omega
  · rw [topState_drop_eq_topOf, hc, List.drop_append_of_le_length hle] at goto
    rw [topState_drop_eq_topOf, hd, List.drop_append_of_le_length hle, ← topOf_append htop]
    exact goto
  · rw [marks_reduce, hd, List.drop_append_of_le_length hle, hvs]
    rfl

/-- After `j` moves on one input there are new frames over the stack of `c`. -/
structure Above (g : Grammar) (t : Table) (c : Configuration) (j : Nat) (us : List Mark) (d : Configuration) :
    Prop where
  after_eq : c.after? g t j = some d
  input_eq : d.input = c.input
  marks_eq : d.marks = us ++ c.marks
  eq_zero : us = [] → j = 0

/-- For `k` moves there are only reductions above the stack of `c`, and at their end they are in its state. -/
structure Climbs (g : Grammar) (t : Table) (c : Configuration) (k : Nat) : Prop where
  pos : 0 < k
  above : ∀ j ≤ k, ∃ us d, Above g t c j us d
  state_eq : ∀ d, c.after? g t k = some d → topState d.frames = topState c.frames

theorem Above.zero (c : Configuration) : Above g t c 0 [] c := ⟨rfl, rfl, rfl, fun _ => rfl⟩

theorem Above.unique {us' : List Mark} (h : Above g t c k us d) (h' : Above g t c k us' e) :
    d = e ∧ us = us' := by
  have heq := h.after_eq.symm.trans h'.after_eq
  cases heq
  exact ⟨rfl, List.append_cancel_right (h.marks_eq.symm.trans h'.marks_eq)⟩

/-- The same frames come over any stack with the same top state. -/
theorem Climbs.lift (h : c.Climbs g t k) (htop : topState d.frames = topState c.frames)
    (hinput : d.input = c.input)
    {j : Nat} (hj : j ≤ k) (hc : Above g t c j us e) : ∃ e', Above g t d j us e' := by
  induction j generalizing us e with
  | zero =>
    obtain ⟨-, rfl⟩ := hc.unique (Above.zero c)
    exact ⟨d, Above.zero d⟩
  | succ j ih =>
    obtain ⟨vs, f, hf⟩ := h.above j (Nat.le_of_succ_le hj)
    obtain ⟨f', hf'⟩ := ih (Nat.le_of_succ_le hj) hf
    have hnext : f.next? g t = some e := by
      have hafter := hc.after_eq
      rwa [after?_succ, hf.after_eq, Option.bind_some] at hafter
    have hne : us ≠ [] := fun hnil => nomatch hc.eq_zero hnil
    rw [topState_eq_topOf, topState_eq_topOf] at htop
    obtain ⟨e', he', hmarks, hinput'⟩ := exists_next?_of_base hf.marks_eq hf'.marks_eq htop.symm
      (hf'.input_eq.trans (hinput.trans hf.input_eq.symm)) hnext (hc.input_eq.trans hf.input_eq.symm) hc.marks_eq
      hne
    refine ⟨e', ?_, hinput'.trans hf'.input_eq, hmarks, fun hnil => absurd hnil hne⟩
    rw [after?_succ, hf'.after_eq, Option.bind_some, he']

/-- After the climb there is a higher stack to climb from. -/
theorem Climbs.again (h : c.Climbs g t k) :
    ∃ d, c.after? g t k = some d ∧ d.Climbs g t k ∧ c.frames.length < d.frames.length := by
  obtain ⟨us, d, hd⟩ := h.above k (Nat.le_refl k)
  have htop := h.state_eq d hd.after_eq
  have hne : us ≠ [] := fun hnil => absurd (hd.eq_zero hnil) (Nat.ne_of_gt h.pos)
  refine ⟨d, hd.after_eq, ⟨h.pos, ?_, ?_⟩, ?_⟩
  · intro j hj
    obtain ⟨vs, e, he⟩ := h.above j hj
    exact ⟨vs, h.lift htop hd.input_eq hj he⟩
  · intro e he
    obtain ⟨e', he'⟩ := h.lift htop hd.input_eq (Nat.le_refl k) hd
    have heq := he'.after_eq.symm.trans he
    cases heq
    rw [topState_eq_topOf, he'.marks_eq, topState_eq_topOf]
    obtain ⟨top, us, rfl⟩ := List.exists_cons_of_ne_nil hne
    rw [hd.marks_eq]
    rfl
  · rw [← length_marks, ← length_marks, hd.marks_eq, List.length_append]
    exact Nat.lt_add_of_pos_left (List.length_pos_iff.mpr hne)

theorem Climbs.exists_higher (h : c.Climbs g t k) (i : Nat) :
    ∃ d, c.after? g t (i * k) = some d ∧ d.Climbs g t k ∧ i ≤ d.frames.length := by
  induction i with
  | zero => exact ⟨c, by rw [Nat.zero_mul]; rfl, h, Nat.zero_le _⟩
  | succ i ih =>
    obtain ⟨d, hd, hclimbs, hheight⟩ := ih
    obtain ⟨e, he, hclimbs', hheight'⟩ := hclimbs.again
    refine ⟨e, ?_, hclimbs', by omega⟩
    rw [Nat.succ_mul, after?_add, hd, Option.bind_some, he]

/-- A state in which an empty right side leads back to the state. -/
theorem climbs_of_empty_rhs {x : Symbol} {rest : List Symbol} {id : Int} {p : Production}
    (hinput : c.input = x :: rest)
    (haction : t.action? (topState c.frames) x = some (.reduce id)) (hp : g.production? id = some p)
    (hrhs : p.rhs = []) (hgoto : t.goto? (topState c.frames) p.lhs = some (topState c.frames)) :
    c.Climbs g t 1 := by
  have hnext : c.next? g t = some (c.reduce p (topState c.frames)) :=
    (Next.reduce hinput haction hp (by simp [hrhs]) (by rwa [hrhs])).next?_eq
  have hafter : c.after? g t 1 = some (c.reduce p (topState c.frames)) := by
    rw [after?_succ, after?, Option.bind_some, hnext]
  refine ⟨Nat.one_pos, ?_, ?_⟩
  · intro j hj
    rcases Nat.le_one_iff_eq_zero_or_eq_one.mp hj with rfl | rfl
    · exact ⟨[], c, Above.zero c⟩
    · exact ⟨[(p.lhs, topState c.frames)], _, hafter, rfl, by rw [marks_reduce, hrhs]; rfl, by simp⟩
  · intro d hd
    rw [hafter] at hd
    cases hd
    rfl

theorem exists_height_bound (c : Configuration) (n : Nat) :
    ∃ bound, ∀ k < n, ∀ d, c.after? g t k = some d → d.frames.length ≤ bound := by
  induction n with
  | zero => exact ⟨0, by omega⟩
  | succ n ih =>
    obtain ⟨bound, hbound⟩ := ih
    refine ⟨bound + ((c.after? g t n).map fun d => d.frames.length).getD 0, ?_⟩
    intro k hk d hd
    rcases Nat.lt_succ_iff_lt_or_eq.mp hk with hk | rfl
    · have hle := hbound k hk d hd
      omega
    · simp [hd]

/-- Behind a view that has come back there are only views from before it. -/
theorem Repeats.exists_earlier (h : c.Repeats g t m n) (hd : c.after? g t k = some d) :
    ∃ j < n, ∃ e, c.after? g t j = some e ∧ d.view = e.view := by
  obtain ⟨hlt, d₀, e₀, hd₀, he₀, hview⟩ := h
  induction k using Nat.strongRecOn generalizing d with
  | ind k ih =>
    by_cases hk : k < n
    · exact ⟨k, hk, d, hd, rfl⟩
    · rw [show k = n + (k - n) by omega, after?_add, he₀, Option.bind_some] at hd
      obtain ⟨d', hd', hview'⟩ := exists_after?_of_view_eq hview.symm hd
      obtain ⟨j, hj, e, he, hview''⟩ := ih (m + (k - n)) (by omega) (d := d')
        (by rw [after?_add, hd₀, Option.bind_some, hd'])
      exact ⟨j, hj, e, he, hview'.trans hview''⟩

theorem Repeats.exists_height_bound (h : c.Repeats g t m n) :
    ∃ bound, ∀ k d, c.after? g t k = some d → d.frames.length ≤ bound := by
  obtain ⟨bound, hbound⟩ := Configuration.exists_height_bound (g := g) (t := t) c n
  refine ⟨bound, ?_⟩
  intro k d hd
  obtain ⟨j, hj, e, he, hview⟩ := h.exists_earlier hd
  rw [← length_marks, show d.marks = e.marks from congrArg Prod.fst hview, length_marks]
  exact hbound j hj e he

/-- Moves that come to a climb never repeat a view. -/
theorem not_repeats_of_climbs (hd : c.after? g t n = some d) (hclimbs : d.Climbs g t k) (i j : Nat) :
    ¬ c.Repeats g t i j := by
  intro hrepeats
  obtain ⟨bound, hbound⟩ := hrepeats.exists_height_bound
  obtain ⟨e, he, -, hheight⟩ := hclimbs.exists_higher (bound + 1)
  have hle := hbound (n + (bound + 1) * k) e (by rw [after?_add, hd, Option.bind_some, he])
  omega

theorem exists_after?_of_climbs (hd : c.after? g t n = some d) (hclimbs : d.Climbs g t k) (i : Nat) :
    ∃ e, c.after? g t i = some e := by
  obtain ⟨e, he, -, -⟩ := hclimbs.exists_higher i
  have hlong : i ≤ n + i * k := Nat.le_add_left_of_le (Nat.le_mul_of_pos_right i hclimbs.pos)
  exact exists_after?_of_le hlong (show c.after? g t (n + i * k) = some e by
    rw [after?_add, hd, Option.bind_some, he])

end CanonicalLR.Configuration

namespace CanonicalLR.Machine

/-- A climb never ends, with the reduce guard or without it. -/
theorem underway_of_climbs {m : Machine} {tokens : List String} {c : Configuration} {k n : Nat}
    (hlimit : m.limit = none)
    (hc : (Configuration.initial tokens).after? m.grammar m.table n = some c)
    (hclimbs : c.Climbs m.grammar m.table k) (i : Nat) : (m.advance i (.start tokens)).ending = none := by
  obtain ⟨d, hd⟩ := Configuration.exists_after?_of_climbs hc hclimbs i
  exact (underway_of_after? hlimit hd fun j l _ => Configuration.not_repeats_of_climbs hc hclimbs j l).1

end CanonicalLR.Machine
