import CanonicalLR.Proofs.Growth
import CanonicalLR.Proofs.Limit
import CanonicalLR.Proofs.Traced

/-! # The machine looks at one symbol at a time

Two runs on inputs that begin with the same `k` tokens go side by side until they have shifted all of these. Until
then the next symbol is the same in both, and neither input ends with it, since the end marker at least is still to
come. So they make the same moves on the same stacks, the guard and the limit stop both or neither, and what they
record differs only in the input that is left.
-/
namespace CanonicalLR

/-- What a step tells besides the input that is left. -/
def Step.told (s : Step) : Nat × List Mark × Event := (s.number, s.marks, s.event)

theorem Step.entry_of_told_eq {s s' : Step} (h : s'.told = s.told) :
    { s'.entry with input := s.entry.input } = s.entry := by
  simp only [told, Prod.mk.injEq] at h
  simp only [entry, h]

theorem Step.countP_isShift_of_told_eq {steps steps' : List Step} (h : steps'.map told = steps.map told) :
    steps'.countP isShift = steps.countP isShift := by
  have hevent : isShift = (fun x : Nat × List Mark × Event => x.2.2.isShift) ∘ told := rfl
  rw [hevent, ← List.countP_map, ← List.countP_map, h]

namespace Configuration

variable {g : Grammar} {t : Table} {c d : Configuration} {k : Nat}

/-- The stacks are the same, and so are the next symbols up to the first `k` of the input. Behind these both inputs
go on. -/
structure Shares (k : Nat) (c d : Configuration) : Prop where
  frames_eq : d.frames = c.frames
  shifted_eq : d.shifted = c.shifted
  inputs : ∃ front rest rest', c.input = front ++ rest ∧ d.input = front ++ rest' ∧ rest ≠ [] ∧ rest' ≠ [] ∧
    c.shifted + front.length = k

theorem shares_initial {tokens tokens' : List String} (htake : tokens.take k = tokens'.take k)
    (hk : k ≤ tokens.length) : (initial tokens).Shares k (initial tokens') where
  frames_eq := rfl
  shifted_eq := rfl
  inputs := by
    refine ⟨(tokens.take k).map .terminal, (tokens.drop k).map .terminal ++ [.endMarker],
      (tokens'.drop k).map .terminal ++ [.endMarker], ?_, ?_, by simp, by simp, ?_⟩
    · rw [← List.append_assoc, ← List.map_append, List.take_append_drop]
      rfl
    · rw [htake, ← List.append_assoc, ← List.map_append, List.take_append_drop]
      rfl
    · rw [List.length_map, List.length_take_of_le hk]
      exact Nat.zero_add k

theorem Shares.marks_eq (h : c.Shares k d) : d.marks = c.marks := by
  rw [marks, marks, h.frames_eq]

theorem Shares.symm (h : c.Shares k d) : d.Shares k c where
  frames_eq := h.frames_eq.symm
  shifted_eq := h.shifted_eq.symm
  inputs := by
    obtain ⟨front, rest, rest', hinput, hinput', hne, hne', hlength⟩ := h.inputs
    exact ⟨front, rest', rest, hinput', hinput, hne', hne, by rw [h.shifted_eq, hlength]⟩

theorem Shares.shifted_le (h : c.Shares k d) : c.shifted ≤ k := by
  obtain ⟨front, rest, rest', -, -, -, -, hlength⟩ := h.inputs
  omega

theorem Shares.reduce (h : c.Shares k d) (p : Production) (target : Int) :
    (c.reduce p target).Shares k (d.reduce p target) where
  frames_eq := by simp only [Configuration.reduce, h.frames_eq]
  shifted_eq := h.shifted_eq
  inputs := h.inputs

/-- The same move, of a kind that is made before the end of the input. -/
inductive MovesAlike (k : Nat) : Move → Move → Prop
  | shift {x : Symbol} {target : Int} {next next' : Configuration} (next_shares : next.Shares k next') :
      MovesAlike k (.shift x target next) (.shift x target next')
  | reduce {p : Production} {target : Int} {next next' : Configuration} (next_shares : next.Shares k next')
      (head_eq : next'.input.head? = next.input.head?) :
      MovesAlike k (.reduce p target next) (.reduce p target next')
  | reject (reason : Rejection) : MovesAlike k (.reject reason) (.reject reason)
  | fail (fault : Fault) : MovesAlike k (.fail fault) (.fail fault)

theorem Shares.reduction (h : c.Shares k d) (hhead : d.input.head? = c.input.head?) (id : Int) :
    MovesAlike k (c.reduction g t id) (d.reduction g t id) := by
  unfold Configuration.reduction
  rw [h.frames_eq]
  split
  · exact .fail _
  · split
    · exact .reject _
    · dsimp only
      split
      · exact .reject _
      · exact .reduce (h.reduce _ _) hhead

theorem Shares.move (h : c.Shares k d) (hlt : c.shifted < k) : MovesAlike k (c.move g t) (d.move g t) := by
  obtain ⟨front, rest, rest', hinput, hinput', hne, hne', hlength⟩ := h.inputs
  obtain ⟨x, front, rfl⟩ : ∃ x front', front = x :: front' := by
    apply List.exists_cons_of_length_pos
    omega
  have hhead : d.input.head? = c.input.head? := by rw [hinput, hinput']; rfl
  rw [List.cons_append] at hinput hinput'
  simp only [Configuration.move, hinput, hinput', h.frames_eq]
  split
  · exact .reject _
  · refine .shift ⟨by simp only [Configuration.shift, h.frames_eq], congrArg (· + 1) h.shifted_eq, ?_⟩
    refine ⟨front, rest, rest', rfl, rfl, hne, hne', ?_⟩
    rw [List.length_cons] at hlength
    simp only [Configuration.shift]
    omega
  · exact h.reduction hhead _
  · -- Neither input ends with the symbol, so that both ends come too early.
    rw [if_neg (by simp [hne]), if_neg (by simp [hne']), h.shifted_eq]
    exact .reject _

end Configuration

/-- Two runs that have come the same way. -/
structure Run.Together (k : Nat) (r r' : Run) : Prop where
  shares : r.configuration.Shares k r'.configuration
  seen_eq : r'.seen = r.seen
  told_eq : r'.steps.map Step.told = r.steps.map Step.told
  ending_eq : r'.ending = r.ending

namespace Run.Together

open CanonicalLR.Configuration

variable {m : Machine} {r r' : Run} {k : Nat}

theorem length_steps_eq (h : Together k r r') : r'.steps.length = r.steps.length := by
  rw [← List.length_map (f := Step.told), h.told_eq, List.length_map]

theorem told_record (h : Together k r r') (event : Event) :
    (r'.record event).map Step.told = (r.record event).map Step.told := by
  simp only [Run.record, List.map_append, h.told_eq, List.map_cons, Step.told, h.length_steps_eq, h.shares.marks_eq]

theorem reject (h : Together k r r') (reason : Rejection) : Together k (r.reject reason) (r'.reject reason) where
  shares := h.shares
  seen_eq := h.seen_eq
  told_eq := h.told_record _
  ending_eq := by simp only [Run.reject, h.shares.shifted_eq]

theorem shift (h : Together k r r') {next next' : Configuration} (hnext : next.Shares k next') (x : Symbol)
    (target : Int) : Together k (r.shift x target next) (r'.shift x target next') where
  shares := hnext
  seen_eq := rfl
  told_eq := h.told_record _
  ending_eq := h.ending_eq

theorem reduce (h : Together k r r') {next next' : Configuration} (hnext : next.Shares k next') (p : Production)
    (target : Int) : Together k (r.reduce p target next) (r'.reduce p target next') where
  shares := hnext
  seen_eq := h.seen_eq
  told_eq := h.told_record _
  ending_eq := h.ending_eq

/-- The guard has seen the same stacks. -/
theorem reduceGuarded (h : Together k r r') {next next' : Configuration} (hnext : next.Shares k next')
    (hhead : next'.input.head? = next.input.head?) (p : Production) (target : Int) :
    Together k (r.reduceGuarded p target next) (r'.reduceGuarded p target next') := by
  have houtline : next'.outline = next.outline := outline_eq_iff.mpr hnext.marks_eq
  have hsymbol : next'.input.headD .endMarker = next.input.headD .endMarker := by
    rw [List.headD_eq_head?_getD, List.headD_eq_head?_getD, hhead]
  have hreduced := h.reduce hnext p target
  unfold Run.reduceGuarded
  rw [houtline, h.seen_eq, hsymbol]
  dsimp only
  split
  · exact hreduced.reject _
  · exact ⟨hreduced.shares, rfl, hreduced.told_eq, hreduced.ending_eq⟩

theorem step (h : Together k r r') (hlt : r.configuration.shifted < k) : Together k (m.step r) (m.step r') := by
  have hmoves := h.shares.move (g := m.grammar) (t := m.table) hlt
  unfold Machine.step
  generalize r.configuration.move m.grammar m.table = move at hmoves
  generalize r'.configuration.move m.grammar m.table = move' at hmoves
  cases hmoves with
  | shift next_shares => exact h.shift next_shares _ _
  | reduce next_shares head_eq => exact h.reduceGuarded next_shares head_eq _ _
  | reject reason => exact h.reject reason
  | fail fault => exact ⟨h.shares, h.seen_eq, h.told_eq, rfl⟩

theorem pass (h : Together k r r') (hlt : r.configuration.shifted < k) : Together k (m.pass r) (m.pass r') := by
  unfold Machine.pass
  split
  · exact h.step hlt
  · rw [h.length_steps_eq]
    split
    · exact h.reject _
    · exact h.step hlt

end Run.Together

/-- Two runs that have come the same way up to the shift of symbol `k`. -/
def Run.PartedAfter (k : Nat) (r r' : Run) : Prop :=
  ∃ common common', common <+: r.steps ∧ common' <+: r'.steps ∧ common'.map Step.told = common.map Step.told ∧
    common.countP Step.isShift = k

/-- Up to the shift of symbol `k`, the first run goes like the second: each of its steps up to then is one of the
other, but for the input that is left, and if it ends up to then, so does the other, in the same way. -/
structure Run.GoesLike (k : Nat) (r r' : Run) : Prop where
  steps : ∀ i s, r.steps[i]? = some s → (r.steps.take i).countP Step.isShift < k →
    ∃ s', r'.steps[i]? = some s' ∧ s'.told = s.told ∧ { s'.entry with input := s.entry.input } = s.entry
  ending : ∀ e, r.ending = some e → r.steps.countP Step.isShift < k → r'.ending = some e ∧ r'.position = r.position

namespace Run

variable {r r' : Run} {k : Nat}

theorem exists_step_of_told_eq {steps steps' : List Step} (h : steps'.map Step.told = steps.map Step.told) {i : Nat}
    {s : Step} (hs : steps[i]? = some s) :
    ∃ s', steps'[i]? = some s' ∧ s'.told = s.told ∧ { s'.entry with input := s.entry.input } = s.entry := by
  have htold : (steps'.map Step.told)[i]? = some s.told := by rw [h, List.getElem?_map, hs]; rfl
  rw [List.getElem?_map, Option.map_eq_some_iff] at htold
  obtain ⟨s', hs', htold⟩ := htold
  exact ⟨s', hs', htold, Step.entry_of_told_eq htold⟩

theorem Together.symm (h : Together k r r') : Together k r' r where
  shares := h.shares.symm
  seen_eq := h.seen_eq.symm
  told_eq := h.told_eq.symm
  ending_eq := h.ending_eq.symm

theorem Together.goesLike (h : Together k r r') : r.GoesLike k r' where
  steps _ _ hs _ := exists_step_of_told_eq h.told_eq hs
  ending e he _ := ⟨h.ending_eq.trans he, by rw [position, position, h.ending_eq]⟩

theorem PartedAfter.symm (h : PartedAfter k r r') : PartedAfter k r' r := by
  obtain ⟨common, common', hcommon, hcommon', htold, hcount⟩ := h
  exact ⟨common', common, hcommon', hcommon, htold.symm, by rw [Step.countP_isShift_of_told_eq htold, hcount]⟩

theorem PartedAfter.goesLike (h : PartedAfter k r r') : r.GoesLike k r' := by
  obtain ⟨common, common', hcommon, hcommon', htold, hcount⟩ := h
  constructor
  · intro i s hs hfew
    have hi : i < common.length := by
      by_contra hle
      have hprefix : common <+: r.steps.take i := List.prefix_take_iff.mpr ⟨hcommon, by omega⟩
      have hmore := hprefix.sublist.countP_le (p := Step.isShift)
      omega
    obtain ⟨more, hmore⟩ := hcommon
    obtain ⟨more', hmore'⟩ := hcommon'
    rw [← hmore, List.getElem?_append_left hi] at hs
    obtain ⟨s', hs', hsame⟩ := exists_step_of_told_eq htold hs
    exact ⟨s', by rw [← hmore', getElem?_append_of_eq_some hs'], hsame⟩
  · intro e he hfew
    have hmore := hcommon.sublist.countP_le (p := Step.isShift)
    omega

end Run

namespace Machine

open CanonicalLR.Configuration

variable {m : Machine} {tokens tokens' : List String} {k : Nat}

/-- The shifts recorded are the symbols read. -/
theorem countP_isShift_advance (m : Machine) (tokens : List String) (n : Nat) :
    (m.advance n (.start tokens)).steps.countP Step.isShift = (m.advance n (.start tokens)).configuration.shifted := by
  refine advance_induction (fun r => r.steps.countP Step.isShift = r.configuration.shifted) ?_ rfl n
  intro r _ hr
  have hrecord : ∀ event, (r.record event).countP Step.isShift =
      r.configuration.shifted + if event.isShift then 1 else 0 := by
    intro event
    rw [Run.record, List.countP_append, hr, List.countP_singleton]
    rfl
  have hpass := pass_pass m r
  generalize m.pass r = r' at hpass
  cases hpass with
  | shift move_eq =>
    cases makes_of_move_eq_shift move_eq with
    | shift => exact hrecord _
  | reduce move_eq new =>
    cases makes_of_move_eq_reduce move_eq with
    | reduce => exact hrecord _
  | cycle move_eq old =>
    cases makes_of_move_eq_reduce move_eq with
    | reduce => exact (List.countP_append).trans (congrArg (· + 0) (hrecord _))
  | stepLimit => exact hrecord _
  | accept => exact hrecord _
  | reject => exact hrecord _
  | fail => exact hr

theorem together_or_parted (htake : tokens.take k = tokens'.take k) (hk : k ≤ tokens.length) (n : Nat) :
    (m.advance n (.start tokens)).Together k (m.advance n (.start tokens')) ∨
      (m.advance n (.start tokens)).PartedAfter k (m.advance n (.start tokens')) := by
  induction n with
  | zero => exact Or.inl ⟨shares_initial htake hk, rfl, rfl, rfl⟩
  | succ n ih =>
    rcases ih with h | ⟨common, common', hcommon, hcommon', h⟩
    · rcases Nat.lt_or_ge (m.advance n (.start tokens)).configuration.shifted k with hlt | hge
      · left
        rw [advance_succ, advance_succ, h.ending_eq]
        split
        · exact h
        · exact h.pass hlt
      · -- The last common symbol has been shifted, and the runs go on as they may.
        right
        refine ⟨_, _, isPrefix_steps (Nat.le_succ n), isPrefix_steps (Nat.le_succ n), h.told_eq, ?_⟩
        rw [countP_isShift_advance]
        exact Nat.le_antisymm h.shares.shifted_le hge
    · exact Or.inr ⟨common, common', hcommon.trans (isPrefix_steps (Nat.le_succ n)),
        hcommon'.trans (isPrefix_steps (Nat.le_succ n)), h⟩

/-- Two token lists that begin with the same `k` tokens make the machine do the same until it has shifted these, with
any grammar, any table and any limit. -/
theorem runs_alike_on_shared_input (m : Machine) {tokens tokens' : List String} {k : Nat}
    (htake : tokens.take k = tokens'.take k) (hk : k ≤ tokens.length) (n : Nat) :
    (m.advance n (.start tokens)).GoesLike k (m.advance n (.start tokens')) ∧
      (m.advance n (.start tokens')).GoesLike k (m.advance n (.start tokens)) := by
  rcases together_or_parted (m := m) htake hk n with h | h
  · exact ⟨h.goesLike, h.symm.goesLike⟩
  · exact ⟨h.goesLike, h.symm.goesLike⟩

/-- The token `a` alone is accepted. -/
def single : Machine where
  grammar := ⟨.nonterminal "S", [⟨.nonterminal "S", [.terminal "a"]⟩]⟩
  table := {
    actions := .ofList [((0, .terminal "a"), .shift 1), ((1, .endMarker), .accept)]
    gotos := .empty
    terminals := [.terminal "a", .endMarker]
    nonterminals := [.nonterminal "S"]
    states := [0, 1]
    conflicts := [] }
  limit := some 5

/-- Both runs end on the second token, which only the end of the input may be. -/
theorem runs_alike_on_shared_input_single :
    ["a", "$", "b"].take 2 = ["a", "$"].take 2 ∧
      (single.advance 2 (.start ["a", "$", "b"])).ending = some (.rejected (.earlyEnd 1) 1) ∧
      (single.advance 2 (.start ["a", "$", "b"])).GoesLike 2 (single.advance 2 (.start ["a", "$"])) ∧
      (single.advance 2 (.start ["a", "$"])).GoesLike 2 (single.advance 2 (.start ["a", "$", "b"])) := by
  have htake : ["a", "$", "b"].take 2 = ["a", "$"].take 2 := rfl
  exact ⟨htake, rfl, runs_alike_on_shared_input single htake (by decide) 2⟩

end Machine

end CanonicalLR
