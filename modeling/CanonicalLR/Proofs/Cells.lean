import CanonicalLR.Proofs.Resolution
import Mathlib.Logic.Equiv.Basic

/-! # The cells of a table, counted

A table holds every cell once, so two tables whose filled cells correspond have the same size. How many proposals
a cell gets is read off the edge and the items of its state, and so is how many conflicts are recorded in it.
-/
namespace CanonicalLR

namespace Entries

variable {κ α : Type} [DecidableEq κ] {t t' : Entries κ α}

def keys (t : Entries κ α) : List κ := t.toList.map Prod.fst

theorem mem_keys {key : κ} : key ∈ t.keys ↔ (t.get? key).isSome = true := by
  obtain ⟨l⟩ := t
  unfold keys get?
  induction l with
  | nil => simp [lookup]
  | cons e l ih =>
    obtain ⟨k, v⟩ := e
    dsimp only at ih
    rw [List.map_cons, List.mem_cons, ih, lookup]
    split
    · next hk => simp [hk]
    · next hk => simp [Ne.symm hk]

/-- Where no key comes twice, a cell holds what is listed for it. -/
theorem get?_eq_some_iff (h : t.keys.Nodup) {key : κ} {value : α} :
    t.get? key = some value ↔ (key, value) ∈ t.toList := by
  refine ⟨mem_of_get?, ?_⟩
  intro hmem
  cases hget : t.get? key with
  | none =>
    have hkey : (t.get? key).isSome = true := mem_keys.mp (List.mem_map_of_mem (f := Prod.fst) hmem)
    rw [hget] at hkey
    cases hkey
  | some other =>
    have hsame := List.inj_on_of_nodup_map h (mem_of_get? hget) hmem rfl
    rw [(Prod.mk.inj hsame).2]

theorem keys_put (t : Entries κ α) (key : κ) (value : α) : (t.put key value).keys = Distinct.insert t.keys key := by
  obtain ⟨l⟩ := t
  unfold keys put
  induction l with
  | nil => rfl
  | cons e l ih =>
    obtain ⟨k, v⟩ := e
    dsimp only at ih
    rw [write]
    split
    · next hk => simp [Distinct.insert, hk]
    · next hk =>
      rw [List.map_cons, List.map_cons, ih, Distinct.insert, Distinct.insert]
      by_cases hkey : key ∈ l.map Prod.fst
      · rw [if_pos hkey, if_pos (List.mem_cons_of_mem k hkey)]
      · rw [if_neg hkey, if_neg (List.not_mem_cons_of_ne_of_not_mem (Ne.symm hk) hkey)]
        rfl

theorem nodup_keys_put (h : t.keys.Nodup) (key : κ) (value : α) : (t.put key value).keys.Nodup := by
  rw [keys_put]
  exact Distinct.nodup_insert h key

theorem nodup_keys_foldl_put (h : t.keys.Nodup) (l : List (κ × α)) :
    (l.foldl (fun t e => t.put e.1 e.2) t).keys.Nodup := by
  induction l generalizing t with
  | nil => exact h
  | cons e l ih => exact ih (nodup_keys_put h e.1 e.2)

/-- Entries under corresponding keys are as many. -/
theorem size_eq_of_equiv (f : κ ≃ κ) (ht : t.keys.Nodup) (ht' : t'.keys.Nodup)
    (h : ∀ key, (t'.get? (f key)).isSome = (t.get? key).isSome) : t.size = t'.size := by
  have hperm : (t.keys.map f).Perm t'.keys := by
    rw [List.perm_ext_iff_of_nodup (ht.map f.injective) ht']
    intro key
    rw [mem_keys, ← f.apply_symm_apply key, h, ← mem_keys, List.mem_map_of_injective f.injective]
  have hlength := hperm.length_eq
  rwa [List.length_map, keys, keys, List.length_map, List.length_map] at hlength

end Entries

theorem Filling.nodup_keys_enter {f : Filling} (h : f.actions.keys.Nodup) (q : Int) (i : Item) :
    (f.enter q i).actions.keys.Nodup := by
  unfold enter reduce
  split
  · exact Entries.nodup_keys_put h _ _
  · dsimp only
    split
    · exact Entries.nodup_keys_put h _ _
    · exact h
    · exact h
    · split
      · exact h
      · exact Entries.nodup_keys_put h _ _

theorem Filling.nodup_keys_enterAll {f : Filling} (h : f.actions.keys.Nodup) (entered : List (Int × Item)) :
    (f.enterAll entered).actions.keys.Nodup := by
  induction entered generalizing f with
  | nil => exact h
  | cons e entered ih => exact ih (nodup_keys_enter h e.1 e.2)

theorem Entries.nodup_keys_empty {κ α : Type} : (empty : Entries κ α).keys.Nodup := List.nodup_nil

/-- Lists with as many members for every key as for the corresponding one have the same length. -/
theorem length_eq_of_countP_eq {α β κ : Type} [DecidableEq κ] (f : κ ≃ κ) {l : List α} {l' : List β} (key : α → κ)
    (key' : β → κ) (h : ∀ k, l'.countP (fun y => key' y = f k) = l.countP fun x => key x = k) : l.length = l'.length := by
  have hperm : ((l.map key).map f).Perm (l'.map key') := by
    rw [List.perm_iff_count]
    intro k
    have hk := h (f.symm k)
    rw [← f.apply_symm_apply k, List.count_map_of_injective _ f f.injective, List.count, List.count, List.countP_map,
      List.countP_map]
    simpa only [Function.comp_def, beq_eq_decide] using hk.symm
  simpa using hperm.length_eq

/-- The number of the complete items with the lookahead. -/
def ItemSet.completeWith (items : ItemSet) (X : Symbol) : Nat := items.countP fun i => i.isComplete && i.lookahead = X

namespace Automaton

variable {a : Automaton} {s : State}

theorem nodup_keys_actions (a : Automaton) (g : Grammar) : (a.table g).actions.keys.Nodup := by
  change a.filling.actions.keys.Nodup
  rw [filling_eq]
  exact Filling.nodup_keys_enterAll (Entries.nodup_keys_foldl_put Entries.nodup_keys_empty _) _

theorem nodup_keys_gotos (a : Automaton) (g : Grammar) : (a.table g).gotos.keys.Nodup :=
  Entries.nodup_keys_foldl_put Entries.nodup_keys_empty _

theorem countP_entered (q : Int) (items : ItemSet) (X : Symbol) :
    ((sort Item.precedes (items.filter Item.isComplete)).map (q, ·)).countP (fun e => (e.1, e.2.lookahead) = (q, X)) =
      items.completeWith X := by
  rw [List.countP_map, (sort_perm _ _).countP_eq, List.countP_filter]
  apply List.countP_congr
  intro i _
  simp [and_comm]

theorem countP_entered_elsewhere {states : List State} {q : Int} (hstates : ∀ t ∈ states, t.id ≠ q) (X : Symbol) :
    (states.flatMap fun t => (sort Item.precedes (t.items.filter Item.isComplete)).map (t.id, ·)).countP
      (fun e => (e.1, e.2.lookahead) = (q, X)) = 0 := by
  rw [List.countP_eq_zero]
  intro e he hcell
  obtain ⟨t, ht, he⟩ := List.mem_flatMap.mp he
  obtain ⟨i, -, rfl⟩ := List.mem_map.mp he
  exact hstates t ht (congrArg Prod.fst (of_decide_eq_true hcell))

/-- Only the state with the number has items for the cell. -/
theorem countP_completions (hids : (a.states.map State.id).Nodup) (hs : s ∈ a.states) (X : Symbol) :
    a.completions.countP (fun e => (e.1, e.2.lookahead) = (s.id, X)) = s.items.completeWith X := by
  obtain ⟨before, after, hstates⟩ := List.append_of_mem hs
  rw [hstates, List.map_append, List.map_cons, List.nodup_append, List.nodup_cons] at hids
  obtain ⟨-, ⟨hafter, -⟩, hbefore⟩ := hids
  rw [completions, hstates, List.flatMap_append, List.flatMap_cons, List.countP_append, List.countP_append,
    countP_entered, countP_entered_elsewhere, countP_entered_elsewhere, Nat.zero_add, Nat.add_zero]
  · exact fun t ht hid => hafter (List.mem_map.mpr ⟨t, ht, hid⟩)
  · exact fun t ht => hbefore t.id (List.mem_map_of_mem ht) s.id List.mem_cons_self

theorem countP_completions_of_not_mem {q : Int} (hq : ∀ s ∈ a.states, s.id ≠ q) (X : Symbol) :
    a.completions.countP (fun e => (e.1, e.2.lookahead) = (q, X)) = 0 :=
  countP_entered_elsewhere hq X

end Automaton

end CanonicalLR
