/-! # Values by key, in the order of the first writes

A later `put` replaces the value and leaves the key at its place, so that a listing shows the first
writes in order with the last values. `get?_put` is the law of reading, and `get?_ofList` says that the
last entry of a list with a key counts.
-/
namespace CanonicalLR

structure Entries (κ α : Type) where
  toList : List (κ × α)
deriving DecidableEq

namespace Entries

variable {κ α : Type} [DecidableEq κ]

def empty : Entries κ α := ⟨[]⟩

def lookup (key : κ) : List (κ × α) → Option α
  | [] => none
  | (k, v) :: rest => if k = key then some v else lookup key rest

def write (key : κ) (value : α) : List (κ × α) → List (κ × α)
  | [] => [(key, value)]
  | (k, v) :: rest => if k = key then (k, value) :: rest else (k, v) :: write key value rest

def get? (t : Entries κ α) (key : κ) : Option α := lookup key t.toList

def put (t : Entries κ α) (key : κ) (value : α) : Entries κ α := ⟨write key value t.toList⟩

def ofList (entries : List (κ × α)) : Entries κ α :=
  entries.foldl (fun t e => t.put e.1 e.2) empty

def size (t : Entries κ α) : Nat := t.toList.length

theorem lookup_write (key key' : κ) (value : α) (l : List (κ × α)) :
    lookup key' (write key value l) = if key = key' then some value else lookup key' l := by
  induction l with
  | nil => simp [write, lookup]
  | cons e l ih =>
    obtain ⟨k, v⟩ := e
    by_cases hk : k = key
    · subst hk
      by_cases h : k = key' <;> simp [write, lookup, h]
    · by_cases h : k = key'
      · subst h
        simp [write, lookup, hk, Ne.symm hk]
      · simp [write, lookup, hk, h, ih]

theorem get?_put (t : Entries κ α) (key key' : κ) (value : α) :
    (t.put key value).get? key' = if key = key' then some value else t.get? key' :=
  lookup_write key key' value t.toList

theorem get?_empty (key : κ) : (empty : Entries κ α).get? key = none := rfl

theorem mem_of_get? {t : Entries κ α} {key : κ} {value : α} (h : t.get? key = some value) :
    (key, value) ∈ t.toList := by
  obtain ⟨l⟩ := t
  induction l with
  | nil => cases h
  | cons e l ih =>
    simp only [get?, lookup] at h ih
    split at h
    · next hkey =>
      cases h
      cases hkey
      exact List.mem_cons_self
    · exact List.mem_cons_of_mem e (ih h)

theorem get?_foldl_put (t : Entries κ α) (l : List (κ × α)) (key : κ) :
    (l.foldl (fun t e => t.put e.1 e.2) t).get? key =
      ((l.reverse.find? (·.1 = key)).map Prod.snd).or (t.get? key) := by
  induction l generalizing t with
  | nil => simp
  | cons e l ih =>
    rw [List.foldl_cons, ih, get?_put, List.reverse_cons, List.find?_append]
    by_cases h : e.1 = key
    · cases l.reverse.find? (·.1 = key) <;> simp [h]
    · simp [h]

theorem get?_ofList (l : List (κ × α)) (key : κ) :
    (ofList l).get? key = (l.reverse.find? (·.1 = key)).map Prod.snd := by
  rw [ofList, get?_foldl_put, get?_empty, Option.or_none]

end Entries

end CanonicalLR
