import CanonicalLR.Service

/-! # What requests give and where they go

The body of a request gives values under names, of which the last one under a name counts. Where a request goes is
decided by its method and its target, and a path of the service leads to its resource.
-/
namespace CanonicalLR

namespace Json

variable {name : String} {value : Json} {members : List (String × Json)}

/-- The last member with a name counts. -/
theorem member_append {before after : List (String × Json)} (hafter : ∀ m ∈ after, m.1 ≠ name) :
    member name (before ++ (name, value) :: after) = value := by
  induction before with
  | nil =>
    have hnone : after.any (·.1 = name) = false := by simpa using hafter
    rw [List.nil_append, member, hnone]
    simp
  | cons m before ih =>
    obtain ⟨other, v⟩ := m
    have hany : (before ++ (name, value) :: after).any (·.1 = name) = true := by simp
    rw [List.cons_append, member, if_pos hany]
    exact ih

end Json

namespace Request

variable {r : Request} {members : List (String × Json)} {name : String} {value : Json} {route : Route}

/-- The body gives the value under the name. -/
def Gives (r : Request) (name : String) (value : Json) : Prop :=
  ∃ before after, r.members? = some (before ++ (name, value) :: after) ∧ ∀ m ∈ after, m.1 ≠ name

theorem Gives.member_eq (h : r.Gives name value) (hmembers : r.members? = some members) :
    Json.member name members = value := by
  obtain ⟨before, after, hbody, hafter⟩ := h
  rw [hmembers] at hbody
  cases hbody
  exact Json.member_append hafter

theorem Gives.unique {value' : Json} (h : r.Gives name value) (h' : r.Gives name value') : value = value' := by
  obtain ⟨before, after, hbody, -⟩ := id h
  exact (h.member_eq hbody).symm.trans (h'.member_eq hbody)

end Request

end CanonicalLR
