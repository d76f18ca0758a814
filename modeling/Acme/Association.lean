/-!
# Association lists

What `List.lookup` finds after the entries of one key were dropped: nothing under that key, and
everything as before under the others.
-/

namespace Acme

variable {κ α : Type} [BEq κ] [LawfulBEq κ] [DecidableEq κ]

theorem lookup_filter_self (key : κ) (entries : List (κ × α)) :
    (entries.filter fun e => e.1 ≠ key).lookup key = none := by
  induction entries with
  | nil => rfl
  | cons e rest ih =>
    obtain ⟨here, value⟩ := e
    by_cases hm : here = key
    · have hd : ((here, value) :: rest).filter (fun e => e.1 ≠ key)
          = rest.filter (fun e => e.1 ≠ key) := by simp [hm]
      rw [hd, ih]
    · have hk : ((here, value) :: rest).filter (fun e => e.1 ≠ key)
          = (here, value) :: rest.filter (fun e => e.1 ≠ key) := by simp [hm]
      rw [hk, List.lookup_cons, ih, beq_false_of_ne (Ne.symm hm)]

theorem lookup_filter_of_ne {key other : κ} (h : other ≠ key) (entries : List (κ × α)) :
    (entries.filter fun e => e.1 ≠ key).lookup other = entries.lookup other := by
  induction entries with
  | nil => rfl
  | cons e rest ih =>
    obtain ⟨here, value⟩ := e
    by_cases hm : here = key
    · subst hm
      have hd : ((here, value) :: rest).filter (fun e => e.1 ≠ here)
          = rest.filter (fun e => e.1 ≠ here) := by simp
      rw [hd, ih, List.lookup_cons, beq_false_of_ne h]
    · have hk : ((here, value) :: rest).filter (fun e => e.1 ≠ key)
          = (here, value) :: rest.filter (fun e => e.1 ≠ key) := by simp [hm]
      rw [hk, List.lookup_cons, List.lookup_cons, ih]

end Acme
