import Acme.Config

/-!
# Valid configurations

What the conditions on a configuration say about its parts.
-/

namespace Acme.Config

variable {config : Config}

theorem isDomain_of_isValid (h : config.IsValid) :
    config.domains ≠ [] ∧ ∀ domain ∈ config.domains, isDomain domain = true := by
  have hviolations : domainViolations config.domains = [] := by
    rw [IsValid, violations] at h
    simp only [List.append_eq_nil_iff] at h
    exact h.1.1.2
  rw [domainViolations] at hviolations
  split at hviolations
  · cases hviolations
  · rename_i hne
    refine ⟨hne, fun domain hmem => ?_⟩
    split at hviolations
    · cases hviolations
    · rename_i hfind
      simpa using List.find?_eq_none.1 hfind domain hmem

theorem primary_mem (h : config.IsValid) : config.domains.headD "" ∈ config.domains := by
  obtain ⟨hne, _⟩ := isDomain_of_isValid h
  cases hd : config.domains with
  | nil => exact absurd hd hne
  | cons domain rest => exact List.mem_cons_self

theorem isDomain_primary (h : config.IsValid) : isDomain (config.domains.headD "") = true :=
  (isDomain_of_isValid h).2 _ (primary_mem h)

theorem eq_true_of_require {condition : Bool} {violation : Violation}
    (h : require condition violation = []) : condition = true := by
  rw [require] at h
  split at h
  · assumption
  · cases h

theorem certKeyBits_of_isValid (h : config.IsValid) :
    2048 ≤ config.certKeyBits ∧ config.certKeyBits ≤ 8192 := by
  have hsize : isKeySize config.certKeyBits = true := by
    rw [IsValid, violations] at h
    simp only [List.append_eq_nil_iff] at h
    exact eq_true_of_require h.1.1.1.2
  simpa [isKeySize] using hsize

end Acme.Config
