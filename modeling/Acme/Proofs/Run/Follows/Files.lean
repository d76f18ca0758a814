import Acme.Proofs.Run.Course

/-!
# Writing files follows its course

Files are written by calls one after the other, up to the first that fails.
-/

namespace Acme

open Session Run

variable {client : Client} {s : Session}

/-! ## Files -/

theorem changeAll_follows (steps : List FileStep) :
    Does client s (changeAll steps) fun r ds g => g = s.guards ∧
      ∃ fault, r = ended fault ∧ Changing steps ds fault := by
  induction steps generalizing s with
  | nil => exact Does.pure ⟨rfl, none, rfl, .nil⟩
  | cons step rest ih =>
    refine (change_does step).bind ?_ ?_
    · rintro u ds s₁ ⟨h₁, fault, hr, rfl⟩
      cases fault with
      | some fault => cases hr
      | none =>
        refine ih.mono ?_
        rintro r es g ⟨rfl, fault, hr, hc⟩
        exact ⟨h₁, fault, hr, .cons hc⟩
    · rintro e ds g ⟨hg, fault, hr, rfl⟩
      cases fault with
      | some fault => exact ⟨hg, some fault, hr, .stopped⟩
      | none => cases hr

/-- How writing a file ends, and what it returns. -/
def stored {α : Type} (x : α) : Option SystemFault → Except StorageError α
  | none => .ok x
  | some fault => .error (.io fault)

/-- Calls on the files are followed by something that cannot fail and does not count. -/
theorem stored_does {β : Type} {steps : List FileStep} {f : Unit → Action StorageError β} {x : β}
    (hf : ∀ s : Session, Does client s (f ()) fun r ds g => r = .ok x ∧ ds = [] ∧ g = s.guards) :
    Does client s (orFail (changeAll steps) StorageError.io >>= f) fun r ds g => g = s.guards ∧
      ∃ fault, r = stored x fault ∧ Changing steps ds fault := by
  refine (changeAll_follows steps).bind_orFail ?_ ?_
  · rintro u ds s₁ ⟨h₁, fault, hr, hc⟩
    cases fault with
    | some fault => cases hr
    | none =>
      refine (hf s₁).mono ?_
      rintro r es g ⟨rfl, rfl, rfl⟩
      rw [List.append_nil]
      exact ⟨h₁, none, rfl, hc⟩
  · rintro e ds g ⟨hg, fault, hr, hc⟩
    cases fault with
    | none => cases hr
    | some fault =>
      cases hr
      exact ⟨hg, some e, rfl, hc⟩

theorem logged_does {α : Type} (level : Log.Level) (message : String)
    (fields : List (String × Log.Value)) (x : α) :
    Does client s (log level message fields >>= fun _ => (pure x : Action ε α))
      fun r ds g => r = .ok x ∧ ds = [] ∧ g = s.guards := by
  refine Does.step (log_does _ _ _) fun s₁ h₁ => ?_
  exact Does.pure ⟨rfl, rfl, h₁⟩

theorem saveAccountKey_follows (path : Path) (pem : String) :
    Does client s (saveAccountKey path pem) fun r ds g => g = s.guards ∧
      ∃ fault, r = stored () fault ∧ Changing (privateSteps path pem) ds fault :=
  stored_does fun _ => log_does _ _ _

theorem writeKey_follows (storage : Storage) (primary pem : String) :
    Does client s (storage.writeKey primary pem) fun r ds g => g = s.guards ∧
      ∃ fault, r = stored (storage.keyPath primary) fault
        ∧ Changing (privateSteps (storage.keyPath primary) pem) ds fault :=
  stored_does fun _ => logged_does _ _ _ _

theorem writeLeaf_follows (storage : Storage) (primary pem : String) :
    Does client s (storage.writeCertificate primary pem) fun r ds g => g = s.guards ∧
      ∃ fault, r = stored (storage.certPath primary) fault
        ∧ Changing (publicSteps (storage.certPath primary) pem) ds fault :=
  stored_does fun _ => logged_does _ _ _ _

theorem writeIntermediate_follows (storage : Storage) (pem : String) :
    Does client s (storage.writeIntermediate pem) fun r ds g => g = s.guards ∧
      ∃ fault, r = stored storage.intermediatePath fault
        ∧ Changing (publicSteps storage.intermediatePath pem) ds fault :=
  stored_does fun _ => logged_does _ _ _ _

theorem writeCertificate_follows (config : Config) (certKey : String) (c : IssuedCertificate) :
    Does client s (writeCertificate ⟨config.destination⟩ (config.domains.headD "") certKey c)
      fun r ds g => g = s.guards ∧ ∃ r', Writing config certKey c ds r'
        ∧ r = r'.map fun _ => ((files config).keyPath, (files config).certPath) := by
  refine (writeKey_follows _ _ _).bind_orFail ?_ ?_
  · rintro path ds s₁ ⟨h₁, fault, hr, hk⟩
    cases fault with
    | some fault => cases hr
    | none =>
      cases hr
      refine (writeLeaf_follows _ _ _).bind_orFail ?_ ?_
      · rintro path' es s₂ ⟨h₂, fault, hr, hc⟩
        cases fault with
        | some fault => cases hr
        | none =>
          cases hr
          refine Does.pure ⟨h₂.trans h₁, .ok (), ?_, rfl⟩
          rw [List.append_nil]
          exact .written hk hc
      · rintro e es g ⟨hg, fault, hr, hc⟩
        cases fault with
        | none => cases hr
        | some fault =>
          cases hr
          exact ⟨hg.trans h₁, _, .leafless hk hc, rfl⟩
  · rintro e ds g ⟨hg, fault, hr, hk⟩
    cases fault with
    | none => cases hr
    | some fault =>
      cases hr
      exact ⟨hg, _, .keyless hk, rfl⟩

theorem fetchIntermediate_follows (config : Config) (url : String) :
    Does client s (fetchIntermediate ⟨config.destination⟩ url) fun r ds g => g = s.guards ∧
      ∃ r', Fetching config url ds r' ∧ r = r'.map fun _ => (files config).intermediatePath := by
  refine Does.step (log_does _ _ _) fun s₁ h₁ => ?_
  refine (get_does url).bind_orFail ?_ ?_
  · rintro reply ds s₂ ⟨h₂, t, ht, hr, rfl⟩
    have hi : t.intermediate url = (intermediateOfReply reply).mapError (.intermediateFetch url) := by
      rw [Turn.intermediate, hr]
    cases hreply : intermediateOfReply reply with
    | error reason =>
      rw [hreply] at hi
      exact Does.throw ⟨h₂.trans h₁, _, .unfetched ht hi, rfl⟩
    | ok pem =>
      rw [hreply] at hi
      refine ((writeIntermediate_follows _ _).orFail _).mono ?_
      rintro r es g ⟨x, rfl, hg, fault, rfl, hc⟩
      rw [h₂, h₁] at hg
      cases fault with
      | none => exact ⟨hg, _, .written ht hi hc, rfl⟩
      | some fault => exact ⟨hg, _, .unwritten ht hi hc, rfl⟩
  · rintro e ds g ⟨hg, t, ht, hr, rfl⟩
    refine ⟨hg.trans h₁, .error _, .unfetched ht ?_, rfl⟩
    rw [Turn.intermediate, hr]

end Acme
