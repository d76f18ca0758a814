import Acme.Session

/-!
# What an action leads to

An action has an outcome and leaves a session. Both are read off its parts: an action that follows
another one starts in the session which that one left.
-/

namespace Acme.Session

variable {ε δ α β : Type}

def outcome (s : Session) (action : Action ε α) : Except ε α :=
  match action s with
  | .ok a _ => .ok a
  | .error e _ => .error e

/-- The session that an action leaves, whether it fails or not. -/
def after (s : Session) (action : Action ε α) : Session :=
  match action s with
  | .ok _ s => s
  | .error _ s => s

variable {s : Session} {a : Action ε α}

theorem outcome_of_ok {x : α} {s' : Session} (h : a s = .ok x s') : s.outcome a = .ok x := by
  rw [outcome, h]

theorem outcome_of_error {e : ε} {s' : Session} (h : a s = .error e s') :
    s.outcome a = .error e := by
  rw [outcome, h]

theorem after_of_ok {x : α} {s' : Session} (h : a s = .ok x s') : s.after a = s' := by
  rw [after, h]

theorem after_of_error {e : ε} {s' : Session} (h : a s = .error e s') : s.after a = s' := by
  rw [after, h]

/-! ## One action after the other -/

theorem bind_of_ok (f : α → Action ε β) {x : α} (h : s.outcome a = .ok x) :
    (a >>= f) s = f x (s.after a) := by
  change EStateM.bind a f s = _
  rw [EStateM.bind]
  cases ha : a s with
  | ok y t =>
    rw [outcome_of_ok ha] at h
    cases h
    rw [after_of_ok ha]
  | error e t =>
    rw [outcome_of_error ha] at h
    cases h

theorem bind_of_error (f : α → Action ε β) {e : ε} (h : s.outcome a = .error e) :
    (a >>= f) s = .error e (s.after a) := by
  change EStateM.bind a f s = _
  rw [EStateM.bind]
  cases ha : a s with
  | ok y t =>
    rw [outcome_of_ok ha] at h
    cases h
  | error d t =>
    rw [outcome_of_error ha] at h
    cases h
    rw [after_of_error ha]

theorem outcome_bind_of_ok (f : α → Action ε β) {x : α} (h : s.outcome a = .ok x) :
    s.outcome (a >>= f) = (s.after a).outcome (f x) := by
  rw [outcome, bind_of_ok f h]
  rfl

theorem after_bind_of_ok (f : α → Action ε β) {x : α} (h : s.outcome a = .ok x) :
    s.after (a >>= f) = (s.after a).after (f x) := by
  rw [after, bind_of_ok f h]
  rfl

theorem outcome_bind_of_error (f : α → Action ε β) {e : ε} (h : s.outcome a = .error e) :
    s.outcome (a >>= f) = .error e := by
  rw [outcome, bind_of_error f h]

theorem after_bind_of_error (f : α → Action ε β) {e : ε} (h : s.outcome a = .error e) :
    s.after (a >>= f) = s.after a := by
  rw [after, bind_of_error f h]

/-! ## Failures -/

@[simp]
theorem outcome_orFail (f : ε → δ) : s.outcome (orFail a f) = (s.outcome a).mapError f := by
  rw [outcome, outcome, orFail]
  cases a s <;> rfl

@[simp]
theorem after_orFail (f : ε → δ) : s.after (orFail a f) = s.after a := by
  rw [after, after, orFail]
  cases a s <;> rfl

@[simp]
theorem outcome_attempt : s.outcome (attempt a : Action δ _) = .ok (s.outcome a) := by
  rw [outcome, outcome, attempt]
  cases a s <;> rfl

@[simp]
theorem after_attempt : s.after (attempt a : Action δ _) = s.after a := by
  rw [after, after, attempt]
  cases a s <;> rfl

end Acme.Session
