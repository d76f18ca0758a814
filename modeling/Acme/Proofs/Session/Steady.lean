import Acme.Proofs.Session.Composed
import Acme.Proofs.Session.Course

/-!
# What every part of a run keeps

A relation between sessions that holds for each step by itself (`Steady`) holds for every part of a
run, from the session in which the part starts to the one that it leaves, whether it fails or not.
-/

namespace Acme

namespace Session

/-- The step is of no consequence for the responder, the domains and the record. -/
structure Aside (s s' : Session) : Prop where
  registry : s'.registry = s.registry
  listening : s'.listening = s.listening
  reachable : s'.reachable = s.reachable
  domains : s'.domains = s.domains
  trace : s'.trace = s.trace

end Session

/-- The event has nothing to do with the responder. -/
def Event.IsAside : Event → Prop
  | .exchanged .. | .listened _ | .offered .. | .withdrawn _ => False
  | _ => True

open Session

/-- A relation between sessions that holds for each step by itself. -/
structure Steady (R : Session → Session → Prop) : Prop where
  refl : ∀ s, R s s
  trans : ∀ {s s' s''}, R s s' → R s' s'' → R s s''
  aside : ∀ {s s'}, Aside s s' → R s s'
  recorded : ∀ s {event : Event}, event.IsAside → R s (s.recorded event)
  exchanged : ∀ s request, R s (s.after (exchange request))
  listened : ∀ s address, R s ({ s with listening := true }.recorded (.listened address))
  offered : ∀ s token authorization, s.listening = true →
    R s ({ s with registry := s.registry.add token authorization }.recorded
      (.offered token authorization))
  withdrawn : ∀ s token,
    R s ({ s with registry := s.registry.remove token }.recorded (.withdrawn token))

/-- An action leads from every session to one that is related to it. -/
def Respects {ε α : Type} (R : Session → Session → Prop) (a : Action ε α) : Prop :=
  ∀ s, R s (s.after a)

namespace Respects

variable {ε δ α β : Type} {R : Session → Session → Prop}

theorem get {f : Session → Action ε β} (hf : ∀ s, R s (s.after (f s))) :
    Respects R (MonadState.get >>= f) :=
  hf

theorem modify {f : Session → Session} (hf : ∀ s, R s (f s)) :
    Respects R (modify f : Action ε Unit) :=
  hf

theorem orFail {a : Action ε α} {f : ε → δ} (ha : Respects R a) :
    Respects R (Session.orFail a f) := by
  intro s
  rw [after_orFail]
  exact ha s

theorem attempt {a : Action ε α} (ha : Respects R a) :
    Respects R (Session.attempt a : Action δ _) := by
  intro s
  rw [after_attempt]
  exact ha s

end Respects

namespace Steady

variable {ε α β : Type} {R : Session → Session → Prop} (h : Steady R)

include h

/-! ## Rules -/

theorem pure (x : α) : Respects R (Pure.pure x : Action ε α) :=
  fun s => h.refl s

theorem throw (e : ε) : Respects R (MonadExcept.throw e : Action ε α) :=
  fun s => h.refl s

/-- The outcome of the first action and the session that it leaves may be used for the second. -/
theorem bind_after {a : Action ε α} {f : α → Action ε β} {s : Session} (ha : R s (s.after a))
    (hf : ∀ x, s.outcome a = .ok x → R (s.after a) ((s.after a).after (f x))) :
    R s (s.after (a >>= f)) := by
  cases ho : s.outcome a with
  | ok x =>
    rw [after_bind_of_ok f ho]
    exact h.trans ha (hf x ho)
  | error e =>
    rw [after_bind_of_error f ho]
    exact ha

theorem bind {a : Action ε α} {f : α → Action ε β} (ha : Respects R a)
    (hf : ∀ x, Respects R (f x)) : Respects R (a >>= f) :=
  fun s => h.bind_after (ha s) fun x _ => hf x _

/-! ## Steps -/

theorem log (level : Log.Level) (message : String) (fields : List (String × Log.Value)) :
    Respects R (log level message fields : Action ε Unit) :=
  fun s => h.recorded s trivial

theorem enter (phase : Phase) : Respects R (enter phase : Action ε Unit) := by
  intro s
  have haside : Aside s { s with phase := phase } := ⟨rfl, rfl, rfl, rfl, rfl⟩
  exact h.trans (h.aside haside) (h.recorded _ trivial)

theorem sleep (milliseconds : Nat) : Respects R (sleep milliseconds : Action ε Unit) :=
  fun s => h.recorded s trivial

theorem listen (address : Endpoint) : Respects R (listen address) := by
  refine Respects.get fun s => ?_
  split
  · exact h.pure _ s
  · split
    · exact h.throw _ s
    · exact h.bind_after (h.listened s address) fun _ _ => h.log _ _ _ _

theorem awaitServed (token : String) : Respects R (awaitServed token : Action ε Unit) := by
  refine Respects.get fun s => ?_
  have hset (served : List Served) (seen : Bool) :
      R s ({ s with served := served }.recorded (.awaited token seen)) := by
    have haside : Aside s { s with served := served } := ⟨rfl, rfl, rfl, rfl, rfl⟩
    exact h.trans (h.aside haside) (h.recorded _ trivial)
  cases takeServed? token s.served with
  | none => exact hset [] false
  | some found => exact h.bind_after (hset found.2 true) fun _ _ => h.log _ _ _ _

theorem change (step : FileStep) : Respects R (change step) := by
  intro s
  have haside (files : FileSystem) : Aside s { s with files := files } := ⟨rfl, rfl, rfl, rfl, rfl⟩
  rw [after_change]
  exact h.trans (h.aside (haside _)) (h.recorded _ trivial)

theorem serve (address : Endpoint) (f : SystemFault → ε) (token authorization : String) :
    Respects R (do
      Session.orFail (Session.listen address) f
      offer token authorization) := by
  intro s
  refine h.bind_after ((h.listen address).orFail s) fun _ ho => ?_
  rw [outcome_orFail] at ho
  rw [after_orFail]
  have hlistening : (s.after (Session.listen address)).listening = true := by
    refine listening_of_listen ?_
    cases hr : s.outcome (Session.listen address) with
    | ok _ => rfl
    | error fault =>
      rw [hr] at ho
      cases ho
  exact h.offered _ _ _ hlistening

/-! ## Parts of a run -/

/-- What every step respects, every part of a run does. The domains and the cursor over them change
only in some parts. -/
theorem respects {moving : Bool} {a : Action ε α} (ha : Composed moving a)
    (hdomains : moving = true → ∀ s list, R s { s with domains := list }) : Respects R a := by
  induction ha with
  | pure x => exact h.pure x
  | throw e => exact h.throw e
  | bind _ _ iha ihf => exact h.bind iha ihf
  | orFail f _ ih => exact ih.orFail
  | attempt _ ih => exact ih.attempt
  | look _ _ ih => exact Respects.get fun s => ih s s
  | log level message fields => exact h.log level message fields
  | enter phase => exact h.enter phase
  | sleep milliseconds => exact h.sleep milliseconds
  | keep nonce => exact Respects.modify fun s => h.aside ⟨rfl, rfl, rfl, rfl, rfl⟩
  | mark f => exact Respects.modify fun s => h.aside ⟨rfl, rfl, rfl, rfl, rfl⟩
  | move hmoving f => exact Respects.modify fun s => hdomains hmoving s _
  | exchange request => exact fun s => h.exchanged s request
  | change step => exact h.change step
  | serve address f token authorization => exact h.serve address f token authorization
  | withdraw token => exact fun s => h.withdrawn s token
  | awaitServed token => exact h.awaitServed token

end Steady

end Acme
