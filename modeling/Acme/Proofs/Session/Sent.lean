import Acme.Proofs.Session.Basis
import Acme.Proofs.Session.Steady

/-!
# What an action sends

What has been sent is never taken back (`Composed.requests_extend`), so that every part of a run adds
to it; what an action adds is put together from what its parts add (`Session.sent`).
-/

namespace Acme

open Session

/-! ## What is sent is never taken back -/

theorem requests_recorded (s : Session) (event : Event) :
    s.requests <+: (s.recorded event).requests := by
  unfold requests history recorded
  rw [List.reverse_cons, List.filterMap_append]
  exact List.prefix_append _ _

theorem requests_recorded_of_none (s : Session) {event : Event} (h : event.exchange? = none) :
    (s.recorded event).requests = s.requests := by
  unfold requests history recorded
  rw [List.reverse_cons, List.filterMap_append]
  cases event with
  | exchanged => cases h
  | _ => exact List.append_nil _

theorem requests_of_trace {s s' : Session} (h : s'.trace = s.trace) :
    s'.requests = s.requests := by
  unfold requests history
  rw [h]

theorem steady_requests : Steady fun s s' => s.requests <+: s'.requests where
  refl _ := List.prefix_rfl
  trans h h' := h.trans h'
  aside h := (requests_of_trace h.trace).symm ▸ List.prefix_rfl
  recorded s _ _ := requests_recorded s _
  exchanged s request := by
    obtain ⟨x, _, _, hadds, _⟩ := exchange_spec s request
    rw [requests_eq, requests_eq, exchanges, exchanges, hadds.course, List.filterMap_append,
      List.map_append]
    exact List.prefix_append _ _
  listened s _ := requests_recorded s _
  offered s _ _ _ := requests_recorded s _
  withdrawn s _ := requests_recorded s _

variable {ε δ α β : Type} {moving : Bool} {s s' : Session} {a : Action ε α} {f : α → Action ε β}

theorem Composed.requests_extend (ha : Composed moving a) (s : Session) :
    s.requests <+: (s.after a).requests :=
  steady_requests.respects ha (fun _ _ _ => List.prefix_rfl) s

/-! ## What is added -/

namespace Session

/-- The requests that an action sends. -/
def sent (s : Session) (a : Action ε α) : List Http.Request :=
  (s.after a).requests.drop s.requests.length

/-- The requests with method GET that an action sends. -/
def gets (s : Session) (a : Action ε α) : List Http.Request :=
  (s.sent a).filter fun request => request.method = .get

theorem sent_of_requests {added : List Http.Request}
    (h : (s.after a).requests = s.requests ++ added) : s.sent a = added := by
  unfold sent
  rw [h, List.drop_left]

end Session

theorem Composed.requests_eq (ha : Composed moving a) (s : Session) :
    (s.after a).requests = s.requests ++ s.sent a := by
  obtain ⟨added, h⟩ := ha.requests_extend s
  rw [sent_of_requests h.symm, h]

theorem sent_bind_of_error {e : ε} (h : s.outcome a = .error e) : s.sent (a >>= f) = s.sent a := by
  unfold sent
  rw [after_bind_of_error f h]

/-- In sessions with the same basis the same is sent. -/
theorem InStep.sent_eq (h : InStep a s s') : s.sent a = s'.sent a := by
  obtain ⟨added, hs, hs'⟩ := h.dealings
  have hsent {t : Session} (ht : (t.after a).dealings = t.dealings ++ added) :
      t.sent a = (added.filterMap Event.exchange?).map Exchange.request := by
    apply sent_of_requests
    rw [requests_of_dealings, requests_of_dealings, ht, List.filterMap_append, List.map_append]
  rw [hsent hs, hsent hs']

end Acme
