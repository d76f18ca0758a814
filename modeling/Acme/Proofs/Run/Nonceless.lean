import Acme.Proofs.Run.Failures
import Acme.Proofs.Run.Follows

/-!
# When there is no nonce

The CA may hand out no nonce when one is asked for, or not reply at all. What this means for the run
depends on what the nonce is for (`run_nonceless`).
-/

namespace Acme

namespace Turn

variable {client : Client} {held held' : Option String} {t : Turn} {y : Exchange}

theorem Step.unfilled_spec (h : t.Step client held held') (hy : t.refill = some y)
    {reply : Http.Reply} (ho : y.outcome = .ok reply) (hn : y.nonce? = none) :
    t.sent = none ∧ t.fatal? = some (.noNonce (Client.withoutNonce reply)) := by
  cases h with
  | direct => cases hy
  | held => cases hy
  | refilled _ hn' =>
    cases hy
    rw [hn] at hn'
    cases hn'
  | @unfilled url payload _ reply' _ ho' =>
    cases hy
    rw [ho] at ho'
    cases ho'
    refine ⟨rfl, ?_⟩
    cases payload <;> rfl
  | unanswered _ ho' =>
    cases hy
    rw [ho] at ho'
    cases ho'

theorem Step.unanswered_spec (h : t.Step client held held') (hy : t.refill = some y)
    {e : Http.TransportError} (ho : y.outcome = .error e) :
    t.sent = none ∧ t.ask.isSigned = true ∧ t.result = .error (.transport e) := by
  cases h with
  | direct => cases hy
  | held => cases hy
  | refilled _ hn =>
    cases hy
    rw [Exchange.nonce?, ho] at hn
    cases hn
  | unfilled _ ho' =>
    cases hy
    rw [ho] at ho'
    cases ho'
  | unanswered _ ho' =>
    cases hy
    rw [ho] at ho'
    cases ho'
    exact ⟨rfl, rfl, rfl⟩

/-- The first nonce is missing if the reply has none, or there is no reply. -/
theorem Step.greeting_spec (h : t.Step client held held') {x : Exchange} (hx : t.sent = some x)
    (hn : x.nonce? = none) : ∃ reason, t.greeting = .error (.noNonce reason) := by
  rw [greeting, (h.sent_spec hx).2, Exchange.result]
  rw [Exchange.nonce?] at hn
  cases ho : x.outcome with
  | error e => exact ⟨_, rfl⟩
  | ok reply =>
    rw [ho] at hn
    exact ⟨_, if_pos hn⟩

end Turn

namespace Run

/-- What comes of a nonce that is asked for and not received. -/
structure Nonceless (deeds : List Deed) (r : Except Failure IssuedFiles) : Prop where
  /-- A run begins with a request for a nonce. -/
  initial : ∀ t rest, turnsOf deeds = t :: rest → t.ask = .nonce
    ∧ ∀ x, t.sent = some x → x.nonce? = none → rest = [] ∧ ∃ reason, r = .error (.noNonce reason)
  /-- A reply without a nonce is the end, whatever the nonce was for. -/
  unfilled : ∀ before t after y reply, deeds = before ++ .asked t :: after → t.refill = some y →
    y.outcome = .ok reply → y.nonce? = none →
      t.sent = none ∧ turnsOf after = [] ∧ r = .error (.noNonce (Client.withoutNonce reply))
  /-- Without a reply, it counts what the nonce was for: some requests fail with the words of their
  own failure, and the others are passed over. -/
  unanswered : ∀ before t after y e, deeds = before ++ .asked t :: after → t.refill = some y →
    y.outcome = .error e → t.sent = none ∧
      match t.ask with
      | .signed _ (.newAuthorization domain) =>
        turnsOf after = [] ∧ r = .error (.noHttp01Challenge domain e.message)
      | .signed _ (.newCertificate _) => turnsOf after = [] ∧ r = .error (.certificateRequest e.message)
      | _ => after ≠ []

variable {config : Config} {keys : KeySupply} {s : Session} {account : Account} {deeds : List Deed}

theorem Told.step_at (h : Told config keys s account deeds) {before after : List Deed} {t : Turn}
    (hdeeds : deeds = before ++ .asked t :: after) :
    ∃ next next', t.Step ⟨config.endpoints, account⟩ next next' := by
  have hconversation := h.happened.conversation
  rw [hdeeds, turnsOf_append, turnsOf_asked] at hconversation
  obtain ⟨next, next', _, hstep⟩ := hconversation.step_at
  exact ⟨next, next', hstep⟩

theorem Told.at_asked (h : Told config keys s account deeds) {before after : List Deed} {t : Turn}
    (hdeeds : deeds = before ++ .asked t :: after) :
    (∀ f, t.fatal? = some f → s.outcome (run config keys) = .error f ∧ turnsOf after = [])
      ∧ (t.isForgiven = true → after ≠ []) := by
  obtain ⟨es, hes, hheeds⟩ := h.running.heeds
  rw [hes] at hdeeds
  cases before with
  | nil => cases hdeeds
  | cons deed before =>
    cases hdeeds
    exact hheeds.at_asked

/-- In every run, a nonce that is missing is the end if the CA replies without one, and so is the
first nonce of all. Where there is no reply, the run may go on or fail otherwise. -/
theorem run_nonceless (config : Config) (keys : KeySupply) (s : Session) :
    ∃ account deeds, Told config keys s account deeds
      ∧ Nonceless deeds (s.outcome (run config keys)) := by
  obtain ⟨account, deeds, htold, hbegun⟩ := run_begun config keys s
  refine ⟨account, deeds, htold, ?_⟩
  constructor
  case initial =>
    intro t rest hturns
    have hasked : turnsOf deeds ≠ [] := by
      rw [hturns]
      exact List.cons_ne_nil _ _
    have hstep : ∃ next, t.Step ⟨config.endpoints, account⟩ none next := by
      have hconversation := htold.happened.conversation
      rw [hturns] at hconversation
      cases hconversation with
      | cons hstep _ => exact ⟨_, hstep⟩
    obtain ⟨next, hstep⟩ := hstep
    obtain ⟨front, late, hdeeds, hfront, hgreeting⟩ := hbegun.greeting.resolve_left hasked
    rw [hdeeds, turnsOf_append, hfront, List.nil_append] at hturns
    cases hgreeting with
    | refused ht hg hr =>
      cases hturns
      refine ⟨ht, fun x hx hn => ⟨rfl, ?_⟩⟩
      obtain ⟨reason, hreason⟩ := hstep.greeting_spec hx hn
      rw [hreason] at hg
      cases hg
      exact ⟨reason, hr⟩
    | greeted ht hg =>
      cases hturns
      refine ⟨ht, fun x hx hn => ?_⟩
      obtain ⟨reason, hreason⟩ := hstep.greeting_spec hx hn
      rw [hreason] at hg
      cases hg
  case unfilled =>
    intro before t after y reply hdeeds hy ho hn
    obtain ⟨next, next', hstep⟩ := htold.step_at hdeeds
    obtain ⟨hsent, hfatal⟩ := hstep.unfilled_spec hy ho hn
    obtain ⟨hr, hafter⟩ := (htold.at_asked hdeeds).1 _ hfatal
    exact ⟨hsent, hafter, hr⟩
  case unanswered =>
    intro before t after y e hdeeds hy ho
    obtain ⟨next, next', hstep⟩ := htold.step_at hdeeds
    obtain ⟨hsent, hsigned, hresult⟩ := hstep.unanswered_spec hy ho
    obtain ⟨hends, hgoesOn⟩ := htold.at_asked hdeeds
    refine ⟨hsent, ?_⟩
    -- A failure of transport is fatal for the requests that have a failure of their own.
    have hfatal : t.fatal? = match t.ask with
        | .signed _ (.newAuthorization domain) => some (.noHttp01Challenge domain e.message)
        | .signed _ (.newCertificate _) => some (.certificateRequest e.message)
        | _ => none := by
      rw [Turn.fatal?, hresult]
      cases t.ask with
      | signed url payload => cases payload <;> rfl
      | _ => rfl
    have hforgiven (hnone : t.fatal? = none) : t.isForgiven = true := by
      rw [Turn.isForgiven, hresult, hsigned, hnone]
      rfl
    split
    · rename_i domain hask
      rw [hask] at hfatal
      exact (hends _ hfatal).symm
    · rename_i hask
      rw [hask] at hfatal
      exact (hends _ hfatal).symm
    · rename_i hauthorization hcertificate
      refine hgoesOn (hforgiven ?_)
      rw [hfatal]
      split
      · exact absurd ‹_› (hauthorization _ _)
      · exact absurd ‹_› (hcertificate _ _)
      · rfl

end Run

end Acme
