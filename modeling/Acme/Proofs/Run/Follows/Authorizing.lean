import Acme.Proofs.Run.Course

/-!
# Authorizing follows its course

What is done to authorize domains, and to register the account on the way, is told by the relations
for it (`authorizeFrom_follows`).
-/

namespace Acme

open Session Run

variable {client : Client} {s : Session}

/-! ## Authorizing -/

theorem registrationOutcome_does (reply : Http.Reply) :
    JustDoes client s (registrationOutcome reply) [] s.guards := by
  rw [registrationOutcome]
  split
  · exact log_does _ _ _
  · split
    · exact log_does _ _ _
    · exact log_does _ _ _

theorem register_follows (config : Config) :
    Does client s (register config client) fun r ds g =>
      g = { s.guards with registered := true } ∧ Registering config client ds r := by
  rw [register]
  refine Does.step (enter_does .register) fun s₁ h₁ => ?_
  refine Does.step (modify_does rfl rfl rfl rfl) fun s₂ h₂ => ?_
  have hg : s₂.guards = { s.guards with registered := true } := by rw [h₂, ← h₁]
  cases hc : config.contact? with
  | none => exact Does.throw ⟨hg, .homeless hc⟩
  | some email =>
    refine Does.step (log_does _ _ _) fun s₃ h₃ => ?_
    refine (postSigned_does _ _).bind_attempt ?_
    rintro x ds s₄ ⟨h₄, t, ht, rfl, rfl⟩
    have hg₄ : s₄.guards = { s.guards with registered := true } := by rw [h₄, h₃, hg]
    have hasked : Registering config client [entering .register, .asked t] t.tolerated := .asked hc ht
    split
    · rename_i reply hr
      rw [Turn.tolerated_of_ok hr] at hasked
      refine (registrationOutcome_does reply).mono ?_
      rintro r ds g ⟨rfl, rfl, rfl⟩
      exact ⟨hg₄, hasked⟩
    · rename_i reason hr
      rw [Turn.tolerated_of_noNonce hr] at hasked
      exact Does.throw ⟨hg₄, hasked⟩
    · rename_i e hne hr
      rw [Turn.tolerated_of_error hr fun reason he => hne reason he] at hasked
      refine (log_does _ _ _).mono ?_
      rintro r ds g ⟨rfl, rfl, rfl⟩
      exact ⟨hg₄, hasked⟩

theorem requestAuthorization_follows (domain : String) :
    Does client s (requestAuthorization client domain) fun r ds g => g = s.guards ∧
      ∃ t : Turn, t.ask = client.authorizationAsk domain ∧ ds = [.asked t]
        ∧ r = t.authorization domain := by
  refine Does.step (log_does _ _ _) fun s₁ h₁ => ?_
  refine (postSigned_does _ _).bind_orFail ?_ ?_
  · rintro reply ds s₂ ⟨h₂, t, ht, hr, rfl⟩
    have hg : s₂.guards = s.guards := h₂.trans h₁
    have ha : t.authorization domain
        = (AuthorizationReply.ofReply domain reply).mapError (.noHttp01Challenge domain) := by
      rw [Turn.authorization, hr]
    split
    · rename_i reason hreply
      rw [hreply] at ha
      exact Does.throw ⟨hg, t, ht, rfl, ha.symm⟩
    · rename_i problem hreply
      rw [hreply] at ha
      refine Does.step (log_does _ _ _) fun s₃ h₃ => ?_
      exact Does.pure ⟨h₃.trans hg, t, ht, rfl, ha.symm⟩
    · rename_i challenge hreply
      rw [hreply] at ha
      exact Does.pure ⟨hg, t, ht, rfl, ha.symm⟩
  · rintro e ds g ⟨hg, t, ht, hr, rfl⟩
    refine ⟨hg.trans h₁, t, ht, rfl, ?_⟩
    rw [Turn.authorization, hr]

abbrev marked (g : Guards) (registered : Bool) : Guards := { g with registered := registered }

theorem marked_self {g : Guards} {b : Bool} (h : g.registered = b) : marked g b = g := by
  rw [← h]

theorem obtainChallenge_follows (config : Config) (index : Nat) (domain : String) :
    Does client s (obtainChallenge config client index domain) fun r ds g =>
      ∃ b, g = marked s.guards b
        ∧ Obtaining config client index domain s.guards.registered ds r b := by
  refine Does.step (enter_does _) fun s₁ h₁ => ?_
  refine (requestAuthorization_follows domain).bind ?_ ?_
  · rintro reply ds s₂ ⟨h₂, t, ht, rfl, ha⟩
    have hg : s₂.guards = s.guards := h₂.trans h₁
    cases reply with
    | challenge challenge =>
      exact Does.pure ⟨_, hg, .offered ht ha.symm⟩
    | unauthorized problem =>
      refine Does.get ?_
      dsimp only
      split
      · rename_i hr
        rw [hg] at hr
        refine Does.throw ⟨true, ?_, ?_⟩
        · rw [hg, marked_self hr]
        · rw [hr]
          exact .refused ht ha.symm
      · rename_i hr
        rw [hg, Bool.not_eq_true] at hr
        refine Does.step (log_does _ _ _) fun s₃ h₃ => ?_
        refine (register_follows config).bind ?_ ?_
        · rintro u es s₄ ⟨h₄, hreg⟩
          have hg₄ : s₄.guards = marked s.guards true := by rw [h₄, h₃, hg]
          refine Does.step (enter_does _) fun s₅ h₅ => ?_
          refine (requestAuthorization_follows domain).bind ?_ ?_
          · rintro reply es s₆ ⟨h₆, t', ht', rfl, ha'⟩
            have hg₆ : s₆.guards = marked s.guards true := by rw [h₆, h₅, hg₄]
            have hobtained : Obtaining config client index domain false _ _ true :=
              .registered ht ha.symm hreg ht'
            rw [← ha'] at hobtained
            rw [hr]
            cases reply with
            | challenge challenge => exact Does.pure ⟨true, hg₆, hobtained⟩
            | unauthorized problem => exact Does.throw ⟨true, hg₆, hobtained⟩
          · rintro f es g ⟨hg₆, t', ht', rfl, ha'⟩
            have hobtained : Obtaining config client index domain false _ _ true :=
              .registered ht ha.symm hreg ht'
            rw [← ha'] at hobtained
            rw [hr]
            exact ⟨true, by rw [hg₆, h₅, hg₄], hobtained⟩
        · rintro f es g ⟨hg₄, hreg⟩
          rw [hr]
          exact ⟨true, by rw [hg₄, h₃, hg], .unregistered ht ha.symm hreg⟩
  · rintro f ds g ⟨hg, t, ht, rfl, ha⟩
    exact ⟨_, hg.trans h₁, .failed ht ha.symm⟩

theorem pollTimes_follows (policy : PollPolicy) (challenge : PendingChallenge) (remaining : Nat) :
    Does client s (pollTimes policy challenge remaining) fun r ds g => g = s.guards ∧
      Polling policy challenge remaining ds r := by
  induction remaining generalizing s with
  | zero => exact Does.throw ⟨rfl, .spent⟩
  | succ remaining ih =>
    refine (get_does challenge.uri).bind_orFail ?_ ?_
    · rintro reply ds s₁ ⟨h₁, t, ht, hr, rfl⟩
      have hv : t.verdict challenge.domain = .ofReply challenge.domain reply := by
        rw [Turn.verdict, hr]
      cases hreply : PollVerdict.ofReply challenge.domain reply with
      | valid =>
        refine (log_does _ _ _).mono ?_
        rintro r ds g ⟨rfl, rfl, rfl⟩
        exact ⟨h₁, .valid ht (hv.trans hreply)⟩
      | failed failure => exact Does.throw ⟨h₁, .failed ht (hv.trans hreply)⟩
      | pending =>
        dsimp only
        split
        · rename_i hne
          refine Does.step (sleep_does _) fun s₂ h₂ => ?_
          refine ih.mono ?_
          rintro r ds g ⟨rfl, hp⟩
          have hpending := Polling.pending ht (hv.trans hreply) hp
          rw [pause, if_pos hne] at hpending
          exact ⟨h₂.trans h₁, hpending⟩
        · rename_i hz
          refine ih.mono ?_
          rintro r ds g ⟨rfl, hp⟩
          have hpending := Polling.pending ht (hv.trans hreply) hp
          rw [pause, if_neg hz] at hpending
          exact ⟨h₁, hpending⟩
    · rintro e ds g ⟨hg, t, ht, hr, rfl⟩
      refine ⟨hg, .failed ht ?_⟩
      rw [Turn.verdict, hr]

theorem activate_follows (challenge : PendingChallenge) :
    Does client s (activate client challenge) fun r ds g => g = s.guards ∧
      ∃ t : Turn, t.ask = client.activationAsk challenge ∧ ds = [.asked t] ∧ r = t.tolerated := by
  refine (postSigned_does _ _).bind_attempt ?_
  rintro x ds s₁ ⟨h₁, t, ht, rfl, rfl⟩
  split
  · rename_i reply hr
    dsimp only
    split
    · refine (log_does _ _ _).mono ?_
      rintro r ds g ⟨rfl, rfl, rfl⟩
      exact ⟨h₁, t, ht, rfl, (Turn.tolerated_of_ok hr).symm⟩
    · exact Does.pure ⟨h₁, t, ht, rfl, (Turn.tolerated_of_ok hr).symm⟩
  · rename_i reason hr
    exact Does.throw ⟨h₁, t, ht, rfl, (Turn.tolerated_of_noNonce hr).symm⟩
  · rename_i e hne hr
    refine (log_does _ _ _).mono ?_
    rintro r ds g ⟨rfl, rfl, rfl⟩
    refine ⟨h₁, t, ht, rfl, (Turn.tolerated_of_error hr ?_).symm⟩
    exact fun reason he => hne reason he

theorem activateAndPoll_follows (policy : PollPolicy) (challenge : PendingChallenge) :
    Does client s (activateAndPoll client policy challenge) fun r ds g => g = s.guards ∧
      Deciding client policy challenge ds r := by
  refine (activate_follows challenge).bind ?_ ?_
  · rintro u ds s₁ ⟨h₁, t, ht, rfl, hok⟩
    refine (awaitServed_does _).bind ?_ ?_
    · rintro u ds s₂ ⟨h₂, _, seen, rfl⟩
      refine (pollTimes_follows policy challenge policy.maxPolls).mono ?_
      rintro r ds g ⟨rfl, hp⟩
      exact ⟨h₂.trans h₁, .polled ht hok.symm hp⟩
    · rintro f ds g ⟨_, h, _⟩
      cases h
  · rintro f ds g ⟨hg, t, ht, rfl, hf⟩
    exact ⟨hg, .unactivated ht hf.symm⟩

theorem completeChallenge_follows (config : Config) (challenge : PendingChallenge) :
    Does client s (completeChallenge client config.httpBind config.policy challenge)
      fun r ds g => g = s.guards ∧ Completing config client challenge ds r := by
  refine (listen_does _).bind_orFail ?_ ?_
  · rintro u start s₁ ⟨h₁, hlisten⟩
    have hstart : start = [] ∨ start = [.other (.listened config.httpBind)] := by
      rcases hlisten with ⟨_, h⟩ | ⟨fault, h, _⟩
      · exact h
      · cases h
    refine Does.step (offer_does _ _) fun s₂ h₂ => ?_
    refine (activateAndPoll_follows config.policy challenge).bind_attempt ?_
    rintro x ds s₃ ⟨h₃, hd⟩
    refine Does.step (withdraw_does _) fun s₄ h₄ => ?_
    have hg : s₄.guards = s.guards := by rw [h₄, h₃, h₂, h₁]
    have hserved := Completing.served hstart hd
    cases x with
    | ok u => exact Does.pure ⟨hg, hserved⟩
    | error f => exact Does.throw ⟨hg, hserved⟩
  · rintro fault ds g ⟨hg, hlisten⟩
    rcases hlisten with ⟨h, _⟩ | ⟨fault', h, rfl⟩
    · cases h
    · cases h
      exact ⟨hg, .deaf⟩

theorem authorizeDomain_follows (config : Config) (index : Nat) (domain : String) :
    Does client s (authorizeDomain config client index domain) fun r ds g =>
      ∃ b, g = marked s.guards b
        ∧ Passing config client index domain s.guards.registered ds r b := by
  refine (obtainChallenge_follows config index domain).bind ?_ ?_
  · rintro challenge ds s₁ ⟨b, h₁, ho⟩
    refine (completeChallenge_follows config challenge).bind ?_ ?_
    · rintro u es s₂ ⟨h₂, hc⟩
      refine (modify_does rfl rfl rfl rfl).mono ?_
      rintro r fs g ⟨rfl, rfl, rfl⟩
      rw [List.append_nil]
      exact ⟨b, h₂.trans h₁, .obtained ho hc⟩
    · rintro f es g ⟨hg, hc⟩
      exact ⟨b, hg.trans h₁, .obtained ho hc⟩
  · rintro f ds g ⟨b, hg, ho⟩
    exact ⟨b, hg, .unobtained ho⟩

theorem authorizeFrom_follows (config : Config) (index : Nat) (domains : List String) :
    Does client s (authorizeFrom config client index domains) fun r ds g =>
      ∃ b, g = marked s.guards b
        ∧ Authorizing config client index domains s.guards.registered ds r b := by
  induction domains generalizing s index with
  | nil => exact Does.pure ⟨_, rfl, .nil⟩
  | cons domain rest ih =>
    refine (authorizeDomain_follows config index domain).bind ?_ ?_
    · rintro u ds s₁ ⟨b, h₁, hp⟩
      refine (ih (index + 1)).mono ?_
      rintro r es g ⟨b', hg, hr⟩
      rw [h₁] at hg hr
      exact ⟨b', hg, .cons hp hr⟩
    · rintro f ds g ⟨b, hg, hp⟩
      exact ⟨b, hg, .stopped hp⟩

end Acme
