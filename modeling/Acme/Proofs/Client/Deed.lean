import Acme.Proofs.Client.Turn

/-!
# Deeds

What an action does is told by a list of deeds: turns of the conversation with the CA, and whatever
else happens. `Does` says of an action that some deeds are what happened, and how they go with its
outcome; its rules follow the way in which actions are put together.
-/

namespace Acme

open Session

/-- A part of what an action does. -/
inductive Deed
  | asked (turn : Turn)
  | other (event : Event)

namespace Deed

def events : Deed → List Event
  | .asked turn => turn.exchanges.map Exchange.event
  | .other event => [event]

def phase? : Deed → Option Phase
  | .asked _ => none
  | .other event => event.phase?

/-- The call on the files, if the deed is one. -/
def call? : Deed → Option (FileStep × Option SystemFault)
  | .asked _ => none
  | .other event => event.call?

/-- The turn, if the deed is one. -/
def turn? : Deed → Option Turn
  | .asked turn => some turn
  | .other _ => none

end Deed

def turnsOf (deeds : List Deed) : List Turn :=
  deeds.filterMap Deed.turn?

@[simp]
theorem turnsOf_nil : turnsOf [] = [] := rfl

@[simp]
theorem turnsOf_asked (t : Turn) (deeds : List Deed) :
    turnsOf (.asked t :: deeds) = t :: turnsOf deeds := rfl

@[simp]
theorem turnsOf_other (event : Event) (deeds : List Deed) :
    turnsOf (.other event :: deeds) = turnsOf deeds := rfl

@[simp]
theorem turnsOf_append (deeds more : List Deed) :
    turnsOf (deeds ++ more) = turnsOf deeds ++ turnsOf more :=
  List.filterMap_append

def phasesOf (deeds : List Deed) : List Phase :=
  deeds.filterMap Deed.phase?

@[simp]
theorem phasesOf_nil : phasesOf [] = [] := rfl

@[simp]
theorem phasesOf_asked (t : Turn) (deeds : List Deed) :
    phasesOf (.asked t :: deeds) = phasesOf deeds := rfl

@[simp]
theorem phasesOf_entered (phase : Phase) (deeds : List Deed) :
    phasesOf (.other (.entered phase) :: deeds) = phase :: phasesOf deeds := rfl

theorem phasesOf_other {event : Event} (h : event.phase? = none) (deeds : List Deed) :
    phasesOf (.other event :: deeds) = phasesOf deeds :=
  List.filterMap_cons_none h

@[simp]
theorem phasesOf_append (deeds more : List Deed) :
    phasesOf (deeds ++ more) = phasesOf deeds ++ phasesOf more :=
  List.filterMap_append

/-- The calls on the files among some deeds. -/
def callsOf (deeds : List Deed) : List (FileStep × Option SystemFault) :=
  deeds.filterMap Deed.call?

@[simp]
theorem callsOf_nil : callsOf [] = [] := rfl

@[simp]
theorem callsOf_asked (t : Turn) (deeds : List Deed) :
    callsOf (.asked t :: deeds) = callsOf deeds := rfl

@[simp]
theorem callsOf_changed (step : FileStep) (fault : Option SystemFault) (deeds : List Deed) :
    callsOf (.other (.changed step fault) :: deeds) = (step, fault) :: callsOf deeds := rfl

@[simp]
theorem callsOf_append (deeds more : List Deed) :
    callsOf (deeds ++ more) = callsOf deeds ++ callsOf more :=
  List.filterMap_append

/-- Calls lead from one state of the files to another. -/
inductive Filing : FileSystem → List (FileStep × Option SystemFault) → FileSystem → Prop
  | nil (files : FileSystem) : Filing files [] files
  | cons {files files' files'' : FileSystem} {step : FileStep} {fault : Option SystemFault}
    {calls : List (FileStep × Option SystemFault)} (h : Leaves step files fault files')
    (rest : Filing files' calls files'') : Filing files ((step, fault) :: calls) files''

theorem Filing.append {files files' files'' : FileSystem}
    {calls more : List (FileStep × Option SystemFault)} (h : Filing files calls files')
    (h' : Filing files' more files'') : Filing files (calls ++ more) files'' := by
  induction h with
  | nil files => exact h'
  | cons hstep _ ih => exact .cons hstep (ih h')

theorem Filing.split {files files'' : FileSystem} {calls more : List (FileStep × Option SystemFault)}
    (h : Filing files (calls ++ more) files'') :
    ∃ files', Filing files calls files' ∧ Filing files' more files'' := by
  induction calls generalizing files with
  | nil => exact ⟨files, .nil files, h⟩
  | cons call calls ih =>
    cases h with
    | cons hstep hrest =>
      obtain ⟨files', hcalls, hmore⟩ := ih hrest
      exact ⟨files', .cons hstep hcalls, hmore⟩

/-- The deeds are what happened between two sessions. -/
structure Happened (client : Client) (s : Session) (deeds : List Deed) (s' : Session) : Prop where
  course : s'.course = s.course ++ deeds.flatMap Deed.events
  conversation : Conversation client s.nonce (turnsOf deeds) s'.nonce
  /-- Only turns are exchanges. -/
  apart : ∀ event, .other event ∈ deeds → event.exchange? = none
  phase : s'.phase = (phasesOf deeds).getLast?.getD s.phase
  files : Filing s.files (callsOf deeds) s'.files

/-- An action does deeds that go with its outcome and with the guards it leaves. -/
def Does {ε α : Type} (client : Client) (s : Session) (action : Action ε α)
    (R : Except ε α → List Deed → Guards → Prop) : Prop :=
  ∃ deeds, Happened client s deeds (s.after action)
    ∧ R (s.outcome action) deeds (s.after action).guards

variable {ε δ α β : Type} {client : Client} {s s' : Session}

namespace Happened

theorem nothing (hc : s'.course = s.course) (hn : s'.nonce = s.nonce) (hp : s'.phase = s.phase)
    (hf : s'.files = s.files) : Happened client s [] s' := by
  refine ⟨?_, ?_, fun event h => absurd h List.not_mem_nil, hp, ?_⟩
  · rw [hc, List.flatMap_nil, List.append_nil]
  · rw [hn]
    exact .nil _
  · rw [hf]
    exact .nil _

theorem event {event : Event} (he : event.exchange? = none) (hc : s'.course = s.course ++ [event])
    (hn : s'.nonce = s.nonce) (hp : s'.phase = event.phase?.getD s.phase)
    (hf : Filing s.files event.call?.toList s'.files) : Happened client s [.other event] s' := by
  have hcalls : callsOf [.other event] = event.call?.toList := by
    cases hcall : event.call? with
    | none => exact List.filterMap_cons_none (show Deed.call? (.other event) = none from hcall)
    | some call =>
      exact List.filterMap_cons_some (show Deed.call? (.other event) = some call from hcall)
  refine ⟨hc, ?_, fun other h => ?_, ?_, hcalls ▸ hf⟩
  · rw [hn]
    exact .nil _
  · cases List.mem_singleton.1 h
    exact he
  · rw [hp]
    cases h : event.phase? with
    | none =>
      rw [phasesOf_other h]
      rfl
    | some phase =>
      rw [phasesOf, List.filterMap_cons_some (show Deed.phase? (.other event) = some phase from h)]
      rfl

theorem turn {t : Turn} (hc : s'.course = s.course ++ t.exchanges.map Exchange.event)
    (h : t.Step client s.nonce s'.nonce) (hp : s'.phase = s.phase) (hf : s'.files = s.files) :
    Happened client s [.asked t] s' := by
  refine ⟨?_, .single h, fun event h => ?_, hp, ?_⟩
  · rw [hc, List.flatMap_singleton]
    rfl
  · cases List.mem_singleton.1 h
  · rw [hf]
    exact .nil _

theorem append {s'' : Session} {deeds more : List Deed} (h : Happened client s deeds s')
    (h' : Happened client s' more s'') : Happened client s (deeds ++ more) s'' := by
  refine ⟨?_, ?_, fun event he => ?_, ?_, ?_⟩
  · rw [h'.course, h.course, List.flatMap_append, List.append_assoc]
  · rw [turnsOf_append]
    exact h.conversation.append h'.conversation
  · rcases List.mem_append.1 he with he | he
    · exact h.apart event he
    · exact h'.apart event he
  · rw [h'.phase, h.phase, phasesOf_append, List.getLast?_append]
    cases (phasesOf more).getLast? <;> rfl
  · rw [callsOf_append]
    exact h.files.append h'.files

theorem exchanges {deeds : List Deed} (h : Happened client s deeds s') :
    s'.exchanges = s.exchanges ++ (turnsOf deeds).flatMap Turn.exchanges := by
  have hdeeds : ∀ deeds : List Deed, (∀ event, .other event ∈ deeds → event.exchange? = none) →
      (deeds.flatMap Deed.events).filterMap Event.exchange?
        = (turnsOf deeds).flatMap Turn.exchanges := by
    intro deeds hapart
    induction deeds with
    | nil => rfl
    | cons deed deeds ih =>
      have hrest := ih fun event he => hapart event (List.mem_cons_of_mem _ he)
      rw [List.flatMap_cons, List.filterMap_append, hrest]
      cases deed with
      | asked t =>
        have hself : Event.exchange? ∘ Exchange.event = some := rfl
        rw [turnsOf_asked, List.flatMap_cons, Deed.events, List.filterMap_map, hself,
          List.filterMap_some]
      | other event =>
        rw [turnsOf_other, Deed.events,
          List.filterMap_cons_none (hapart event List.mem_cons_self)]
        rfl
  rw [Session.exchanges, h.course, List.filterMap_append, hdeeds deeds h.apart]
  rfl

/-- The phases are those entered among the deeds. -/
theorem phases {deeds : List Deed} (h : Happened client s deeds s') :
    s'.phases = s.phases ++ phasesOf deeds := by
  have hdeeds : (deeds.flatMap Deed.events).filterMap Event.phase? = phasesOf deeds := by
    clear h
    induction deeds with
    | nil => rfl
    | cons deed deeds ih =>
      rw [List.flatMap_cons, List.filterMap_append, ih]
      cases deed with
      | asked t =>
        have hnone : (t.exchanges.map Exchange.event).filterMap Event.phase? = [] := by
          rw [List.filterMap_map, List.filterMap_eq_nil_iff]
          exact fun _ _ => rfl
        rw [phasesOf_asked, Deed.events, hnone]
        rfl
      | other event =>
        cases hp : event.phase? with
        | none =>
          rw [phasesOf_other hp, Deed.events, List.filterMap_cons_none hp]
          rfl
        | some phase =>
          have hcons : phasesOf (.other event :: deeds) = phase :: phasesOf deeds :=
            List.filterMap_cons_some (show Deed.phase? (.other event) = some phase from hp)
          rw [hcons, Deed.events, List.filterMap_cons_some hp]
          rfl
  rw [phases_eq, phases_eq, h.course, List.filterMap_append, hdeeds]

end Happened

/-! ## Rules -/

namespace Does

variable {a : Action ε α} {f : α → Action ε β} {Q R : Except ε α → List Deed → Guards → Prop}

theorem mono (h : Does client s a Q) (hQ : ∀ r ds g, Q r ds g → R r ds g) : Does client s a R := by
  obtain ⟨ds, hd, hq⟩ := h
  exact ⟨ds, hd, hQ _ _ _ hq⟩

theorem and_outcome (h : Does client s a Q) :
    Does client s a fun r ds g => Q r ds g ∧ r = s.outcome a := by
  obtain ⟨ds, hd, hq⟩ := h
  exact ⟨ds, hd, hq, rfl⟩

theorem pure {x : α} (h : R (.ok x) [] s.guards) : Does client s (Pure.pure x : Action ε α) R :=
  ⟨[], .nothing rfl rfl rfl rfl, h⟩

theorem throw {e : ε} (h : R (.error e) [] s.guards) :
    Does client s (MonadExcept.throw e : Action ε α) R :=
  ⟨[], .nothing rfl rfl rfl rfl, h⟩

/-- One action after the other. What happened in the first may be used for the second. -/
theorem bind_happened {R : Except ε β → List Deed → Guards → Prop} (ha : Does client s a Q)
    (hok : ∀ x ds s', Happened client s ds s' → Q (.ok x) ds s'.guards →
      Does client s' (f x) fun r es g => R r (ds ++ es) g)
    (herror : ∀ e ds g, Q (.error e) ds g → R (.error e) ds g) : Does client s (a >>= f) R := by
  obtain ⟨ds, hd, hq⟩ := ha
  cases ho : s.outcome a with
  | ok x =>
    rw [ho] at hq
    obtain ⟨es, he, hr⟩ := hok x ds (s.after a) hd hq
    refine ⟨ds ++ es, ?_, ?_⟩
    · rw [after_bind_of_ok f ho]
      exact hd.append he
    · rw [after_bind_of_ok f ho, outcome_bind_of_ok f ho]
      exact hr
  | error e =>
    rw [ho] at hq
    refine ⟨ds, ?_, ?_⟩
    · rw [after_bind_of_error f ho]
      exact hd
    · rw [after_bind_of_error f ho, outcome_bind_of_error f ho]
      exact herror e ds _ hq

theorem bind {R : Except ε β → List Deed → Guards → Prop} (ha : Does client s a Q)
    (hok : ∀ x ds s', Q (.ok x) ds s'.guards →
      Does client s' (f x) fun r es g => R r (ds ++ es) g)
    (herror : ∀ e ds g, Q (.error e) ds g → R (.error e) ds g) : Does client s (a >>= f) R :=
  ha.bind_happened (fun x ds s' _ => hok x ds s') herror

/-- An action that cannot fail comes before another one, which starts in the session it leaves. -/
theorem step_after {R : Except ε β → List Deed → Guards → Prop} {x : α} {ds : List Deed} {g : Guards}
    (ha : Does client s a fun r es h => r = .ok x ∧ es = ds ∧ h = g)
    (hf : Does client (s.after a) (f x) fun r es g => R r (ds ++ es) g) :
    Does client s (a >>= f) R := by
  obtain ⟨es, hd, ho, rfl, hg⟩ := ha
  obtain ⟨fs, he, hr⟩ := hf
  refine ⟨es ++ fs, ?_, ?_⟩
  · rw [after_bind_of_ok f ho]
    exact hd.append he
  · rw [after_bind_of_ok f ho, outcome_bind_of_ok f ho]
    exact hr

/-- An action that cannot fail comes before another one, for which only the guards count. -/
theorem step {R : Except ε β → List Deed → Guards → Prop} {x : α} {ds : List Deed} {g : Guards}
    (ha : Does client s a fun r es h => r = .ok x ∧ es = ds ∧ h = g)
    (hf : ∀ s', s'.guards = g → Does client s' (f x) fun r es g => R r (ds ++ es) g) :
    Does client s (a >>= f) R := by
  have hg : (s.after a).guards = g := by
    obtain ⟨_, _, _, _, hg⟩ := ha
    exact hg
  exact step_after ha (hf _ hg)

theorem get {f : Session → Action ε β} {R : Except ε β → List Deed → Guards → Prop}
    (h : Does client s (f s) R) : Does client s (MonadState.get >>= f) R := h

theorem orFail {a : Action ε α} {Q : Except ε α → List Deed → Guards → Prop} (f : ε → δ)
    (h : Does client s a Q) :
    Does client s (Session.orFail a f) fun r ds g => ∃ x, r = x.mapError f ∧ Q x ds g := by
  obtain ⟨ds, hd, hr⟩ := h
  refine ⟨ds, ?_, s.outcome a, outcome_orFail f, ?_⟩
  · rw [after_orFail]
    exact hd
  · rw [after_orFail]
    exact hr

theorem attempt {a : Action ε α} {Q : Except ε α → List Deed → Guards → Prop}
    (h : Does client s a Q) :
    Does client s (Session.attempt a : Action δ _) fun r ds g => ∃ x, r = .ok x ∧ Q x ds g := by
  obtain ⟨ds, hd, hr⟩ := h
  refine ⟨ds, ?_, s.outcome a, outcome_attempt, ?_⟩
  · rw [after_attempt]
    exact hd
  · rw [after_attempt]
    exact hr

theorem bind_attempt {a : Action ε α} {f : Except ε α → Action δ β}
    {Q : Except ε α → List Deed → Guards → Prop} {R : Except δ β → List Deed → Guards → Prop}
    (ha : Does client s a Q)
    (hf : ∀ x ds s', Q x ds s'.guards → Does client s' (f x) fun r es g => R r (ds ++ es) g) :
    Does client s (Session.attempt a >>= f) R := by
  refine ha.attempt.bind ?_ ?_
  · rintro x ds s' ⟨y, hy, hq⟩
    cases hy
    exact hf x ds s' hq
  · rintro e ds g ⟨y, hy, _⟩
    cases hy

/-- The failure of the first action is turned into another one. -/
theorem bind_orFail {a : Action ε α} {e : ε → δ} {f : α → Action δ β}
    {Q : Except ε α → List Deed → Guards → Prop} {R : Except δ β → List Deed → Guards → Prop}
    (ha : Does client s a Q)
    (hok : ∀ x ds s', Q (.ok x) ds s'.guards →
      Does client s' (f x) fun r es g => R r (ds ++ es) g)
    (herror : ∀ x ds g, Q (.error x) ds g → R (.error (e x)) ds g) :
    Does client s (Session.orFail a e >>= f) R := by
  refine (ha.orFail e).bind ?_ ?_
  · rintro x ds s' ⟨y, hy, hq⟩
    cases y with
    | ok y =>
      cases hy
      exact hok x ds s' hq
    | error y => cases hy
  · rintro x ds g ⟨y, hy, hq⟩
    cases y with
    | ok y => cases hy
    | error y =>
      cases hy
      exact herror y ds g hq

end Does

/-! ## Deeds of one event -/

/-- An action that cannot fail does these deeds, and leaves these guards. -/
abbrev JustDoes (client : Client) (s : Session) (action : Action ε Unit) (ds : List Deed)
    (g : Guards) : Prop :=
  Does client s action fun r es h => r = .ok () ∧ es = ds ∧ h = g

theorem log_does (level : Log.Level) (message : String) (fields : List (String × Log.Value)) :
    JustDoes client s (log level message fields : Action ε Unit) [] s.guards :=
  ⟨[], .nothing (course_logged s _) rfl rfl rfl, rfl, rfl, rfl⟩

theorem enter_does (phase : Phase) :
    JustDoes client s (enter phase : Action ε Unit) [.other (.entered phase)] s.guards :=
  ⟨_, .event rfl (course_recorded _ _) rfl rfl (.nil _), rfl, rfl, rfl⟩

theorem sleep_does (milliseconds : Nat) :
    JustDoes client s (sleep milliseconds : Action ε Unit) [.other (.slept milliseconds)]
      s.guards :=
  ⟨_, .event rfl (course_recorded _ _) rfl rfl (.nil _), rfl, rfl, rfl⟩

theorem offer_does (token authorization : String) :
    JustDoes client s (offer token authorization : Action ε Unit)
      [.other (.offered token authorization)] s.guards :=
  ⟨_, .event rfl (course_recorded _ _) rfl rfl (.nil _), rfl, rfl, rfl⟩

theorem withdraw_does (token : String) :
    JustDoes client s (withdraw token : Action ε Unit) [.other (.withdrawn token)] s.guards :=
  ⟨_, .event rfl (course_recorded _ _) rfl rfl (.nil _), rfl, rfl, rfl⟩

/-- A change of the session that leaves its course, its nonce, its phase and its files alone. -/
theorem modify_does {f : Session → Session} (hc : (f s).course = s.course)
    (hn : (f s).nonce = s.nonce) (hp : (f s).phase = s.phase) (hf : (f s).files = s.files) :
    JustDoes client s (modify f : Action ε Unit) [] (f s).guards :=
  ⟨[], .nothing hc hn hp hf, rfl, rfl, rfl⟩

/-- An event is recorded, and parts of the session are changed that do not count here. -/
theorem set_does {s' : Session} {event : Event} (hc : s'.course = s.course)
    (hn : s'.nonce = s.nonce) (he : event.isDone = true) (hx : event.exchange? = none)
    (hp : s'.phase = event.phase?.getD s.phase) (hf : s'.files = s.files)
    (hcall : event.call? = none) :
    JustDoes client s (set (s'.recorded event) : Action ε Unit) [.other event] s'.guards := by
  have hfiling : Filing s.files event.call?.toList s'.files := by
    rw [hcall, hf]
    exact .nil _
  refine ⟨_, .event hx ?_ hn hp hfiling, rfl, rfl, rfl⟩
  show (s'.recorded event).course = s.course ++ [event]
  rw [course_recorded, List.filter_cons_of_pos he, hc]
  rfl

/-- Whether there was a visitor is of no consequence for what is done. -/
theorem awaitServed_does (token : String) :
    Does client s (awaitServed token : Action ε Unit) fun r ds g => g = s.guards ∧ r = .ok () ∧
      ∃ seen, ds = [.other (.awaited token seen)] := by
  refine Does.get ?_
  cases takeServed? token s.served with
  | none =>
    refine (set_does (by rfl) (by rfl) (by rfl) (by rfl) (by rfl) (by rfl) (by rfl)).mono ?_
    rintro r ds g ⟨rfl, rfl, rfl⟩
    exact ⟨rfl, rfl, false, rfl⟩
  | some found =>
    refine Does.step (set_does (by rfl) (by rfl) (by rfl) (by rfl) (by rfl) (by rfl) (by rfl)) fun s' hg => ?_
    refine (log_does _ _ _).mono ?_
    rintro r ds g ⟨rfl, rfl, rfl⟩
    exact ⟨hg, rfl, true, rfl⟩

/-- The responder listens already, begins to listen, or cannot. -/
theorem listen_does (address : Endpoint) :
    Does client s (listen address) fun r ds g => g = s.guards ∧
      (r = .ok () ∧ (ds = [] ∨ ds = [.other (.listened address)])
        ∨ ∃ fault, r = .error fault ∧ ds = []) := by
  refine Does.get ?_
  split
  · exact Does.pure ⟨rfl, .inl ⟨rfl, .inl rfl⟩⟩
  · split
    · rename_i fault _
      exact Does.throw ⟨rfl, .inr ⟨fault, rfl, rfl⟩⟩
    · refine Does.step (set_does (by rfl) (by rfl) (by rfl) (by rfl) (by rfl) (by rfl) (by rfl)) fun s' hg => ?_
      refine (log_does _ _ _).mono ?_
      rintro r ds g ⟨rfl, rfl, rfl⟩
      exact ⟨hg, .inl ⟨rfl, .inr rfl⟩⟩

/-- A call on the files is made, with success or without. -/
theorem change_does (step : FileStep) :
    Does client s (change step) fun r ds g => g = s.guards ∧
      ∃ fault, r = ended fault ∧ ds = [.other (.changed step fault)] := by
  obtain ⟨fault, ho, hc, hn, hg, hp, hf⟩ := change_spec s step
  exact ⟨_, .event rfl hc hn hp (.cons hf (.nil _)), hg, fault, ho, rfl⟩

/-! ## Turns -/

theorem get_does (url : String) :
    Does client s (Client.get url) fun r ds g => g = s.guards ∧
      ∃ t : Turn, t.ask = .plain url ∧ t.result = r ∧ ds = [.asked t] := by
  obtain ⟨x, hx, ho, ha, hn⟩ := Client.send_spec s { method := .get, url := url }
  have hsend : Does client s (Client.send { method := .get, url := url }) fun r ds g =>
      r = x.outcome ∧ g = s.guards ∧ ds = [.asked ⟨.plain url, none, some x, x.result⟩] := by
    refine ⟨_, .turn (t := ⟨.plain url, none, some x, x.result⟩) ha.course ?_ ha.phase ha.files, ho,
      ha.guards, rfl⟩
    rw [hn]
    exact .direct (congrArg some hx.symm)
  refine (hsend.orFail _).mono ?_
  rintro r ds g ⟨y, rfl, rfl, rfl, rfl⟩
  exact ⟨rfl, _, rfl, rfl, rfl⟩

theorem postSigned_does (url : String) (payload : Payload) :
    Does client s (client.postSigned url payload) fun r ds g => g = s.guards ∧
      ∃ t : Turn, t.ask = .signed url payload ∧ t.result = r ∧ ds = [.asked t] := by
  obtain ⟨t, hask, hr, ha, hstep⟩ := client.postSigned_spec s url payload
  exact ⟨_, .turn ha.course hstep ha.phase ha.files, ha.guards, t, hask, hr, rfl⟩

/-- What a request for the first nonce comes to. -/
def Turn.greeting (t : Turn) : Except Failure Unit :=
  match t.result with
  | .error e => .error (.noNonce e.message)
  | .ok reply =>
    if reply.nonce? = none then .error (.noNonce (Client.withoutNonce reply)) else .ok ()

/-- A nonce is asked for. What was in the slot before serves if the reply has none. -/
theorem refreshNonce_does :
    Does client s client.refreshNonce fun r ds g => g = s.guards ∧
      ∃ t : Turn, t.ask = .nonce ∧ ds = [.asked t]
        ∧ (r = .ok () ∨ ∃ reason, r = .error (.noNonce reason))
        ∧ (s.nonce = none → r = t.greeting) := by
  obtain ⟨x, hx, ho, ha, hn⟩ := Client.send_spec s client.nonceRequest
  have hsend : Does client s (Client.send client.nonceRequest) fun r ds g =>
      g = s.guards ∧ ds = [.asked ⟨.nonce, none, some x, x.result⟩] ∧ r = x.outcome := by
    refine ⟨_, .turn (t := ⟨.nonce, none, some x, x.result⟩) ha.course ?_ ha.phase ha.files, ha.guards,
      rfl, ho⟩
    rw [hn]
    exact .direct (congrArg some hx.symm)
  refine (hsend.orFail _).bind_happened ?_ ?_
  · rintro reply ds s' hd ⟨r, hr, hg, rfl, rfl⟩
    have hreply : x.outcome = .ok reply := by
      cases h : x.outcome <;> rw [h] at hr <;> cases hr
      rfl
    have hresult : x.result = .ok reply := by
      rw [Exchange.result, hreply]
      rfl
    have hslot : s'.nonce = reply.nonce?.or s.nonce := by
      have hnonce : x.nonce? = reply.nonce? := by rw [Exchange.nonce?, hreply]
      rw [← hnonce]
      exact (Conversation.step hd.conversation).slot_of_not_isSigned rfl rfl
    refine Does.get ?_
    split
    · rename_i hempty
      refine Does.throw ⟨hg, _, rfl, rfl, .inr ⟨_, rfl⟩, fun hs => ?_⟩
      rw [hslot, hs, Option.or_none] at hempty
      rw [Turn.greeting, hresult]
      exact (if_pos hempty).symm
    · rename_i hfilled
      refine Does.pure ⟨hg, _, rfl, rfl, .inl rfl, fun hs => ?_⟩
      rw [hslot, hs, Option.or_none] at hfilled
      rw [Turn.greeting, hresult]
      exact (if_neg hfilled).symm
  · rintro f ds g ⟨r, hr, hg, rfl, rfl⟩
    cases h : x.outcome with
    | ok reply =>
      rw [h] at hr
      cases hr
    | error e =>
      rw [h] at hr
      cases hr
      refine ⟨hg, _, rfl, rfl, .inr ⟨_, rfl⟩, fun _ => ?_⟩
      rw [Turn.greeting, Exchange.result, h]
      rfl

end Acme
