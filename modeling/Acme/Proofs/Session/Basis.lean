import Acme.Proofs.Session.Composed
import Acme.Proofs.Session.Course

/-!
# What a session rests on

What a session does next rests on the replies of the CA, on the files, on whether the responder can
be made to listen, and on what is remembered for the next step (`Basis`). Visitors of the responder,
those of them that nobody has taken notice of, what is registered, and whether the responder listens
already have no part in it: every part of a run goes on in the same way in two sessions with the
same basis (`Composed.inStep`).
-/

namespace Acme

open Session

/-! ## Dealings -/

/-- What an event is to the CA and to the files. What visitors did is left out, and when the
responder began to listen. -/
def Event.dealing? : Event → Option Event
  | .exchanged request _ outcome => some (.exchanged request [] outcome)
  | .awaited token _ => some (.awaited token false)
  | .listened _ => none
  | event => some event

namespace Session

/-- What happened with the CA and the files, in order. -/
def dealings (s : Session) : List Event :=
  s.course.filterMap Event.dealing?

theorem dealings_eq_of_course {s s' : Session} (h : s'.course = s.course) :
    s'.dealings = s.dealings := by
  rw [dealings, h, dealings]

theorem dealings_recorded {s s' : Session} {event : Event} (h : s'.course = s.course)
    (hdone : event.isDone = true) :
    (s'.recorded event).dealings = s.dealings ++ event.dealing?.toList := by
  rw [dealings, course_recorded, h, List.filterMap_append, List.filter_cons_of_pos hdone, dealings]
  cases hd : event.dealing? with
  | none => rw [List.filter_nil, List.filterMap_cons_none hd]; rfl
  | some dealing => rw [List.filter_nil, List.filterMap_cons_some hd]; rfl

theorem requests_of_dealings (s : Session) :
    s.requests = (s.dealings.filterMap Event.exchange?).map Exchange.request := by
  rw [requests_eq, exchanges, dealings, List.map_filterMap, List.filterMap_filterMap,
    List.map_filterMap]
  congr
  funext event
  cases event <;> rfl

theorem phases_of_dealings (s : Session) : s.phases = s.dealings.filterMap Event.phase? := by
  rw [phases_eq, dealings, List.filterMap_filterMap]
  congr
  funext event
  cases event <;> rfl

end Session

/-! ## The basis of a session -/

/-- What is outside of a session: the CA, the files and the network. -/
structure World where
  outcomes : List (Except Http.TransportError Http.Reply)
  afterwards : Http.Request → Http.TransportError
  files : FileSystem
  refusal : FileStep → Option SystemFault
  /-- Why the responder cannot be made to listen, if it cannot. -/
  hindrance : Option SystemFault

/-- What the next steps of a session rest on. -/
structure Basis where
  world : World
  nonce : Option String
  phase : Phase
  guards : Guards
  domains : DomainList

def World.reply (world : World) (request : Http.Request) :
    Except Http.TransportError Http.Reply :=
  match world.outcomes with
  | [] => .error (world.afterwards request)
  | outcome :: _ => outcome

namespace Session

def world (s : Session) : World where
  outcomes := s.answers.map Answer.outcome
  afterwards := s.afterwards
  files := s.files
  refusal := s.refusal
  hindrance := if s.listening then none else s.listenFault

def basis (s : Session) : Basis where
  world := s.world
  nonce := s.nonce
  phase := s.phase
  guards := s.guards
  domains := s.domains

theorem known_of_basis {s s' : Session} (h : s.basis = s'.basis) : s.known = s'.known :=
  congrArg (fun b : Basis => (b.nonce, b.guards, b.world.files)) h

/-- The answer that is taken, up to its visits, and what is left. -/
theorem basis_nextAnswer (s : Session) (request : Http.Request) :
    (s.nextAnswer request).1.outcome = s.basis.world.reply request
      ∧ (s.nextAnswer request).2.basis
        = { s.basis with world := { s.world with outcomes := s.world.outcomes.tail } } := by
  rw [nextAnswer, basis, basis, world, world, World.reply]
  cases ha : s.answers with
  | nil => exact ⟨rfl, by rw [ha]; rfl⟩
  | cons answer rest => exact ⟨rfl, rfl⟩

theorem basis_exchange (s : Session) (request : Http.Request) :
    (s.after (exchange request)).basis
      = { s.basis with world := { s.world with outcomes := s.world.outcomes.tail } } := by
  obtain ⟨_, _, _, hs⟩ := exists_after_exchange s request
  rw [hs]
  exact (basis_nextAnswer s request).2

/-- The responder is told to listen: it does already, or begins to, or cannot. -/
theorem listen_spec (s : Session) (address : Endpoint) :
    s.outcome (listen address) = ended s.world.hindrance
      ∧ (s.after (listen address)).basis = s.basis
      ∧ (s.after (listen address)).dealings = s.dealings := by
  by_cases hl : s.listening = true
  · have hrun := listen_of_listening address hl
    rw [outcome_of_ok hrun, after_of_ok hrun, world, if_pos hl]
    exact ⟨rfl, rfl, rfl⟩
  · cases hf : s.listenFault with
    | some fault =>
      have hrun := listen_of_fault address hl hf
      rw [outcome_of_error hrun, after_of_error hrun, world, if_neg hl, hf]
      exact ⟨rfl, rfl, rfl⟩
    | none =>
      have hrun := listen_of_free address hl hf
      rw [outcome_of_ok hrun, after_of_ok hrun]
      refine ⟨?_, ?_, ?_⟩
      · rw [world, if_neg hl, hf, ended]
      · rw [basis, basis, world, world, if_neg hl, hf]
        rfl
      · have hset : ({ s with listening := true } : Session).course = s.course := rfl
        rw [dealings_eq_of_course (course_logged _ _), dealings_recorded hset rfl]
        exact List.append_nil _

/-- Whether a visitor of the token was noticed is of no consequence. -/
theorem awaitServed_spec {ε : Type} (s : Session) (token : String) :
    s.outcome (awaitServed token : Action ε Unit) = .ok ()
      ∧ (s.after (awaitServed token : Action ε Unit)).basis = s.basis
      ∧ (s.after (awaitServed token : Action ε Unit)).dealings
        = s.dealings ++ [.awaited token false] := by
  have hrun : ∃ seen served entries, (awaitServed token : Action ε Unit) s
      = .ok () ((s.recorded (.awaited token seen)).noticed served entries) := by
    have hget : s.outcome (get : Action ε Session) = .ok s := rfl
    rw [awaitServed, bind_of_ok _ hget]
    cases takeServed? token s.served with
    | some found => exact ⟨true, found.2, [_], rfl⟩
    | none => exact ⟨false, [], [], rfl⟩
  obtain ⟨_, _, _, hs⟩ := hrun
  rw [outcome_of_ok hs, after_of_ok hs]
  refine ⟨rfl, rfl, ?_⟩
  rw [dealings_eq_of_course (alike_noticed _ _ _).course]
  exact dealings_recorded rfl rfl

end Session

/-! ## Actions in two sessions -/

/-- The action has the same outcome in both sessions, deals in the same way meanwhile, and leaves
the same basis. -/
structure InStep {ε α : Type} (a : Action ε α) (s s' : Session) : Prop where
  outcome : s.outcome a = s'.outcome a
  basis : (s.after a).basis = (s'.after a).basis
  dealings : ∃ added, (s.after a).dealings = s.dealings ++ added
    ∧ (s'.after a).dealings = s'.dealings ++ added

namespace InStep

variable {ε δ α β : Type} {s s' : Session}

/-! ### Rules -/

theorem bind {a : Action ε α} {f : α → Action ε β} (ha : InStep a s s')
    (hf : ∀ x, InStep (f x) (s.after a) (s'.after a)) : InStep (a >>= f) s s' := by
  obtain ⟨added, hs, hs'⟩ := ha.dealings
  cases ho : s.outcome a with
  | error e =>
    have ho' : s'.outcome a = .error e := ha.outcome.symm.trans ho
    refine ⟨?_, ?_, ?_⟩
    · rw [outcome_bind_of_error f ho, outcome_bind_of_error f ho']
    · rw [after_bind_of_error f ho, after_bind_of_error f ho']
      exact ha.basis
    · rw [after_bind_of_error f ho, after_bind_of_error f ho']
      exact ha.dealings
  | ok x =>
    have ho' : s'.outcome a = .ok x := ha.outcome.symm.trans ho
    obtain ⟨more, ht, ht'⟩ := (hf x).dealings
    refine ⟨?_, ?_, added ++ more, ?_, ?_⟩
    · rw [outcome_bind_of_ok f ho, outcome_bind_of_ok f ho']
      exact (hf x).outcome
    · rw [after_bind_of_ok f ho, after_bind_of_ok f ho']
      exact (hf x).basis
    · rw [after_bind_of_ok f ho, ht, hs, List.append_assoc]
    · rw [after_bind_of_ok f ho', ht', hs', List.append_assoc]

theorem orFail {a : Action ε α} (f : ε → δ) (ha : InStep a s s') :
    InStep (Session.orFail a f) s s' := by
  refine ⟨?_, ?_, ?_⟩
  · rw [outcome_orFail, outcome_orFail, ha.outcome]
  · rw [after_orFail, after_orFail]
    exact ha.basis
  · rw [after_orFail, after_orFail]
    exact ha.dealings

theorem attempt {a : Action ε α} (ha : InStep a s s') :
    InStep (Session.attempt a : Action δ _) s s' := by
  refine ⟨?_, ?_, ?_⟩
  · rw [outcome_attempt, outcome_attempt, ha.outcome]
  · rw [after_attempt, after_attempt]
    exact ha.basis
  · rw [after_attempt, after_attempt]
    exact ha.dealings

/-- The same may be looked at in both sessions. -/
theorem look {f : Session → Action ε α} (hf : InStep (f s) s s') (h : f s = f s') :
    InStep (get >>= f) s s' := by
  have hrun : s'.outcome (get >>= f) = s'.outcome (f s)
      ∧ s'.after (get >>= f) = s'.after (f s) := by
    rw [h]
    exact ⟨rfl, rfl⟩
  obtain ⟨added, hs, hs'⟩ := hf.dealings
  refine ⟨?_, ?_, added, hs, ?_⟩
  · rw [hrun.1]
    exact hf.outcome
  · rw [hrun.2]
    exact hf.basis
  · rw [hrun.2]
    exact hs'

/-- A step whose outcome, dealings and changes to the basis rest on the basis alone. -/
theorem of_basis {a : Action ε α} (h : s.basis = s'.basis) (result : Basis → Except ε α)
    (next : Basis → Basis) (added : Basis → List Event)
    (ho : ∀ t : Session, t.outcome a = result t.basis)
    (hb : ∀ t : Session, (t.after a).basis = next t.basis)
    (hd : ∀ t : Session, (t.after a).dealings = t.dealings ++ added t.basis) : InStep a s s' := by
  refine ⟨?_, ?_, added s.basis, hd s, ?_⟩
  · rw [ho, ho, h]
  · rw [hb, hb, h]
  · rw [hd, h]

/-! ### Steps -/

variable (h : s.basis = s'.basis)

include h

theorem pure (x : α) : InStep (Pure.pure x : Action ε α) s s' :=
  ⟨rfl, h, [], (List.append_nil _).symm, (List.append_nil _).symm⟩

theorem throw (e : ε) : InStep (MonadExcept.throw e : Action ε α) s s' :=
  ⟨rfl, h, [], (List.append_nil _).symm, (List.append_nil _).symm⟩

/-- A step that changes the session and deals with nobody. -/
theorem modify {f : Session → Session} (next : Basis → Basis)
    (hb : ∀ t : Session, (f t).basis = next t.basis)
    (hcourse : ∀ t : Session, (f t).course = t.course) :
    InStep (MonadState.modifyGet fun t => ((), f t) : Action ε Unit) s s' :=
  .of_basis h (fun _ => .ok ()) next (fun _ => []) (fun _ => rfl) hb fun t =>
    (dealings_eq_of_course (hcourse t)).trans (List.append_nil _).symm

/-- A step that changes the session, and records an event. -/
theorem recorded (f : Session → Session) (next : Basis → Basis) {event : Event}
    (hb : ∀ t : Session, (f t).basis = next t.basis)
    (hcourse : ∀ t : Session, (f t).course = t.course) (hdone : event.isDone = true) :
    InStep (MonadState.modifyGet fun t => ((), (f t).recorded event) : Action ε Unit) s s' :=
  .of_basis h (fun _ => .ok ()) next (fun _ => event.dealing?.toList) (fun _ => rfl) hb fun t =>
    dealings_recorded (hcourse t) hdone

theorem log (level : Log.Level) (message : String) (fields : List (String × Log.Value)) :
    InStep (log level message fields : Action ε Unit) s s' :=
  .modify h id (fun _ => rfl) fun t => course_logged t _

theorem enter (phase : Phase) : InStep (enter phase : Action ε Unit) s s' :=
  .recorded h (fun t => { t with phase := phase }) (fun b => { b with phase := phase })
    (fun _ => rfl) (fun _ => rfl) rfl

theorem sleep (milliseconds : Nat) : InStep (sleep milliseconds : Action ε Unit) s s' :=
  .recorded h id id (fun _ => rfl) (fun _ => rfl) rfl

theorem offer (token authorization : String) :
    InStep (offer token authorization : Action ε Unit) s s' :=
  .recorded h (fun t => { t with registry := t.registry.add token authorization }) id
    (fun _ => rfl) (fun _ => rfl) rfl

theorem withdraw (token : String) : InStep (withdraw token : Action ε Unit) s s' :=
  .recorded h (fun t => { t with registry := t.registry.remove token }) id
    (fun _ => rfl) (fun _ => rfl) rfl

theorem listen (address : Endpoint) : InStep (listen address) s s' := by
  refine .of_basis h (fun b => ended b.world.hindrance) id (fun _ => [])
    (fun t => (listen_spec t address).1) (fun t => (listen_spec t address).2.1) fun t => ?_
  rw [(listen_spec t address).2.2, List.append_nil]

theorem awaitServed (token : String) : InStep (awaitServed token : Action ε Unit) s s' :=
  .of_basis h (fun _ => .ok ()) id (fun _ => [.awaited token false])
    (fun t => (awaitServed_spec t token).1) (fun t => (awaitServed_spec t token).2.1)
    fun t => (awaitServed_spec t token).2.2

theorem exchange (request : Http.Request) : InStep (exchange request) s s' := by
  refine .of_basis h (fun b => b.world.reply request)
    (fun b => { b with world := { b.world with outcomes := b.world.outcomes.tail } })
    (fun b => [.exchanged request [] (b.world.reply request)])
    (fun t => ?_) (basis_exchange · request) fun t => ?_
  · rw [outcome_exchange, (basis_nextAnswer t request).1]
  · obtain ⟨_, _, _, ht⟩ := exists_after_exchange t request
    rw [ht, dealings_recorded ((alike_nextAnswer t request).trans (alike_noticed _ _ _)).course rfl,
      (basis_nextAnswer t request).1]
    rfl

theorem change (step : FileStep) : InStep (change step) s s' := by
  let changed (b : Basis) : Option SystemFault × FileSystem :=
    changing b.world.refusal b.world.files step
  refine .of_basis h (fun b => ended (changed b).1)
    (fun b => { b with world := { b.world with files := (changed b).2 } })
    (fun b => [.changed step (changed b).1]) (outcome_change · step) (fun t => ?_) fun t => ?_
  · rw [after_change]
    rfl
  · rw [after_change]
    exact dealings_recorded rfl rfl

end InStep

/-! ## Parts of a run -/

/-- Every part of a run goes on in the same way in two sessions with the same basis. -/
theorem Composed.inStep {ε α : Type} {moving : Bool} {a : Action ε α} (ha : Composed moving a)
    {s s' : Session} (h : s.basis = s'.basis) : InStep a s s' := by
  induction ha generalizing s s' with
  | pure x => exact .pure h x
  | throw e => exact .throw h e
  | bind _ _ iha ihf => exact (iha h).bind fun x => ihf x (iha h).basis
  | orFail f _ ih => exact (ih h).orFail f
  | attempt _ ih => exact (ih h).attempt
  | look _ hknown ih => exact (ih s h).look (hknown s s' (known_of_basis h))
  | log level message fields => exact .log h level message fields
  | enter phase => exact .enter h phase
  | sleep milliseconds => exact .sleep h milliseconds
  | keep nonce =>
    exact .modify h (fun b => { b with nonce := nonce }) (fun _ => rfl) fun _ => rfl
  | mark f =>
    exact .modify h (fun b => { b with guards := f b.guards }) (fun _ => rfl) fun _ => rfl
  | move _ f =>
    exact .modify h (fun b => { b with domains := f b.domains }) (fun _ => rfl) fun _ => rfl
  | exchange request => exact .exchange h request
  | change step => exact .change h step
  | serve address f token authorization =>
    have hlisten := (InStep.listen h address).orFail f
    exact hlisten.bind fun _ => .offer hlisten.basis token authorization
  | withdraw token => exact .withdraw h token
  | awaitServed token => exact .awaitServed h token

end Acme
