import Acme.Client
import Acme.Proofs.Session.Outcome

/-!
# The course of a session

The course of a session is its history without the log. A request adds one exchange to it
(`exchange_spec`), and what visitors of the responder do meanwhile adds nothing.
-/

namespace Acme

/-! ## Exchanges -/

/-- A request that was sent, and what came of it. -/
structure Exchange where
  request : Http.Request
  visits : List (Visit × Option Response)
  outcome : Except Http.TransportError Http.Reply

namespace Exchange

def event (x : Exchange) : Event :=
  .exchanged x.request x.visits x.outcome

/-- The reply, or why there is none. -/
def result (x : Exchange) : Except RequestError Http.Reply :=
  x.outcome.mapError .transport

def nonce? (x : Exchange) : Option String :=
  match x.outcome with
  | .ok reply => reply.nonce?
  | .error _ => none

theorem result_eq_ok_iff {x : Exchange} {reply : Http.Reply} :
    x.result = .ok reply ↔ x.outcome = .ok reply := by
  unfold result
  cases x.outcome with
  | error fault => exact iff_of_false nofun nofun
  | ok other =>
    constructor <;> rintro ⟨⟩ <;> rfl

theorem result_eq_error_iff {x : Exchange} {e : RequestError} :
    x.result = .error e ↔ ∃ fault, x.outcome = .error fault ∧ e = .transport fault := by
  unfold result
  cases x.outcome with
  | ok reply => exact iff_of_false nofun nofun
  | error other =>
    constructor
    · intro h
      cases h
      exact ⟨other, rfl, rfl⟩
    · rintro ⟨fault, h, rfl⟩
      cases h
      rfl

end Exchange

def Event.exchange? : Event → Option Exchange
  | .exchanged request visits outcome => some ⟨request, visits, outcome⟩
  | _ => none

def Event.phase? : Event → Option Phase
  | .entered phase => some phase
  | _ => none

/-- The call on the files that an event tells, with its fault. -/
def Event.call? : Event → Option (FileStep × Option SystemFault)
  | .changed step fault => some (step, fault)
  | _ => none

def Event.isDone : Event → Bool
  | .logged _ => false
  | _ => true

namespace Session

def course (s : Session) : List Event :=
  s.history.filter Event.isDone

def exchanges (s : Session) : List Exchange :=
  s.course.filterMap Event.exchange?

theorem requests_eq (s : Session) : s.requests = s.exchanges.map Exchange.request := by
  rw [Session.requests, Session.exchanges, Session.course, List.filterMap_filter,
    List.map_filterMap]
  congr
  funext event
  cases event <;> rfl

theorem phases_eq (s : Session) : s.phases = s.course.filterMap Event.phase? := by
  rw [Session.phases, Session.course, List.filterMap_filter]
  congr
  funext event
  cases event <;> rfl

/-! ## Recording -/

theorem course_recorded (s : Session) (event : Event) :
    (s.recorded event).course = s.course ++ [event].filter Event.isDone := by
  rw [course, course, history, history, recorded, List.reverse_cons, List.filter_append]

@[simp]
theorem course_logged (s : Session) (entry : Log.Entry) :
    (s.recorded (.logged entry)).course = s.course := by
  rw [course_recorded]
  exact List.append_nil _

/-! ## Visitors -/

/-- Two sessions differ at most in the log, in the answers to come and in the visitors to be
noticed. -/
structure Alike (s s' : Session) : Prop where
  course : s'.course = s.course
  nonce : s'.nonce = s.nonce
  guards : s'.guards = s.guards
  phase : s'.phase = s.phase
  files : s'.files = s.files

theorem Alike.refl (s : Session) : Alike s s := ⟨rfl, rfl, rfl, rfl, rfl⟩

theorem Alike.trans {s s' s'' : Session} (h : Alike s s') (h' : Alike s' s'') : Alike s s'' :=
  ⟨h'.course.trans h.course, h'.nonce.trans h.nonce, h'.guards.trans h.guards,
    h'.phase.trans h.phase, h'.files.trans h.files⟩

theorem alike_logged (s : Session) (entry : Log.Entry) : Alike s (s.recorded (.logged entry)) :=
  ⟨course_logged s entry, rfl, rfl, rfl, rfl⟩

/-- The session when visitors have been noticed and logged. -/
def noticed (s : Session) (served : List Served) (entries : List Log.Entry) : Session :=
  { s with served := served, trace := entries.map Event.logged ++ s.trace }

theorem alike_noticed (s : Session) (served : List Served) (entries : List Log.Entry) :
    Alike s (s.noticed served entries) := by
  induction entries with
  | nil => exact ⟨rfl, rfl, rfl, rfl, rfl⟩
  | cons entry entries ih => exact ih.trans (alike_logged (s.noticed served entries) entry)

theorem exists_visited (s : Session) (visit : Visit) :
    ∃ served entries, (s.visited visit).2 = s.noticed served entries := by
  have hself : ∃ served entries, s = s.noticed served entries := ⟨s.served, [], rfl⟩
  rw [visited]
  split
  · dsimp only
    split
    · exact hself
    · split
      · exact ⟨_, [_], rfl⟩
      · split
        · exact ⟨s.served, [_], rfl⟩
        · exact hself
  · exact hself

/-- Visitors are at most noticed and logged. -/
theorem exists_visitedBy (s : Session) (visits : List Visit) :
    ∃ served entries, (s.visitedBy visits).2 = s.noticed served entries := by
  induction visits generalizing s with
  | nil => exact ⟨s.served, [], rfl⟩
  | cons visit visits ih =>
    obtain ⟨served, entries, hfirst⟩ := exists_visited s visit
    obtain ⟨served', entries', hrest⟩ := ih (s.visited visit).2
    refine ⟨served', entries' ++ entries, hrest.trans ?_⟩
    rw [hfirst, noticed, noticed, noticed, List.map_append, List.append_assoc]

theorem alike_nextAnswer (s : Session) (request : Http.Request) :
    Alike s (s.nextAnswer request).2 := by
  rw [nextAnswer]
  split
  · exact Alike.refl s
  · exact ⟨rfl, rfl, rfl, rfl, rfl⟩

/-! ## The responder -/

theorem listen_of_listening {s : Session} (address : Endpoint) (h : s.listening = true) :
    listen address s = .ok () s := by
  show (if s.listening = true then _ else _ : Action SystemFault Unit) s = _
  rw [if_pos h]
  rfl

theorem listen_of_fault {s : Session} (address : Endpoint) {fault : SystemFault}
    (h : ¬ s.listening = true) (hf : s.listenFault = some fault) :
    listen address s = .error fault s := by
  show (if s.listening = true then _ else _ : Action SystemFault Unit) s = _
  rw [if_neg h, hf]
  rfl

theorem listen_of_free {s : Session} (address : Endpoint) (h : ¬ s.listening = true)
    (hf : s.listenFault = none) :
    listen address s = .ok () (({ s with listening := true }.recorded (.listened address)).recorded
      (.logged ⟨.info, "HTTP-01 challenge responder listening",
        [("address", .shown address.render)]⟩)) := by
  show (if s.listening = true then _ else _ : Action SystemFault Unit) s = _
  rw [if_neg h, hf]
  rfl

/-- Once the responder has been told to listen, it does. -/
theorem listening_of_listen {s : Session} {address : Endpoint}
    (h : s.outcome (listen address) = .ok ()) : (s.after (listen address)).listening = true := by
  by_cases hl : s.listening = true
  · rw [after_of_ok (listen_of_listening address hl)]
    exact hl
  · cases hf : s.listenFault with
    | some fault =>
      rw [outcome_of_error (listen_of_fault address hl hf)] at h
      cases h
    | none =>
      rw [after_of_ok (listen_of_free address hl hf)]
      rfl

/-! ## Requests -/

/-- Between two sessions there were these exchanges and nothing else that counts. -/
structure Adds (s : Session) (xs : List Exchange) (s' : Session) : Prop where
  course : s'.course = s.course ++ xs.map Exchange.event
  guards : s'.guards = s.guards
  phase : s'.phase = s.phase
  files : s'.files = s.files

theorem Alike.adds {s s' : Session} (h : Alike s s') : Adds s [] s' :=
  ⟨h.course.trans (List.append_nil _).symm, h.guards, h.phase, h.files⟩

theorem Adds.trans {s s' s'' : Session} {xs ys : List Exchange} (h : Adds s xs s')
    (h' : Adds s' ys s'') : Adds s (xs ++ ys) s'' := by
  refine ⟨?_, h'.guards.trans h.guards, h'.phase.trans h.phase, h'.files.trans h.files⟩
  rw [h'.course, h.course, List.map_append, List.append_assoc]

theorem outcome_exchange (s : Session) (request : Http.Request) :
    s.outcome (exchange request) = (s.nextAnswer request).1.outcome := by
  rw [outcome, exchange]
  dsimp only
  cases (s.nextAnswer request).1.outcome <;> rfl

theorem after_exchange (s : Session) (request : Http.Request) :
    s.after (exchange request) =
      let answer := (s.nextAnswer request).1
      let visited := (s.nextAnswer request).2.visitedBy answer.visits
      visited.2.recorded (.exchanged request visited.1 answer.outcome) := by
  rw [after, exchange]
  dsimp only
  cases (s.nextAnswer request).1.outcome <;> rfl

/-- After a request the answer is taken, visitors are at most noticed, and the exchange is
recorded. -/
theorem exists_after_exchange (s : Session) (request : Http.Request) :
    ∃ served entries visits, s.after (exchange request)
      = ((s.nextAnswer request).2.noticed served entries).recorded
          (.exchanged request visits (s.nextAnswer request).1.outcome) := by
  let answer := (s.nextAnswer request).1
  let visited := (s.nextAnswer request).2.visitedBy answer.visits
  obtain ⟨served, entries, hvisited⟩ := exists_visitedBy (s.nextAnswer request).2 answer.visits
  refine ⟨served, entries, visited.1, ?_⟩
  rw [← hvisited]
  exact after_exchange s request

/-- A request adds its exchange to the course, and its outcome is that of the exchange. -/
theorem exchange_spec (s : Session) (request : Http.Request) :
    ∃ x : Exchange, x.request = request ∧ s.outcome (exchange request) = x.outcome
      ∧ Adds s [x] (s.after (exchange request))
      ∧ (s.after (exchange request)).nonce = s.nonce := by
  obtain ⟨served, entries, visits, hafter⟩ := exists_after_exchange s request
  let x : Exchange := ⟨request, visits, (s.nextAnswer request).1.outcome⟩
  have alike : Alike s ((s.nextAnswer request).2.noticed served entries) :=
    (alike_nextAnswer s request).trans (alike_noticed _ _ _)
  rw [hafter]
  refine ⟨x, rfl, outcome_exchange s request, ⟨?_, alike.guards, alike.phase, alike.files⟩,
    alike.nonce⟩
  rw [course_recorded, alike.course]
  rfl

/-! ## Files -/

def ended : Option SystemFault → Except SystemFault Unit
  | none => .ok ()
  | some fault => .error fault

/-- What a call on the files makes of them. A call that fails may leave some of its effect. -/
inductive Leaves (step : FileStep) (files : FileSystem) : Option SystemFault → FileSystem → Prop
  | done {files' : FileSystem} (h : step.run files = .ok () files') : Leaves step files none files'
  | failed {fault : SystemFault} {files' : FileSystem} (h : step.run files = .error fault files') :
    Leaves step files (some fault) files'
  | refused {fault : SystemFault} : Leaves step files (some fault) files

/-- How a call on the files ends, and the files that it leaves. -/
def changing (refusal : FileStep → Option SystemFault) (files : FileSystem) (step : FileStep) :
    Option SystemFault × FileSystem :=
  match refusal step with
  | some fault => (some fault, files)
  | none =>
    match step.run files with
    | .ok () files => (none, files)
    | .error fault files => (some fault, files)

theorem outcome_change (s : Session) (step : FileStep) :
    s.outcome (change step) = ended (changing s.refusal s.files step).1 := by
  rw [outcome, change, changing]
  cases s.refusal step with
  | some fault => rfl
  | none => dsimp only; cases step.run s.files <;> rfl

theorem after_change (s : Session) (step : FileStep) :
    s.after (change step) =
      let changed := changing s.refusal s.files step
      { s with files := changed.2 }.recorded (.changed step changed.1) := by
  rw [after, change, changing]
  cases s.refusal step with
  | some fault => rfl
  | none => dsimp only; cases step.run s.files <;> rfl

theorem leaves_changing (refusal : FileStep → Option SystemFault) (files : FileSystem)
    (step : FileStep) :
    Leaves step files (changing refusal files step).1 (changing refusal files step).2 := by
  rw [changing]
  cases refusal step with
  | some fault => exact .refused
  | none =>
    cases hf : step.run files with
    | ok u files => exact .done hf
    | error fault files => exact .failed hf

/-- A call on the files adds one event to the course, which tells how the call ended. -/
theorem change_spec (s : Session) (step : FileStep) :
    ∃ fault, s.outcome (change step) = ended fault
      ∧ (s.after (change step)).course = s.course ++ [.changed step fault]
      ∧ (s.after (change step)).nonce = s.nonce
      ∧ (s.after (change step)).guards = s.guards
      ∧ (s.after (change step)).phase = s.phase
      ∧ Leaves step s.files fault (s.after (change step)).files := by
  refine ⟨(changing s.refusal s.files step).1, outcome_change s step, ?_⟩
  rw [after_change]
  exact ⟨course_recorded _ _, rfl, rfl, rfl, leaves_changing _ _ _⟩

end Session

end Acme
