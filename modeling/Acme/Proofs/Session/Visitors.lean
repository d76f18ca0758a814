import Acme.Http.Message
import Acme.Proofs.Registry
import Acme.Proofs.Session.Responder
import Mathlib.Data.List.Induction

/-!
# What visitors find after calls on the registry

Tokens are registered and removed, and visitors come in between. What a visitor finds follows from
the calls before: of those about a token the last one counts (`responder_follows_calls`).
-/

namespace Acme

/-! ## Calls -/

/-- A call on the registry. -/
inductive RegistryCall
  | add (token value : String)
  | remove (token : String)
  deriving DecidableEq, Repr

namespace RegistryCall

def token : RegistryCall → String
  | add token _ => token
  | remove token => token

def value? : RegistryCall → Option String
  | add _ value => some value
  | remove _ => none

def apply (registry : Registry) : RegistryCall → Registry
  | add token value => registry.add token value
  | remove token => registry.remove token

theorem get?_apply (registry : Registry) (call : RegistryCall) (token : String) :
    (call.apply registry).get? token =
      if call.token = token then call.value? else registry.get? token := by
  cases call with
  | add other value =>
    by_cases h : other = token
    · simp [apply, RegistryCall.token, value?, h]
    · rw [apply, Registry.get?_add_of_ne registry value (Ne.symm h)]
      exact (if_neg h).symm
  | remove other =>
    by_cases h : other = token
    · simp [apply, RegistryCall.token, value?, h]
    · rw [apply, Registry.get?_remove_of_ne registry (Ne.symm h)]
      exact (if_neg h).symm

end RegistryCall

def lastCall? (token : String) (calls : List RegistryCall) : Option RegistryCall :=
  (calls.filter fun call => call.token = token).getLast?

theorem lastCall?_snoc (token : String) (calls : List RegistryCall) (call : RegistryCall) :
    lastCall? token (calls ++ [call]) =
      if call.token = token then some call else lastCall? token calls := by
  unfold lastCall?
  by_cases h : call.token = token
  · simp [List.filter_append, h]
  · simp [List.filter_append, h]

/-- The last call about a token decides what is registered for it. -/
theorem get?_foldl (registry : Registry) (calls : List RegistryCall) (token : String) :
    (calls.foldl RegistryCall.apply registry).get? token =
      match lastCall? token calls with
      | some call => call.value?
      | none => registry.get? token := by
  induction calls using List.reverseRecOn with
  | nil => rfl
  | append_singleton calls call ih =>
    rw [List.foldl_append, lastCall?_snoc]
    simp only [List.foldl_cons, List.foldl_nil, RegistryCall.get?_apply]
    by_cases h : call.token = token
    · simp [h]
    · simp [h, ih]

theorem lastCall?_token {token : String} {calls : List RegistryCall} {call : RegistryCall}
    (h : lastCall? token calls = some call) : call.token = token := by
  have hmem := List.mem_of_getLast? h
  simpa using (List.mem_filter.1 hmem).2

/-- Where nothing was registered at first, a value is if the last call was one to add it. -/
theorem get?_eq_some_iff {calls : List RegistryCall} {token value : String} :
    (calls.foldl RegistryCall.apply []).get? token = some value ↔
      lastCall? token calls = some (.add token value) := by
  rw [get?_foldl]
  cases hlast : lastCall? token calls with
  | none => simp [Registry.get?]
  | some call =>
    have htoken := lastCall?_token hlast
    cases call with
    | add other given =>
      obtain rfl : other = token := htoken
      simp [RegistryCall.value?]
    | remove other => simp [RegistryCall.value?]

/-! ## Answers -/

/-- The request reads a token for which the value was registered last. -/
def Finds (calls : List RegistryCall) (method : Http.Method) (path value : String) : Prop :=
  method.Reads ∧ ∃ token, AsksFor path token ∧ lastCall? token calls = some (.add token value)

/-- The request asks for a token with a method that does not read. -/
def Misuses (method : Http.Method) (path : String) : Prop :=
  ¬ method.Reads ∧ ∃ token, AsksFor path token

/-- The response is the right one for a request after calls. -/
structure Answers (calls : List RegistryCall) (method : Http.Method) (path : String)
    (response : Response) : Prop where
  found : ∀ value, response = Acme.found value ↔ Finds calls method path value
  ok : response.status = 200 ↔ ∃ value, Finds calls method path value
  misused : response.status = 405 ↔ Misuses method path
  missing : response.status = 404 ↔
    ¬ Misuses method path ∧ ∀ value, ¬ Finds calls method path value
  empty : response.status ≠ 200 → response.body = "" ∧ response.contentType = none
  sent : ∀ value, Finds calls method path value →
    (Http.responseMessage method response).body =
      if method = .head then [] else Octets.ofText value

section Answers

variable {calls : List RegistryCall} {method : Http.Method} {path value : String}

theorem Finds.unique {value' : String} (h : Finds calls method path value)
    (h' : Finds calls method path value') : value = value' := by
  obtain ⟨_, token, hpath, hlast⟩ := h
  obtain ⟨_, token', hpath', hlast'⟩ := h'
  obtain rfl := hpath.unique hpath'
  rw [hlast] at hlast'
  cases hlast'
  rfl

theorem Finds.not_misuses (h : Finds calls method path value) : ¬ Misuses method path :=
  fun hmisuses => hmisuses.1 h.1

theorem Finds.answers (h : Finds calls method path value) :
    Answers calls method path (found value) where
  found other := by
    constructor
    · intro hsame
      obtain rfl : value = other := congrArg Response.body hsame
      exact h
    · intro hother
      rw [h.unique hother]
  ok := iff_of_true rfl ⟨value, h⟩
  misused := iff_of_false (by simp [found]) h.not_misuses
  missing := iff_of_false (by simp [found]) fun hneither => hneither.2 value h
  empty hstatus := absurd rfl hstatus
  sent other hother := by
    rw [← h.unique hother]
    rfl

theorem Misuses.answers (h : Misuses method path) :
    Answers calls method path { status := 405 } where
  found value := iff_of_false nofun fun hfinds => hfinds.not_misuses h
  ok := iff_of_false (by decide) fun ⟨_, hfinds⟩ => hfinds.not_misuses h
  misused := iff_of_true rfl h
  missing := iff_of_false (by decide) fun hneither => hneither.1 h
  empty _ := ⟨rfl, rfl⟩
  sent _ hfinds := absurd h hfinds.not_misuses

theorem answers_of_neither (hproper : ¬ Misuses method path)
    (hno : ∀ value, ¬ Finds calls method path value) :
    Answers calls method path { status := 404 } where
  found value := iff_of_false nofun (hno value)
  ok := iff_of_false (by decide) fun ⟨value, hfinds⟩ => hno value hfinds
  misused := iff_of_false (by decide) hproper
  missing := iff_of_true rfl ⟨hproper, hno⟩
  empty _ := ⟨rfl, rfl⟩
  sent value hfinds := absurd hfinds (hno value)

end Answers

/-- After calls on a new registry, every request has its right response. -/
theorem answers_foldl (calls : List RegistryCall) (method : Http.Method) (path : String) :
    Answers calls method path
      (Registry.respond (calls.foldl RegistryCall.apply []) method path) := by
  by_cases hasks : ∃ token, AsksFor path token
  · obtain ⟨token, hpath⟩ := hasks
    by_cases hmethod : method.Reads
    · rw [respond_of_reads hpath hmethod]
      cases hvalue : Registry.get? (calls.foldl RegistryCall.apply []) token with
      | some value =>
        have hfinds : Finds calls method path value :=
          ⟨hmethod, token, hpath, get?_eq_some_iff.1 hvalue⟩
        exact hfinds.answers
      | none =>
        apply answers_of_neither
        · exact fun hmisuses => hmisuses.1 hmethod
        · rintro value ⟨_, other, hother, hlast⟩
          obtain rfl := hother.unique hpath
          rw [get?_eq_some_iff.2 hlast] at hvalue
          cases hvalue
    · have hmisuses : Misuses method path := ⟨hmethod, token, hpath⟩
      rw [respond_of_not_reads hpath hmethod]
      exact hmisuses.answers
  · have hnone (token : String) : ¬ AsksFor path token := fun h => hasks ⟨token, h⟩
    rw [respond_of_no_token hnone]
    apply answers_of_neither
    · exact fun hmisuses => hasks hmisuses.2
    · rintro value ⟨_, token, hpath, _⟩
      exact hnone token hpath

/-! ## What the responder meets with -/

/-- A call by one of those who hold the registry, which is the same for all of them, or a visit. -/
inductive Happening
  | called (holder : Nat) (call : RegistryCall)
  | visited (visit : Visit)

def Happening.call? : Happening → Option RegistryCall
  | called _ call => some call
  | visited _ => none

def registryCalls (happenings : List Happening) : List RegistryCall :=
  happenings.filterMap Happening.call?

namespace Session

def meet (s : Session) : Happening → Session
  | .called _ (.add token value) => s.after (offer token value : Action Failure Unit)
  | .called _ (.remove token) => s.after (withdraw token : Action Failure Unit)
  | .visited visit => (s.visited visit).2

def meetAll (s : Session) (happenings : List Happening) : Session :=
  happenings.foldl meet s

/-- Visitors can connect to the responder. -/
def IsServing (s : Session) : Prop :=
  s.listening = true ∧ s.reachable = true

theorem registry_visited (s : Session) (visit : Visit) :
    (s.visited visit).2.registry = s.registry := by
  have hexposure := (visited_spec s visit).2.exposure
  exact congrArg Exposure.registry hexposure

theorem IsServing.visited {s : Session} (h : s.IsServing) (visit : Visit) :
    (s.visited visit).2.IsServing := by
  obtain ⟨_, hreceives⟩ := visited_spec s visit
  have hlistening : (s.visited visit).2.listening = s.listening :=
    congrArg Exposure.listening hreceives.exposure
  exact ⟨hlistening.trans h.1, hreceives.attends.1.trans h.2⟩

theorem IsServing.meet {s : Session} (h : s.IsServing) (happening : Happening) :
    (s.meet happening).IsServing := by
  cases happening with
  | visited visit => exact h.visited visit
  | called holder call =>
    cases call with
    | add token value => exact h
    | remove token => exact h

theorem registry_meet (s : Session) (happening : Happening) :
    (s.meet happening).registry = happening.call?.elim s.registry (RegistryCall.apply s.registry) := by
  cases happening with
  | visited visit => exact registry_visited s visit
  | called holder call =>
    cases call with
    | add token value => rfl
    | remove token => rfl

theorem IsServing.meetAll {s : Session} (h : s.IsServing) (happenings : List Happening) :
    (s.meetAll happenings).IsServing := by
  unfold Session.meetAll
  induction happenings generalizing s with
  | nil => exact h
  | cons happening rest ih => exact ih (h.meet happening)

/-- Of all that happens only the calls change the registry. -/
theorem registry_meetAll (s : Session) (happenings : List Happening) :
    (s.meetAll happenings).registry =
      (registryCalls happenings).foldl RegistryCall.apply s.registry := by
  unfold meetAll
  induction happenings generalizing s with
  | nil => rfl
  | cons happening rest ih =>
    rw [List.foldl_cons, ih, registry_meet]
    unfold registryCalls
    cases happening with
    | visited visit => rfl
    | called holder call => rfl

/-! ## Reports of visits -/

/-- A visitor is answered, and reported if and only if there was something to be found. -/
structure Welcomes (s : Session) (visit : Visit) (path : String) : Prop where
  answer : (s.visited visit).1 = some (s.registry.respond visit.method path)
  registry : (s.visited visit).2.registry = s.registry
  reported : ∀ token, AsksFor path token → (s.registry.respond visit.method path).status = 200 →
    (s.visited visit).2.served = s.served ++ [⟨token, visit.peer⟩]
  unreported : (s.registry.respond visit.method path).status ≠ 200 →
    (s.visited visit).2.served = s.served
  repeated : ∀ later, ((s.visited visit).2.visited later).1 = (s.visited later).1

theorem IsServing.answer_visited {s : Session} (h : s.IsServing) (visit : Visit) :
    (s.visited visit).1 = some (s.registry.respond visit.method (pathOfTarget visit.target)) := by
  rw [(visited_spec s visit).1, Exposure.answer, exposure, h.1, h.2]
  rfl

theorem IsServing.served_visited {s : Session} (h : s.IsServing) (visit : Visit) :
    (s.visited visit).2.served =
      if (s.registry.respond visit.method (pathOfTarget visit.target)).status = 200 then
        s.served ++ ((tokenOfPath? (pathOfTarget visit.target)).map (⟨·, visit.peer⟩)).toList
      else s.served := by
  have hserving : (s.listening && s.reachable) = true := by
    rw [h.1, h.2]
    rfl
  unfold Session.visited
  rw [if_pos hserving]
  dsimp only
  cases htoken : tokenOfPath? (pathOfTarget visit.target) with
  | none => simp
  | some token =>
    dsimp only
    split
    · rfl
    · split
      · rfl
      · rfl

theorem IsServing.welcomes {s : Session} (h : s.IsServing) (visit : Visit) :
    s.Welcomes visit (pathOfTarget visit.target) where
  answer := h.answer_visited visit
  registry := registry_visited s visit
  reported := by
    intro token hpath hstatus
    rw [h.served_visited visit, if_pos hstatus, tokenOfPath?_eq_some_iff.2 hpath]
    rfl
  unreported := by
    intro hstatus
    rw [h.served_visited visit, if_neg hstatus]
  repeated := by
    intro later
    rw [(h.visited visit).answer_visited later, h.answer_visited later, registry_visited]

end Session

open Session

/-- What the responder answers after all that has happened. -/
structure FollowsCalls (s : Session) (happenings : List Happening) : Prop where
  answers : ∀ method path, Answers (registryCalls happenings) method path
    ((s.meetAll happenings).registry.respond method path)
  visits : ∀ visit, (s.meetAll happenings).Welcomes visit (pathOfTarget visit.target)
  silent : ∀ holder call,
    ((s.meetAll happenings).meet (.called holder call)).served = (s.meetAll happenings).served

/-- A responder with a new registry answers as the calls on it have it, whoever makes them and
whichever requests come between them. -/
theorem responder_follows_calls (s : Session) (happenings : List Happening) (hserving : s.IsServing)
    (hnew : s.registry = []) : FollowsCalls s happenings where
  answers method path := by
    rw [registry_meetAll, hnew]
    exact answers_foldl (registryCalls happenings) method path
  visits visit := (hserving.meetAll happenings).welcomes visit
  silent holder call := by
    cases call with
    | add token value => rfl
    | remove token => rfl

theorem responder_follows_calls_of_two_holders :
    let s : Session := { listening := true }
    let visit : Visit := { peer := ⟨.v4 192 0 2 1, 40000⟩, target := challengePath ++ "token" }
    s.IsServing ∧ s.registry = [] ∧ FollowsCalls s
      [.called 0 (.add "token" "value"), .visited visit, .called 1 (.remove "token")] :=
  ⟨⟨rfl, rfl⟩, rfl, responder_follows_calls _ _ ⟨rfl, rfl⟩ rfl⟩

end Acme
