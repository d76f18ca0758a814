import Acme.Authorize
import Acme.Proofs.Client.Turn

/-!
# Polling a challenge

A challenge is polled until a reply decides, or the last poll is spent. A reply that tells that the
challenge is pending does not decide; any other does (`Decides`), and only one that tells that the
challenge is valid does so in favour of the domain. Nothing is asked for after that
(`poll_decides`).
-/

namespace Acme

open Session

/-! ## What a reply tells -/

/-- The name that a document gives to a state: a string, or the name of the only member of an
object, which is null. -/
def ChallengeStatus.name? : Json.Document → Option String
  | .string written => Json.decodeText? written
  | .object [(written, .null)] => Json.decodeText? written
  | _ => none

/-- The name of the state in a body that describes a challenge. -/
def Challenge.stateName? (body : Octets) : Option String := do
  match ← (← Json.Document.parse? body).fields? ["type", "uri", "token", "status", "error"] with
  | [_, _, _, some status, _] => ChallengeStatus.name? status
  | _ => none

/-- The reply is a success and its body a challenge, in the state of this name. -/
inductive Tells (name : String) : Except Http.TransportError Http.Reply → Prop
  | intro {reply : Http.Reply} {challenge : Challenge} (hsuccess : reply.isSuccess = true)
    (hbody : Challenge.ofBody? reply.body = some challenge)
    (hname : Challenge.stateName? reply.body = some name) : Tells name (.ok reply)

/-- What polling comes to when this reply to a poll decides. -/
inductive Decides (domain : String) :
    Except Http.TransportError Http.Reply → Except Failure Unit → Prop
  | valid {reply : Except Http.TransportError Http.Reply} (h : Tells "valid" reply) :
    Decides domain reply (.ok ())
  | unanswered (e : Http.TransportError) :
    Decides domain (.error e) (.error (.challengeStatus domain e.message))
  | refused {reply : Http.Reply} (hrefused : reply.isSuccess = false) :
    Decides domain (.ok reply) (.error (.challengeStatus domain
      ("status " ++ toString reply.status ++ " " ++
        ((Problem.ofBody? reply.body).getD {}).text)))
  | unreadable {reply : Http.Reply} (hsuccess : reply.isSuccess = true)
    (hbody : Challenge.ofBody? reply.body = none) :
    Decides domain (.ok reply)
      (.error (.challengeStatus domain "malformed challenge: not a challenge object"))
  | stateless {reply : Http.Reply} {challenge : Challenge} (hsuccess : reply.isSuccess = true)
    (hbody : Challenge.ofBody? reply.body = some challenge)
    (hname : Challenge.stateName? reply.body = none) :
    Decides domain (.ok reply) (.error (.challengeStatus domain "response has no status"))
  | turnedDown {reply : Http.Reply} {challenge : Challenge} {name : String}
    (hsuccess : reply.isSuccess = true) (hbody : Challenge.ofBody? reply.body = some challenge)
    (hname : Challenge.stateName? reply.body = some name) (hpending : name ≠ "pending")
    (hvalid : name ≠ "valid") :
    Decides domain (.ok reply) (.error (.challengeInvalid domain
      (match challenge.error with
        | some problem => problem.text
        | none => "challenge status is " ++ (ChallengeStatus.ofName name).name)))

/-! ## The state in a body -/

namespace ChallengeStatus

theorem ofName_eq_pending {name : String} : ofName name = .pending ↔ name = "pending" := by
  rw [ofName]
  split
  · simp_all
  · split <;> [skip; split] <;> simp_all

theorem ofName_eq_valid {name : String} : ofName name = .valid ↔ name = "valid" := by
  rw [ofName]
  split
  · simp_all
  · split <;> [skip; split] <;> simp_all

theorem ofDocument?_eq (v : Json.Document) : ofDocument? v = (name? v).map ofName := by
  fun_cases ofDocument? v with
  | case1 written => rfl
  | case2 written => rfl
  | case3 v hstring hobject =>
    have hnone : name? v = none := by
      fun_cases name? v with
      | case1 written => exact (hstring written rfl).elim
      | case2 written => exact (hobject written rfl).elim
      | case3 => rfl
    rw [hnone, Option.map_none]

theorem optional?_eq {part : Option Json.Document} {status : Option ChallengeStatus}
    (h : Json.Document.optional? ofDocument? part = some status) :
    status = (part.bind name?).map ofName := by
  rw [Json.Document.optional?.eq_def] at h
  split at h
  · cases h
    rfl
  · cases h
    rfl
  · obtain ⟨status, hv, rfl⟩ := Option.map_eq_some_iff.1 h
    rw [Option.bind_some, ← ofDocument?_eq, hv]

end ChallengeStatus

/-- The state of a challenge is the one that its body names. -/
theorem Challenge.status_of_body {body : Octets} {challenge : Challenge}
    (h : Challenge.ofBody? body = some challenge) :
    challenge.status = (Challenge.stateName? body).map ChallengeStatus.ofName := by
  rw [ofBody?, Option.bind_eq_bind, Option.bind_eq_some_iff] at h
  obtain ⟨v, hv, h⟩ := h
  rw [ofDocument?, Option.bind_eq_bind, Option.bind_eq_some_iff] at h
  obtain ⟨fields, hfields, h⟩ := h
  rw [stateName?, hv, Option.bind_eq_bind, Option.bind_some, hfields, Option.bind_eq_bind,
    Option.bind_some]
  split at h
  · rename_i status error
    simp only [Option.bind_eq_bind, Option.bind_eq_some_iff, Option.pure_def,
      Option.some.injEq] at h
    obtain ⟨_, _, _, _, _, _, state, hstate, _, _, rfl⟩ := h
    have hname := ChallengeStatus.optional?_eq hstate
    cases status with
    | none => exact hname
    | some part => exact hname
  · cases h

/-! ## What a reply decides -/

theorem Tells.name_eq {name name' : String} {reply : Except Http.TransportError Http.Reply}
    (h : Tells name reply) (h' : Tells name' reply) : name = name' := by
  cases h with
  | intro _ _ hname =>
    cases h' with
    | intro _ _ hname' => exact Option.some.inj (hname.symm.trans hname')

namespace Decides

variable {domain : String} {reply : Except Http.TransportError Http.Reply}
  {result : Except Failure Unit}

theorem tells_valid (h : Decides domain reply (.ok ())) : Tells "valid" reply := by
  cases h with
  | valid h => exact h

theorem ne_timeout (h : Decides domain reply result) (attempts : Nat) :
    result ≠ .error (.challengeTimeout domain attempts) := by
  rintro rfl
  cases h

/-- A reply that decides against the domain names no state, or another one than these two. -/
theorem ne_of_tells {failure : Failure} (h : Decides domain reply (.error failure)) {name : String}
    (ht : Tells name reply) : name ≠ "pending" ∧ name ≠ "valid" := by
  cases ht with
  | intro hsuccess hbody hname =>
    cases h with
    | refused hrefused => exact absurd (hrefused.symm.trans hsuccess) Bool.false_ne_true
    | unreadable _ hnone => exact nomatch hnone.symm.trans hbody
    | stateless _ _ hnone => exact nomatch hnone.symm.trans hname
    | turnedDown _ _ hsome hpending hvalid =>
      cases hsome.symm.trans hname
      exact ⟨hpending, hvalid⟩

/-- A reply that decides does not tell that the challenge is pending. -/
theorem not_pending (h : Decides domain reply result) : ¬ Tells "pending" reply := by
  intro hpending
  cases result with
  | ok _ => exact absurd (h.tells_valid.name_eq hpending) (by decide)
  | error failure => exact (h.ne_of_tells hpending).1 rfl

theorem eq_ok_of_valid (h : Decides domain reply result) (hvalid : Tells "valid" reply) :
    result = .ok () := by
  cases result with
  | ok _ => rfl
  | error failure => exact absurd rfl (h.ne_of_tells hvalid).2

theorem unique {result' : Except Failure Unit} (h : Decides domain reply result)
    (h' : Decides domain reply result') : result = result' := by
  cases h with
  | valid hvalid => exact (h'.eq_ok_of_valid hvalid).symm
  | unanswered e =>
    cases h' with
    | valid hvalid => cases hvalid
    | unanswered => rfl
  | refused hrefused =>
    cases h' with
    | valid hvalid =>
      cases hvalid with
      | intro hsuccess => exact absurd (hrefused.symm.trans hsuccess) Bool.false_ne_true
    | refused => rfl
    | unreadable hsuccess => exact absurd (hrefused.symm.trans hsuccess) Bool.false_ne_true
    | stateless hsuccess => exact absurd (hrefused.symm.trans hsuccess) Bool.false_ne_true
    | turnedDown hsuccess => exact absurd (hrefused.symm.trans hsuccess) Bool.false_ne_true
  | unreadable hsuccess hnone =>
    cases h' with
    | valid hvalid =>
      cases hvalid with
      | intro _ hbody => exact nomatch hnone.symm.trans hbody
    | refused hrefused => exact absurd (hrefused.symm.trans hsuccess) Bool.false_ne_true
    | unreadable => rfl
    | stateless _ hbody => exact nomatch hnone.symm.trans hbody
    | turnedDown _ hbody => exact nomatch hnone.symm.trans hbody
  | stateless hsuccess hbody hnone =>
    cases h' with
    | valid hvalid =>
      cases hvalid with
      | intro _ _ hname => exact nomatch hnone.symm.trans hname
    | refused hrefused => exact absurd (hrefused.symm.trans hsuccess) Bool.false_ne_true
    | unreadable _ hbody' => exact nomatch hbody'.symm.trans hbody
    | stateless => rfl
    | turnedDown _ _ hname => exact nomatch hnone.symm.trans hname
  | turnedDown hsuccess hbody hname _ hvalid =>
    cases h' with
    | valid htells =>
      cases htells with
      | intro _ _ hname' => exact absurd (Option.some.inj (hname.symm.trans hname')) hvalid
    | refused hrefused => exact absurd (hrefused.symm.trans hsuccess) Bool.false_ne_true
    | unreadable _ hnone => exact nomatch hnone.symm.trans hbody
    | stateless _ _ hnone => exact nomatch hnone.symm.trans hname
    | turnedDown _ hbody' hname' =>
      cases hbody.symm.trans hbody'
      cases hname.symm.trans hname'
      rfl

end Decides

/-- What is made of a reply to a poll. -/
theorem decides_ofReply (domain : String) (reply : Http.Reply) :
    match PollVerdict.ofReply domain reply with
    | .pending => Tells "pending" (.ok reply)
    | .valid => Decides domain (.ok reply) (.ok ())
    | .failed failure => Decides domain (.ok reply) (.error failure) := by
  rw [PollVerdict.ofReply]
  cases hsuccess : reply.isSuccess with
  | false => exact .refused hsuccess
  | true =>
    cases hbody : Challenge.ofBody? reply.body with
    | none => exact .unreadable hsuccess hbody
    | some challenge =>
      have hstatus := Challenge.status_of_body hbody
      cases hname : Challenge.stateName? reply.body with
      | none =>
        rw [hname, Option.map_none] at hstatus
        simp only [hstatus]
        exact .stateless hsuccess hbody hname
      | some name =>
        rw [hname, Option.map_some] at hstatus
        have hturned (hp : ChallengeStatus.ofName name ≠ .pending)
            (hv : ChallengeStatus.ofName name ≠ .valid) : Decides domain (.ok reply) _ :=
          .turnedDown hsuccess hbody hname (hp ∘ ChallengeStatus.ofName_eq_pending.2)
            (hv ∘ ChallengeStatus.ofName_eq_valid.2)
        cases hstate : ChallengeStatus.ofName name with
        | pending =>
          rw [hstate] at hstatus
          rw [ChallengeStatus.ofName_eq_pending.1 hstate] at hname
          simp only [hstatus]
          exact .intro hsuccess hbody hname
        | valid =>
          rw [hstate] at hstatus
          rw [ChallengeStatus.ofName_eq_valid.1 hstate] at hname
          simp only [hstatus]
          exact .valid (.intro hsuccess hbody hname)
        | invalid =>
          rw [hstate] at hstatus hturned
          simp only [hstatus]
          exact hturned nofun nofun
        | unknown =>
          rw [hstate] at hstatus hturned
          simp only [hstatus]
          exact hturned nofun nofun

/-! ## Replies in their order -/

namespace Session

/-- The reply to a request when so many replies have been given before, or why there is none. -/
def replyAfter (s : Session) (count : Nat) (request : Http.Request) :
    Except Http.TransportError Http.Reply :=
  match s.answers[count]? with
  | some answer => answer.outcome
  | none => .error (s.afterwards request)

/-- One request was sent between two sessions, and the next reply was taken for it. -/
structure Takes (s : Session) (x : Exchange) (s' : Session) : Prop where
  course : s'.course = s.course ++ [x.event]
  answers : s'.answers = s.answers.tail
  afterwards : s'.afterwards = s.afterwards
  outcome : x.outcome = s.replyAfter 0 x.request

theorem Takes.replyAfter {s s' : Session} {x : Exchange} (h : Takes s x s') (count : Nat)
    (request : Http.Request) : s'.replyAfter count request = s.replyAfter (count + 1) request := by
  rw [Session.replyAfter, Session.replyAfter, h.answers, h.afterwards, List.getElem?_tail]

theorem exchange_takes (s : Session) (request : Http.Request) :
    ∃ x : Exchange, x.request = request ∧ s.outcome (exchange request) = x.outcome
      ∧ Takes s x (s.after (exchange request)) := by
  obtain ⟨served, entries, visits, hafter⟩ := exists_after_exchange s request
  have hanswers : (s.nextAnswer request).2.answers = s.answers.tail := by
    rw [nextAnswer]
    cases h : s.answers with
    | nil => exact h
    | cons answer rest => rfl
  have hafterwards : (s.nextAnswer request).2.afterwards = s.afterwards := by
    rw [nextAnswer]
    split <;> rfl
  have hreply : (s.nextAnswer request).1.outcome = s.replyAfter 0 request := by
    rw [nextAnswer, replyAfter]
    cases s.answers <;> rfl
  refine ⟨⟨request, visits, _⟩, rfl, outcome_exchange s request, ?_⟩
  rw [hafter]
  refine ⟨?_, hanswers, hafterwards, hreply⟩
  rw [course_recorded, (alike_noticed _ _ _).course, (alike_nextAnswer s request).course]
  rfl

end Session

theorem Client.send_takes (s : Session) (request : Http.Request) :
    ∃ x : Exchange, x.request = request ∧ s.outcome (send request) = x.outcome
      ∧ Takes s x (s.after (send request)) := by
  obtain ⟨x, hx, ho, ht⟩ := exchange_takes s request
  refine ⟨x, hx, ?_⟩
  cases hr : s.outcome (exchange request) with
  | error e =>
    rw [send, outcome_bind_of_error _ hr, after_bind_of_error _ hr, ← ho, hr]
    exact ⟨rfl, ht⟩
  | ok reply =>
    obtain ⟨entries, hs⟩ := send_of_reply hr
    rw [outcome_of_ok hs, after_of_ok hs, ← ho, hr]
    exact ⟨rfl, (alike_noticed _ _ _).course.trans ht.course, ht.answers, ht.afterwards,
      ht.outcome⟩

theorem Client.get_takes (s : Session) (url : String) :
    ∃ x : Exchange, x.request = { method := .get, url := url }
      ∧ s.outcome (Client.get url) = x.result ∧ Takes s x (s.after (Client.get url)) := by
  obtain ⟨x, hx, ho, ht⟩ := send_takes s { method := .get, url := url }
  refine ⟨x, hx, ?_, ?_⟩
  · rw [Client.get, outcome_orFail, ho]
    rfl
  · rw [Client.get, after_orFail]
    exact ht

/-! ## How polling ends -/

/-- How polling ends, with so many polls left, when it is known which replies they will get: how
many polls are made, and what they come to. -/
inductive Concludes (domain : String) (maxPolls : Nat)
    (replies : Nat → Except Http.TransportError Http.Reply) (remaining : Nat) :
    Nat → Except Failure Unit → Prop
  | spent (h : ∀ i < remaining, Tells "pending" (replies i)) :
    Concludes domain maxPolls replies remaining remaining
      (.error (.challengeTimeout domain maxPolls))
  | decided {k : Nat} {result : Except Failure Unit} (hk : k < remaining)
    (h : ∀ i < k, Tells "pending" (replies i)) (hd : Decides domain (replies k) result) :
    Concludes domain maxPolls replies remaining (k + 1) result

namespace Concludes

variable {domain : String} {maxPolls remaining count : Nat}
  {replies : Nat → Except Http.TransportError Http.Reply} {result : Except Failure Unit}

/-- One more poll was made before, and found the challenge pending. -/
theorem cons (hpending : Tells "pending" (replies 0))
    (h : Concludes domain maxPolls (fun i => replies (i + 1)) remaining count result) :
    Concludes domain maxPolls replies (remaining + 1) (count + 1) result := by
  have hall {k : Nat} (h : ∀ i < k, Tells "pending" (replies (i + 1))) :
      ∀ i < k + 1, Tells "pending" (replies i) := by
    intro i hi
    cases i with
    | zero => exact hpending
    | succ i => exact h i (Nat.lt_of_succ_lt_succ hi)
  cases h with
  | spent h => exact .spent (hall h)
  | decided hk h hd => exact .decided (Nat.succ_lt_succ hk) (hall h) hd

theorem count_le (h : Concludes domain maxPolls replies remaining count result) :
    count ≤ remaining := by
  cases h with
  | spent => exact Nat.le_refl _
  | decided hk => exact hk

theorem count_pos (h : Concludes domain maxPolls replies (remaining + 1) count result) :
    0 < count := by
  cases h <;> exact Nat.succ_pos _

/-- The first reply that does not find the challenge pending decides, and is the last one. -/
theorem of_not_pending (h : Concludes domain maxPolls replies remaining count result) {k : Nat}
    (hk : k < remaining) (hbefore : ∀ i < k, Tells "pending" (replies i))
    (hfirst : ¬ Tells "pending" (replies k)) :
    count = k + 1 ∧ Decides domain (replies k) result := by
  cases h with
  | spent h => exact absurd (h k hk) hfirst
  | @decided j _ hj h hd =>
    rcases Nat.lt_trichotomy j k with hlt | rfl | hgt
    · exact absurd (hbefore j hlt) hd.not_pending
    · exact ⟨rfl, hd⟩
    · exact absurd (h k hgt) hfirst

theorem of_pending (h : Concludes domain maxPolls replies remaining count result)
    (hall : ∀ i < remaining, Tells "pending" (replies i)) :
    count = remaining ∧ result = .error (.challengeTimeout domain maxPolls) := by
  cases h with
  | spent => exact ⟨rfl, rfl⟩
  | decided hk _ hd => exact absurd (hall _ hk) hd.not_pending

theorem ok_iff (h : Concludes domain maxPolls replies remaining count result) :
    result = .ok () ↔ ∃ k < remaining, (∀ i < k, Tells "pending" (replies i))
      ∧ Tells "valid" (replies k) := by
  constructor
  · rintro rfl
    cases h with
    | decided hk h hd => exact ⟨_, hk, h, hd.tells_valid⟩
  · rintro ⟨k, hk, hbefore, hvalid⟩
    have hfirst : ¬ Tells "pending" (replies k) := fun hpending =>
      absurd (hpending.name_eq hvalid) (by decide)
    exact (h.of_not_pending hk hbefore hfirst).2.eq_ok_of_valid hvalid

theorem timeout_iff (h : Concludes domain maxPolls replies remaining count result) :
    result = .error (.challengeTimeout domain maxPolls)
      ↔ ∀ i < remaining, Tells "pending" (replies i) := by
  refine ⟨?_, fun hall => (h.of_pending hall).2⟩
  intro htimeout
  cases h with
  | spent h => exact h
  | decided _ _ hd => exact absurd htimeout (hd.ne_timeout maxPolls)

/-- The replies alone determine how polling ends. -/
theorem unique {count' : Nat} {result' : Except Failure Unit}
    (h : Concludes domain maxPolls replies remaining count result)
    (h' : Concludes domain maxPolls replies remaining count' result') :
    count = count' ∧ result = result' := by
  cases h with
  | spent hall =>
    obtain ⟨hcount, hresult⟩ := h'.of_pending hall
    exact ⟨hcount.symm, hresult.symm⟩
  | decided hk hbefore hd =>
    obtain ⟨hcount, hd'⟩ := h'.of_not_pending hk hbefore hd.not_pending
    exact ⟨hcount.symm, hd.unique hd'⟩

end Concludes

/-! ## Polling -/

/-- The request that a challenge is polled with. -/
def PendingChallenge.query (challenge : PendingChallenge) : Http.Request :=
  { method := .get, url := challenge.uri }

/-- Between two sessions a challenge was polled, with a pause between one poll and the next, and the
replies were taken in their order. -/
structure Polled (policy : PollPolicy) (challenge : PendingChallenge) (s : Session)
    (xs : List Exchange) (s' : Session) : Prop where
  course : s'.course = s.course ++ (xs.map Exchange.event).intersperse (.slept policy.intervalMs)
  answers : s'.answers = s.answers.drop xs.length
  requests : ∀ x ∈ xs, x.request = challenge.query
  replies : xs.map Exchange.outcome
    = (List.range xs.length).map fun i => s.replyAfter i challenge.query

namespace Polled

variable {policy : PollPolicy} {challenge : PendingChallenge} {s t t' s' : Session} {x y : Exchange}
  {xs : List Exchange}

theorem nil (s : Session) : Polled policy challenge s [] s :=
  ⟨(List.append_nil _).symm, rfl, nofun, rfl⟩

theorem single (hx : x.request = challenge.query) (ht : Takes s x t)
    (hcourse : s'.course = t.course) (hanswers : s'.answers = t.answers) : Polled policy challenge s [x] s' := by
  refine ⟨hcourse.trans ht.course, ?_, ?_, ?_⟩
  · rw [hanswers, ht.answers]
    exact List.drop_one.symm
  · rintro y hy
    rw [List.mem_singleton.1 hy, hx]
  · rw [List.map_singleton, ht.outcome, hx]
    rfl

theorem cons (hx : x.request = challenge.query) (ht : Takes s x t)
    (h : Polled policy challenge (t.recorded (.slept policy.intervalMs)) (y :: xs) s') :
    Polled policy challenge s (x :: y :: xs) s' := by
  refine ⟨?_, ?_, ?_, ?_⟩
  · rw [h.course, course_recorded, ht.course, List.map_cons, List.map_cons, List.map_cons,
      List.intersperse_cons_cons, List.append_assoc, List.append_assoc]
    rfl
  · rw [h.answers]
    show t.answers.drop (y :: xs).length = _
    rw [ht.answers, List.drop_tail]
    rfl
  · intro z hz
    rcases List.mem_cons.1 hz with rfl | hz
    · exact hx
    · exact h.requests z hz
  · rw [List.map_cons, h.replies, List.length_cons (a := x), List.range_succ_eq_map, List.map_cons,
      List.map_map, ht.outcome, hx]
    exact congrArg _ (List.map_congr_left fun i _ => ht.replyAfter i challenge.query)

end Polled

theorem pollTimes_polls (policy : PollPolicy) (challenge : PendingChallenge) (remaining : Nat)
    (s : Session) :
    ∃ xs, Polled policy challenge s xs (s.after (pollTimes policy challenge remaining))
      ∧ Concludes challenge.domain policy.maxPolls (s.replyAfter · challenge.query) remaining
        xs.length (s.outcome (pollTimes policy challenge remaining)) := by
  induction remaining generalizing s with
  | zero => exact ⟨[], .nil s, .spent nofun⟩
  | succ remaining ih =>
    obtain ⟨x, hx, hget, htakes⟩ := Client.get_takes s challenge.uri
    have hreply : x.outcome = s.replyAfter 0 challenge.query := by
      rw [htakes.outcome, hx]
      rfl
    -- Whatever decides ends the polling, with this one poll made.
    have hlast {result : Except Failure Unit} {s' : Session}
        (hd : Decides challenge.domain x.outcome result)
        (hcourse : s'.course = (s.after (Client.get challenge.uri)).course)
        (hanswers : s'.answers = (s.after (Client.get challenge.uri)).answers) :
        ∃ xs, Polled policy challenge s xs s' ∧ Concludes challenge.domain policy.maxPolls
          (s.replyAfter · challenge.query) (remaining + 1) xs.length result := by
      rw [hreply] at hd
      exact ⟨[x], .single hx htakes hcourse hanswers, .decided (Nat.succ_pos _) nofun hd⟩
    rw [Exchange.result] at hget
    cases ho : x.outcome with
    | error e =>
      have hfail : s.outcome (orFail (Client.get challenge.uri)
          (RequestError.toFailure (.challengeStatus challenge.domain)))
          = .error (.challengeStatus challenge.domain e.message) := by
        rw [outcome_orFail, hget, ho]
        rfl
      rw [pollTimes, outcome_bind_of_error _ hfail, after_bind_of_error _ hfail, after_orFail]
      exact hlast (ho ▸ .unanswered e) rfl rfl
    | ok reply =>
      have hok : s.outcome (orFail (Client.get challenge.uri)
          (RequestError.toFailure (.challengeStatus challenge.domain))) = .ok reply := by
        rw [outcome_orFail, hget, ho]
        rfl
      have hverdict := decides_ofReply challenge.domain reply
      rw [pollTimes, outcome_bind_of_ok _ hok, after_bind_of_ok _ hok, after_orFail]
      cases hv : PollVerdict.ofReply challenge.domain reply with
      | valid =>
        rw [hv] at hverdict
        exact hlast (ho ▸ hverdict) (course_logged _ _) rfl
      | failed failure =>
        rw [hv] at hverdict
        exact hlast (ho ▸ hverdict) rfl rfl
      | pending =>
        rw [hv, ← ho, hreply] at hverdict
        cases remaining with
        | zero => exact ⟨[x], .single hx htakes rfl rfl, .cons hverdict (.spent nofun)⟩
        | succ remaining =>
          obtain ⟨ys, hpolled, hconcludes⟩ :=
            ih ((s.after (Client.get challenge.uri)).recorded (.slept policy.intervalMs))
          have hshift : (fun i => ((s.after (Client.get challenge.uri)).recorded
              (.slept policy.intervalMs)).replyAfter i challenge.query)
              = fun i => s.replyAfter (i + 1) challenge.query :=
            funext fun i => htakes.replyAfter i challenge.query
          rw [hshift] at hconcludes
          cases ys with
          | nil => exact absurd hconcludes.count_pos (Nat.lt_irrefl 0)
          | cons y ys =>
            exact ⟨x :: y :: ys, .cons hx htakes hpolled, .cons hverdict hconcludes⟩

/-- What polling a challenge comes to, and with which requests. -/
structure PollingDecided (policy : PollPolicy) (challenge : PendingChallenge) (s : Session)
    (xs : List Exchange) : Prop where
  polled : Polled policy challenge s xs (s.after (poll policy challenge))
  bound : xs.length ≤ policy.maxPolls
  valid : s.outcome (poll policy challenge) = .ok ()
    ↔ ∃ k < policy.maxPolls, (∀ i < k, Tells "pending" (s.replyAfter i challenge.query))
      ∧ Tells "valid" (s.replyAfter k challenge.query)
  timeout : s.outcome (poll policy challenge)
      = .error (.challengeTimeout challenge.domain policy.maxPolls)
    ↔ ∀ i < policy.maxPolls, Tells "pending" (s.replyAfter i challenge.query)
  spent : (∀ i < policy.maxPolls, Tells "pending" (s.replyAfter i challenge.query)) →
    xs.length = policy.maxPolls
  decided : ∀ k < policy.maxPolls, (∀ i < k, Tells "pending" (s.replyAfter i challenge.query)) →
    ¬ Tells "pending" (s.replyAfter k challenge.query) →
    xs.length = k + 1
      ∧ Decides challenge.domain (s.replyAfter k challenge.query) (s.outcome (poll policy challenge))

/-- Polling is decided by the first reply that does not find the challenge pending. -/
theorem poll_decides (policy : PollPolicy) (challenge : PendingChallenge) (s : Session) :
    ∃ xs, PollingDecided policy challenge s xs := by
  obtain ⟨xs, hpolled, hconcludes⟩ := pollTimes_polls policy challenge policy.maxPolls s
  exact ⟨xs, {
    polled := hpolled
    bound := hconcludes.count_le
    valid := hconcludes.ok_iff
    timeout := hconcludes.timeout_iff
    spent := fun hall => (hconcludes.of_pending hall).1
    decided := fun _ hk hbefore hfirst => hconcludes.of_not_pending hk hbefore hfirst }⟩

end Acme
