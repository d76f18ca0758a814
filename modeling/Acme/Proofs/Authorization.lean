import Acme.Authorize
import Acme.Proofs.Registry

/-!
# Replies to a request for an authorization

A reply offers a challenge that is accepted (`ofReply_eq_challenge_iff`), says that the account is
not authorized (`ofReply_eq_unauthorized_iff`), or is of no use.
-/

namespace Acme

/-! ## Challenges that are accepted -/

/-- The entry of an authorization has all that is needed to be served over HTTP. -/
def Challenge.IsComplete (entry : Challenge) : Prop :=
  entry.kind = Challenge.http01Kind ∧ entry.uri ≠ none ∧ entry.token ≠ none

/-- The challenge is that of the first complete entry. -/
def FirstComplete (entries : List Challenge) (c : PendingChallenge) : Prop :=
  ∃ before entry after, entries = before ++ entry :: after
    ∧ entry.kind = Challenge.http01Kind ∧ entry.uri = some c.uri ∧ entry.token = some c.token
    ∧ ∀ earlier ∈ before, ¬ earlier.IsComplete

/-- A reply offers a challenge for a domain. -/
structure Accepts (domain : String) (reply : Http.Reply) (c : PendingChallenge) : Prop where
  domain : c.domain = domain
  success : 200 ≤ reply.status ∧ reply.status < 300
  plain : ∀ document problem, Json.Document.parse? reply.body = some document →
    Problem.ofDocument? document = some problem → problem.kind = ""
  entry : ∃ authorization, Authorization.ofBody? reply.body = some authorization
    ∧ FirstComplete authorization.challenges c
  nonempty : c.token ≠ ""
  characters : ∀ character ∈ c.token.toList,
    character.isAlphanum = true ∨ character = '-' ∨ character = '_'

theorem isComplete_iff {entry : Challenge} :
    (entry.kind == Challenge.http01Kind && entry.uri.isSome && entry.token.isSome) = true
      ↔ entry.IsComplete := by
  unfold Challenge.IsComplete
  rw [Bool.and_eq_true, Bool.and_eq_true, beq_iff_eq, Option.isSome_iff_ne_none,
    Option.isSome_iff_ne_none, and_assoc]

theorem http01?_eq_some_iff {authorization : Authorization} {entry : Challenge} :
    authorization.http01? = some entry ↔ entry.IsComplete ∧ ∃ before after,
      authorization.challenges = before ++ entry :: after
        ∧ ∀ earlier ∈ before, ¬ earlier.IsComplete := by
  unfold Authorization.http01?
  rw [List.find?_eq_some_iff_append, isComplete_iff]
  simp only [Bool.not_eq_true', ← Bool.not_eq_true, isComplete_iff]

theorem firstComplete_iff {authorization : Authorization} {c : PendingChallenge} :
    FirstComplete authorization.challenges c ↔ ∃ entry, authorization.http01? = some entry
      ∧ entry.uri = some c.uri ∧ entry.token = some c.token := by
  constructor
  · rintro ⟨before, entry, after, hsplit, hkind, huri, htoken, hearlier⟩
    refine ⟨entry, http01?_eq_some_iff.2 ⟨⟨hkind, ?_, ?_⟩, before, after, hsplit, hearlier⟩, huri,
      htoken⟩
    · simp [huri]
    · simp [htoken]
  · rintro ⟨entry, hfirst, huri, htoken⟩
    obtain ⟨⟨hkind, _, _⟩, before, after, hsplit, hearlier⟩ := http01?_eq_some_iff.1 hfirst
    exact ⟨before, entry, after, hsplit, hkind, huri, htoken, hearlier⟩

theorem ofBody?_eq_none_iff {body : Octets} : Problem.ofBody? body = none ↔
    ∀ document problem, Json.Document.parse? body = some document →
      Problem.ofDocument? document = some problem → problem.kind = "" := by
  unfold Problem.ofBody?
  constructor
  · intro h document problem hparse hproblem
    by_contra hkind
    simp [hparse, hproblem, hkind, guard] at h
  · intro h
    cases hparse : Json.Document.parse? body with
    | none => rfl
    | some document =>
      cases hproblem : Problem.ofDocument? document with
      | none => simp [hproblem]
      | some problem => simp [hproblem, guard, h document problem hparse hproblem]

theorem isSuccess_iff {reply : Http.Reply} :
    reply.isSuccess = true ↔ 200 ≤ reply.status ∧ reply.status < 300 := by
  unfold Http.Reply.isSuccess
  simp

/-- The reply is a challenge exactly if it offers one that is accepted. -/
theorem ofReply_eq_challenge_iff {domain : String} {reply : Http.Reply} {c : PendingChallenge} :
    AuthorizationReply.ofReply domain reply = .ok (.challenge c) ↔ Accepts domain reply c := by
  constructor
  · intro h
    unfold AuthorizationReply.ofReply at h
    split at h
    · split at h <;> cases h
    · rename_i hproblem
      split at h
      · cases h
      · rename_i hsuccess
        split at h
        · cases h
        · rename_i authorization hbody
          split at h
          · rename_i uri token hfirst
            split at h
            · rename_i htoken
              cases h
              obtain ⟨hnonempty, hcharacters⟩ := isToken_iff.1 htoken
              exact ⟨rfl, isSuccess_iff.1 (by simpa using hsuccess),
                ofBody?_eq_none_iff.1 hproblem,
                ⟨authorization, hbody, firstComplete_iff.2 ⟨_, hfirst, rfl, rfl⟩⟩, hnonempty,
                hcharacters⟩
            · cases h
          · cases h
  · rintro ⟨rfl, hsuccess, hplain, ⟨authorization, hbody, hfirst⟩, hnonempty, hcharacters⟩
    obtain ⟨⟨kind, uri, token, status, error⟩, hentry, rfl, rfl⟩ := firstComplete_iff.1 hfirst
    unfold AuthorizationReply.ofReply
    rw [ofBody?_eq_none_iff.2 hplain, isSuccess_iff.2 hsuccess, hbody]
    dsimp only
    rw [hentry]
    simp [isToken_iff.2 ⟨hnonempty, hcharacters⟩]

theorem Accepts.isToken {domain : String} {reply : Http.Reply} {c : PendingChallenge}
    (h : Accepts domain reply c) : isToken c.token = true :=
  isToken_iff.2 ⟨h.nonempty, h.characters⟩

/-! ## Refusals -/

/-- The problem says that the account is not authorized. -/
def Problem.SaysUnauthorized (problem : Problem) : Prop :=
  ":unauthorized".toList <:+ problem.kind.toList

theorem ofReply_eq_unauthorized_iff {domain : String} {reply : Http.Reply} {problem : Problem} :
    AuthorizationReply.ofReply domain reply = .ok (.unauthorized problem) ↔
      Problem.ofBody? reply.body = some problem ∧ problem.SaysUnauthorized := by
  have hsuffix (problem : Problem) : problem.isUnauthorized = true ↔ problem.SaysUnauthorized :=
    List.isSuffixOf_iff_suffix
  unfold AuthorizationReply.ofReply
  cases hproblem : Problem.ofBody? reply.body with
  | some other =>
    dsimp only
    by_cases hother : other.isUnauthorized = true
    · rw [if_pos hother]
      constructor
      · intro h
        cases h
        exact ⟨rfl, (hsuffix _).1 hother⟩
      · rintro ⟨h, _⟩
        cases h
        rfl
    · rw [if_neg hother]
      refine iff_of_false (fun h => by cases h) ?_
      rintro ⟨h, hunauthorized⟩
      cases h
      exact hother ((hsuffix _).2 hunauthorized)
  | none =>
    refine iff_of_false ?_ (fun h => by cases h.1)
    dsimp only
    repeat' split
    all_goals
      intro h
      cases h

end Acme
