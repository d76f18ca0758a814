import Acme.Session

/-!
# Replaying a session

What happens in a session is a function of the answers to its requests. So a session can be carried
out with a CA whose answers are not known beforehand: it is replayed with the answers so far, what
happens before the first request without an answer is done, the request is sent, and its answer is
added to those known.

Main definition: `Session.untilRequest`.
-/

namespace Acme

/-- The events before the request with this number, counted from zero, and the request; when there
are fewer requests, all events. -/
def untilRequest : (number : Nat) → List Event → List Event × Option Http.Request
  | _, [] => ([], none)
  | 0, .exchanged request _ _ :: _ => ([], some request)
  | number + 1, .exchanged request visits outcome :: rest =>
    let (before, next) := untilRequest number rest
    (.exchanged request visits outcome :: before, next)
  | number, event :: rest =>
    let (before, next) := untilRequest number rest
    (event :: before, next)

/-- The events before the first request beyond those whose answers are known, and that request. -/
def Session.untilRequest (s : Session) (known : Nat) : List Event × Option Http.Request :=
  Acme.untilRequest known s.history

end Acme
