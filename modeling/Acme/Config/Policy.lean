/-!
# Polling policy

How often and at which pace the state of a challenge is asked for.

Main definition: `PollPolicy`.
-/

namespace Acme

/-- The timing of polls. -/
structure PollPolicy where
  /-- The pause between two polls, in milliseconds. -/
  intervalMs : Nat := 5000
  /-- The polls after which a pending challenge is given up. -/
  maxPolls : Nat := 60
  /-- How long to wait for a visitor of the token before the first poll, in milliseconds. -/
  servedGraceMs : Nat := 10000
  deriving DecidableEq, Repr

end Acme
