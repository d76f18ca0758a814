import Acme.Json.Document

/-!
# Problem documents

What a CA says about a request that it refuses: a type, words for people, and the status.

Main definitions: `Problem.ofBody?`, `Problem.isUnauthorized` and `Problem.text`.
-/

namespace Acme

/-- A problem document. -/
structure Problem where
  kind : String := ""
  detail : String := ""
  status : Option UInt16 := none
  deriving DecidableEq, Repr, Inhabited

namespace Problem

/-- A status: a number of at most 16 bits. -/
def status? (v : Json.Document) : Option UInt16 := do
  let n ← v.natural?
  guard (n ≤ 65535)
  return UInt16.ofNat n

def ofDocument? (v : Json.Document) : Option Problem := do
  match ← v.fields? ["type", "detail", "status"] with
  | [kind, detail, status] =>
    return {
      kind := ← Json.Document.withDefault? "" Json.Document.text? kind
      detail := ← Json.Document.withDefault? "" Json.Document.text? detail
      status := ← Json.Document.optional? status? status }
  | _ => none

/-- The problem in the body of a response; a problem without a type is none. -/
def ofBody? (body : Octets) : Option Problem := do
  let problem ← ofDocument? (← Json.Document.parse? body)
  guard (problem.kind ≠ "")
  return problem

/-- The CA does not accept the account, or not yet. -/
def isUnauthorized (problem : Problem) : Bool :=
  ":unauthorized".toList.isSuffixOf problem.kind.toList

/-- The type, and the words after a colon if there are any. -/
def text (problem : Problem) : String :=
  if problem.detail = "" then problem.kind else problem.kind ++ ": " ++ problem.detail

end Problem

end Acme
