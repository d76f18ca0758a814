import Acme.Association
import Acme.Http

/-!
# Challenge registry and its answers

The responder serves key authorizations below a fixed path. The registry says which token has which
key authorization at the moment, and the answer to a request is a function of the method, the
target and the registry.

Main definitions: `Registry` with `get?`, `add` and `remove`, `tokenOfPath?`, `pathOfTarget` and
`Registry.respond`.
-/

namespace Acme

/-! ## Paths -/

def challengePath : String := "/.well-known/acme-challenge/"

/-- What is left of a list after its first part. -/
def dropFirst? {α : Type} [DecidableEq α] : (first whole : List α) → Option (List α)
  | [], whole => some whole
  | _ :: _, [] => none
  | a :: first, b :: whole => if a = b then dropFirst? first whole else none

/-- The token that a path asks for: one segment that is not empty. -/
def tokenOfPath? (path : String) : Option String := do
  let token ← dropFirst? challengePath.toList path.toList
  guard (token ≠ [] ∧ '/' ∉ token)
  return String.ofList token

/-- The characters of the scheme of an absolute target. -/
def isSchemeCharacter (c : Char) : Bool :=
  c.isAlphanum || c == '+' || c == '-' || c == '.'

/-- The rest of an absolute target after its scheme and authority; empty when that is all. -/
def afterAuthority? (target : List Char) : Option (List Char) :=
  match target with
  | ':' :: '/' :: '/' :: rest => some (rest.dropWhile fun c => c != '/' && c != '?')
  | c :: rest => if isSchemeCharacter c then afterAuthority? rest else none
  | [] => none

/-- The path of a request target, without query and fragment. -/
def pathOfTarget (target : String) : String :=
  let cs := target.toList.takeWhile (· != '#')
  let afterHost := (afterAuthority? cs).getD cs
  let path := afterHost.takeWhile (· != '?')
  String.ofList (if path.isEmpty then ['/'] else path)

/-! ## The registry -/

/-- Tokens and their key authorizations; of several entries for a token the first counts. -/
abbrev Registry := List (String × String)

namespace Registry

def get? (registry : Registry) (token : String) : Option String :=
  registry.lookup token

def remove (registry : Registry) (token : String) : Registry :=
  registry.filter fun e => e.1 ≠ token

/-- Serves `authorization` for a token from now on. -/
def add (registry : Registry) (token authorization : String) : Registry :=
  (token, authorization) :: registry.remove token

@[simp]
theorem get?_add_self (registry : Registry) (token authorization : String) :
    (registry.add token authorization).get? token = some authorization := by
  simp [get?, add]

@[simp]
theorem get?_remove_self (registry : Registry) (token : String) :
    (registry.remove token).get? token = none :=
  lookup_filter_self token registry

theorem get?_remove_of_ne (registry : Registry) {token other : String} (h : other ≠ token) :
    (registry.remove token).get? other = registry.get? other :=
  lookup_filter_of_ne h registry

theorem get?_add_of_ne (registry : Registry) {token other : String} (authorization : String)
    (h : other ≠ token) : (registry.add token authorization).get? other = registry.get? other := by
  rw [get?, add, List.lookup_cons, beq_false_of_ne h]
  exact get?_remove_of_ne registry h

end Registry

/-! ## Answers -/

/-- The answer to a visitor. -/
structure Response where
  status : Nat
  contentType : Option String := none
  body : String := ""
  deriving DecidableEq, Repr

namespace Registry

/-- The answer to a request for a path: the key authorization of a registered token, for reading
methods only. -/
def respond (registry : Registry) (method : Http.Method) (path : String) : Response :=
  match tokenOfPath? path with
  | none => { status := 404 }
  | some token =>
    if method ≠ .get ∧ method ≠ .head then { status := 405 }
    else
      match registry.get? token with
      | none => { status := 404 }
      | some authorization =>
        { status := 200, contentType := some "text/html", body := authorization }

end Registry

end Acme
