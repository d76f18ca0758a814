/-!
# Domain lists

The domains of a run in their order, and a cursor that passes over them. The first domain is the
primary one: it names the certificate and its files.

Main definitions: `DomainList`, `DomainList.ofList?`, `DomainList.advance` and
`DomainList.reset`.
-/

namespace Acme

/-- Domains in order and how many of them are done. -/
structure DomainList where
  domains : List String := []
  cursor : Nat := 0
  deriving DecidableEq, Repr

namespace DomainList

/-- The list with nothing done; there must be a domain. -/
def ofList? (domains : List String) : Option DomainList :=
  if domains = [] then none else some ⟨domains, 0⟩

def primary (list : DomainList) : String :=
  list.domains.headD ""

def current? (list : DomainList) : Option String :=
  list.domains[list.cursor]?

def length (list : DomainList) : Nat :=
  list.domains.length

def isEmpty (list : DomainList) : Bool :=
  list.domains.isEmpty

def isExhausted (list : DomainList) : Bool :=
  decide (list.length ≤ list.cursor)

/-- Passes over the current domain; a cursor behind the last domain stays there. -/
def advance (list : DomainList) : DomainList :=
  if list.cursor < list.length then { list with cursor := list.cursor + 1 } else list

def reset (list : DomainList) : DomainList :=
  { list with cursor := 0 }

@[simp]
theorem domains_advance (list : DomainList) : list.advance.domains = list.domains := by
  unfold advance
  split <;> rfl

@[simp]
theorem domains_reset (list : DomainList) : list.reset.domains = list.domains := rfl

end DomainList

end Acme
