import Acme.Text

/-!
# Link headers

The `Link` field of a reply relates the resource to others. Its value is a comma separated list of
entries `<url>;name=value;…`, and the `rel` parameter lists the names of the relation.

Main definition: `upLink?`, the URL that is related as `up`.
-/

namespace Acme.LinkHeader

/-- The URL of a target in angle brackets. -/
def target? (cs : List Char) : Option (List Char) :=
  match Text.trim cs with
  | '<' :: rest =>
    match rest.reverse with
    | '>' :: url => some url.reverse
    | _ => none
  | _ => none

/-- The name and the value of a parameter, around its first equals sign. -/
def parameter? : List Char → Option (List Char × List Char)
  | [] => none
  | '=' :: value => some ([], value)
  | c :: rest => (parameter? rest).map fun (name, value) => (c :: name, value)

def unquote (cs : List Char) : List Char :=
  Text.dropEndWhile (· == '"') (cs.dropWhile (· == '"'))

/-- The parameter is a `rel` that lists the relation `up`. -/
def isUp (parameter : List Char) : Bool :=
  match parameter? parameter with
  | none => false
  | some (name, value) =>
    Text.sameIgnoringCase (Text.trim name) "rel".toList
      && (Text.words (unquote (Text.trim value))).contains "up".toList

/-- The URL of an entry that is related as `up`. -/
def entryUp? (entry : List Char) : Option (List Char) :=
  match entry.splitOn ';' with
  | [] => none
  | target :: parameters => do
    let url ← target? target
    guard (parameters.any isUp ∧ url ≠ [])
    return url

/-- The URL of the first entry that is related as `up`, over all values in order. -/
def upLink? (values : List String) : Option String :=
  ((values.flatMap fun v => v.toList.splitOn ',').findSome? entryUp?).map String.ofList

end Acme.LinkHeader
