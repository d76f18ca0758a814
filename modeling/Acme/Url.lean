import Acme.Url.Host

/-!
# URLs

Reading and writing of URLs as browsers do it: blanks around a URL do not count, backslashes are
slashes in URLs of the web, dots in paths are resolved, and what has to be escaped is. A reference
is read relative to a base.

Main definitions: `Url`, `Url.parse?`, `Url.render` and `Url.resolve?`.
-/

namespace Acme

/-- The path of a URL. -/
inductive Url.Path
  /-- Text that is not taken apart; such a URL cannot be a base. -/
  | opaqueText (text : List Char)
  | segments (segments : List (List Char))
  deriving DecidableEq, Repr

/-- A URL in its parts, escaped. -/
structure Url where
  scheme : String
  /-- User name and password, with the at sign. -/
  userInfo : List Char := []
  host : Option Url.Host := none
  port : Option UInt16 := none
  path : Url.Path
  query : Option (List Char) := none
  fragment : Option (List Char) := none
  deriving DecidableEq, Repr

namespace Url

/-! ## Schemes -/

def fileScheme : String := "file"

/-- The schemes of the web and their ports. -/
def webPorts : List (String × UInt16) :=
  [("http", 80), ("https", 443), ("ws", 80), ("wss", 443), ("ftp", 21)]

def isWeb (scheme : String) : Bool :=
  (webPorts.lookup scheme).isSome

/-- In the scheme a backslash is a slash. -/
def isSpecial (scheme : String) : Bool :=
  isWeb scheme || scheme == fileScheme

/-- A slash, or in special schemes a backslash. -/
def isSlash (special : Bool) (c : Char) : Bool :=
  c == '/' || (special && c == '\\')

/-- The scheme in lower case and what follows its colon. -/
def cutScheme? (cs : List Char) : Option (String × List Char) :=
  let name := cs.takeWhile fun c => c.isAlphanum || c == '+' || c == '-' || c == '.'
  match name, cs.drop name.length with
  | first :: _, ':' :: rest =>
    if first.isAlpha then some (String.ofList (name.map Char.toLower), rest) else none
  | _, _ => none

/-! ## What is escaped where -/

def fragmentExtra : List Char := [' ', '"', '<', '>', '\x60']
def pathExtra : List Char := fragmentExtra ++ ['#', '?', '\x7b', '\x7d']
def userInfoExtra : List Char := pathExtra ++ ['/', ':', ';', '=', '@', '[', '\\', ']', '^', '|']
def queryExtra (special : Bool) : List Char :=
  [' ', '"', '#', '<', '>'] ++ if special then ['\''] else []

/-! ## Paths -/

def isDoubleDot (segment : List Char) : Bool :=
  ["..", "%2e%2e", "%2e.", ".%2e"].contains (String.ofList (segment.map Char.toLower))

def isSingleDot (segment : List Char) : Bool :=
  [".", "%2e"].contains (String.ofList (segment.map Char.toLower))

/-- A letter and a colon: the name of a drive. -/
def isDrive (segment : List Char) : Bool :=
  match segment with
  | [letter, ':'] => letter.isAlpha
  | _ => false

/-- A drive with its colon; a bar may stand for the colon. -/
def drive? (segment : List Char) : Option (List Char) :=
  match segment with
  | [letter, mark] =>
    if letter.isAlpha ∧ (mark = ':' ∨ mark = '|') then some [letter, ':'] else none
  | _ => none

/-- The reversed path without its last segment; the drive of a file stays. -/
def shorten (file : Bool) : List (List Char) → List (List Char)
  | [] => []
  | last :: before => if file && isDrive last then last :: before else before

def addSegments (file : Bool) (reversed : List (List Char)) :
    (written : List (List Char)) → List (List Char)
  | [] => reversed
  | segment :: rest =>
    let final := rest.isEmpty
    if isDoubleDot segment then
      let up := shorten file reversed
      addSegments file (if final then [] :: up else up) rest
    else if isSingleDot segment then
      addSegments file (if final then [] :: reversed else reversed) rest
    else
      let segment := percentEncode pathExtra segment
      let segment := if file then (drive? segment).getD segment else segment
      addSegments file (segment :: reversed) rest

def cutSegments (special : Bool) (cs : List Char) : List (List Char) :=
  cs.splitOnP (isSlash special)

/-- The path that written characters lead to from a directory. -/
def pathFrom (scheme : String) (directory : List (List Char)) (cs : List Char) :
    List (List Char) :=
  let file := scheme == fileScheme
  let segments :=
    (addSegments file directory.reverse (cutSegments (isSpecial scheme) cs)).reverse
  if file then
    match segments.dropWhile (· == []) with
    | [] => [[]]
    | kept => kept
  else segments

def dropSlash (special : Bool) (cs : List Char) : List Char :=
  match cs with
  | c :: rest => if isSlash special c then rest else cs
  | [] => []

def pathAfterAuthority (scheme : String) (cs : List Char) : List (List Char) :=
  if cs = [] ∧ !isSpecial scheme then []
  else pathFrom scheme [] (dropSlash (isSpecial scheme) cs)

/-! ## Authorities -/

/-- The part before the last at sign, and the rest. -/
def cutUserInfo (cs : List Char) : Option (List Char) × List Char :=
  if '@' ∈ cs then
    let rest := (cs.reverse.takeWhile (· != '@')).reverse
    (some (cs.take (cs.length - rest.length - 1)), rest)
  else (none, cs)

/-- User name and password, escaped; an empty password has no colon. -/
def encodeUserInfo (cs : List Char) : List Char :=
  let name := cs.takeWhile (· != ':')
  let password := cs.drop (name.length + 1)
  let text := percentEncode userInfoExtra name
    ++ (if password = [] then [] else ':' :: percentEncode userInfoExtra password)
  if text = [] then [] else text ++ ['@']

/-- The host and what follows it, a colon first if there is a port. -/
def cutHost : (bracket : Bool) → List Char → List Char × List Char
  | _, [] => ([], [])
  | bracket, c :: rest =>
    if c = ':' ∧ !bracket then ([], c :: rest)
    else
      let bracket := if c = '[' then true else if c = ']' then false else bracket
      let (host, after) := cutHost bracket rest
      (c :: host, after)

/-- The port that digits after a colon denote; the port of the scheme is left out. -/
def port? (scheme : String) (digits : List Char) : Option (Option UInt16) :=
  if digits = [] then some none
  else do
    let n ← IpAddress.decimal? digits
    guard (n ≤ 65535)
    return if webPorts.lookup scheme = some (UInt16.ofNat n) then none else some (UInt16.ofNat n)

def ofAuthority? (scheme : String) (cs : List Char) : Option Url := do
  let special := isSpecial scheme
  let authority := cs.takeWhile fun c => !isSlash special c
  let path := cs.drop authority.length
  let (userInfo, hostAndPort) := cutUserInfo authority
  let (hostText, portText) := cutHost false hostAndPort
  let host ← if special then Host.parse? hostText else Host.parseOpaque? hostText
  guard (hostText ≠ [] ∨ (userInfo = none ∨ userInfo = some []) ∧ portText = [] ∧ !special)
  guard (hostText ≠ [] ∨ userInfo ≠ some [] ∨ path = [])
  let port ← port? scheme (portText.drop 1)
  return {
    scheme := scheme
    userInfo := encodeUserInfo (userInfo.getD [])
    host := some host
    port := port
    path := .segments (pathAfterAuthority scheme path) }

/-! ## References -/

/-- The path of a base without its last segment. -/
def directory (path : Path) (file : Bool) : List (List Char) :=
  match path with
  | .opaqueText _ => []
  | .segments segments => (shorten file segments.reverse).reverse

def withPath (base : Url) (segments : List (List Char)) : Url :=
  { base with path := .segments segments, query := none, fragment := none }

/-- The URL for a reference without a scheme to a base that is not opaque. -/
def relative? (base : Url) (cs : List Char) : Option Url :=
  match (cs.takeWhile (isSlash true)).length with
  | 0 =>
    if cs = [] then some base
    else
      let above := directory base.path (base.scheme == fileScheme)
      some (base.withPath (pathFrom base.scheme above cs))
  | 1 => some (base.withPath (pathFrom base.scheme [] (cs.drop 1)))
  | _ =>
    let plain := cs.take 2 == ['/', '/']
    ofAuthority? base.scheme (if plain then cs.drop 2 else cs.dropWhile (isSlash true))

/-- The first segment of a path, if it is a drive. -/
def leadingDrive (path : Path) : List (List Char) :=
  match path with
  | .segments (first :: _) => if isDrive first then [first] else []
  | _ => []

def file? (base : Option Url) (cs : List Char) : Option Url :=
  let nobody := Host.name ""
  let ofPath (host : Host) (above : List (List Char)) (cs : List Char) : Url :=
    { scheme := fileScheme, host := some host, path := .segments (pathFrom fileScheme above cs) }
  let startsWithDrive (cs : List Char) : Bool :=
    (drive? ((cutSegments true cs).headD [])).isSome
  match (cs.takeWhile (isSlash true)).length with
  | 0 =>
    match base with
    | none => some (ofPath nobody [] cs)
    | some base =>
      if cs = [] then some base
      else if startsWithDrive cs then some (ofPath nobody [] cs)
      else some (ofPath (base.host.getD nobody) (directory base.path true) cs)
  | 1 =>
    let rest := cs.drop 1
    match base with
    | none => some (ofPath nobody [] rest)
    | some base =>
      if startsWithDrive rest then some (ofPath nobody [] rest)
      else if leadingDrive base.path ≠ [] then some (ofPath nobody (leadingDrive base.path) rest)
      else some (ofPath (base.host.getD nobody) [] rest)
  | _ =>
    let rest := cs.drop 2
    let hostText := rest.takeWhile fun c => !isSlash true c
    if hostText = [] ∨ (drive? hostText).isSome then some (ofPath nobody [] (dropSlash true rest))
    else do
      let host ← Host.parse? hostText
      let host := if host = .name "localhost" then nobody else host
      return ofPath host [] (dropSlash true (rest.drop hostText.length))

/-- The URL for a reference without query and fragment. An empty reference keeps the query of the
base. -/
def ofHierarchy? (base : Option Url) (cs : List Char) : Option Url :=
  match cutScheme? cs with
  | some (scheme, rest) =>
    if scheme = fileScheme then file? (base.filter fun b => b.scheme == fileScheme) rest
    else if isWeb scheme then
      let slashes := (rest.takeWhile (isSlash true)).length
      match base.filter fun b => decide (slashes < 2) && b.scheme == scheme with
      | some base => relative? base rest
      | none => ofAuthority? scheme (rest.dropWhile (isSlash true))
    else
      match rest with
      | '/' :: '/' :: rest => ofAuthority? scheme rest
      | '/' :: rest => some { scheme := scheme, path := .segments (pathFrom scheme [] rest) }
      | _ => some { scheme := scheme, path := .opaqueText (percentEncode [] rest) }
  | none => do
    let base ← base
    match base.path with
    | .opaqueText _ => none
    | .segments _ =>
      if base.scheme = fileScheme then file? (some base) cs else relative? base cs

/-- The characters up to a mark, and those behind it if it is there. -/
def cutAt (mark : Char) (cs : List Char) : List Char × Option (List Char) :=
  let before := cs.takeWhile (· != mark)
  match cs.drop before.length with
  | [] => (before, none)
  | _ :: after => (before, some after)

/-- The text without controls and blanks around it, and without tabs and line ends in it. -/
def clean (cs : List Char) : List Char :=
  let isMargin (c : Char) : Bool := c.toNat ≤ 0x20
  ((cs.dropWhile isMargin).reverse.dropWhile isMargin).reverse.filter fun c =>
    c != '\t' && c != '\n' && c != '\r'

/-- The URL that a reference denotes, relative to a base if there is one. -/
def parseFrom? (base : Option Url) (text : String) : Option Url := do
  let (beforeFragment, fragment) := cutAt '#' (clean text.toList)
  let (hierarchy, query) := cutAt '?' beforeFragment
  let fragment := fragment.map (percentEncode fragmentExtra)
  if hierarchy = [] ∧ query = none ∧ fragment ≠ none then
    let base ← base
    return { base with fragment := fragment }
  else
    let url ← ofHierarchy? base hierarchy
    let query := query.map (percentEncode (queryExtra (isSpecial url.scheme)))
    return { url with query := query <|> url.query, fragment := fragment }

/-- The URL that a text denotes by itself. -/
def parse? (text : String) : Option Url :=
  parseFrom? none text

/-! ## Writing -/

/-- The text of a path; where there is no host, two slashes at the start must not look like one. -/
def renderPath (hasHost : Bool) : Path → List Char
  | .opaqueText text => text
  | .segments segments =>
    let text := segments.flatMap fun s => '/' :: s
    match hasHost, segments with
    | false, [] :: _ :: _ => '/' :: '.' :: text
    | _, _ => text

def render (url : Url) : String :=
  let authority : List Char :=
    match url.host with
    | none => []
    | some host =>
      '/' :: '/' :: url.userInfo ++ host.render.toList
        ++ (match url.port with | none => [] | some port => ':' :: (toString port.toNat).toList)
  String.ofList (url.scheme.toList ++ ':' :: authority ++ renderPath url.host.isSome url.path
    ++ (match url.query with | none => [] | some query => '?' :: query)
    ++ (match url.fragment with | none => [] | some fragment => '#' :: fragment))

/-- The text of the URL that a link denotes on a page: by itself if it can, else relative to the
page. -/
def resolve? (page link : String) : Option String :=
  match parse? link with
  | some url => some url.render
  | none => do
    let base ← parse? page
    let url ← parseFrom? (some base) link
    return url.render

end Url

end Acme
