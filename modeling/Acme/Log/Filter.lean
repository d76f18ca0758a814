import Acme.Log.Entry

/-!
# Log filters

Which entries are written. A filter is a list of directives, written with commas between them: a
level, a source, or a source and a level with an equals sign between them. A directive with a source
is about the entries whose source begins with it, one without a source about all; the longest source
that fits an entry decides.

Main definitions: `Directive`, `Filter`, `Filter.parse?` and `Filter.keeps`.
-/

namespace Acme.Log

/-- Up to which level the entries of a source are kept; without a level none is. -/
structure Directive where
  source : String := ""
  level : Option Level
  deriving DecidableEq, Repr

/-- Directives, the later ones counting more among those of the same source. -/
abbrev Filter := List Directive

namespace Level

/-- The words for levels; the last one turns entries off. -/
def words : List (String × Option Level) :=
  [("error", some .error), ("warn", some .warn), ("info", some .info), ("debug", some .debug),
    ("trace", some .trace), ("off", none)]

/-- The numbers for levels, from zero on. -/
def numbers : List (Option Level) :=
  [none, some .error, some .warn, some .info, some .debug, some .trace]

/-- The number that digits write; a plus sign may go before them. -/
def number? (cs : List Char) : Option Nat :=
  let digits := match cs with
    | '+' :: rest => rest
    | _ => cs
  if digits ≠ [] ∧ digits.all Char.isDigit then
    some (digits.foldl (fun n c => 10 * n + (c.toNat - '0'.toNat)) 0)
  else none

/-- The level that a word in any case or a number stands for. -/
def parse? (cs : List Char) : Option (Option Level) :=
  match number? cs with
  | some n => numbers[n]?
  | none => words.lookup (String.ofList (Text.lower cs))

end Level

def startsDirective (c : Char) : Bool :=
  c.isAlphanum || 0x80 ≤ c.toNat || c == '-' || c == ':' || c == '_'

/-- The directive that a text denotes. A source alone keeps everything. -/
def Directive.parse? (cs : List Char) : Option Directive :=
  if ¬ cs.head?.any startsDirective then none
  else
    match cs.span (· != '=') with
    | (source, []) =>
      match Level.parse? source with
      | some level => some { level := level }
      | none => some ⟨String.ofList source, some .trace⟩
    | (source, [_]) => some ⟨String.ofList source, some .trace⟩
    | (source, _ :: level) => (Level.parse? level).map fun level => ⟨String.ofList source, level⟩

namespace Filter

/-- The filter that keeps the entries up to a level. -/
def upTo (level : Level) : Filter :=
  [{ level := some level }]

/-- The filter that a text denotes; one without directives keeps errors. -/
def parse? (text : String) : Option Filter :=
  match (text.toList.splitOn ',').filter (· ≠ []) with
  | [] => some (upTo .error)
  | pieces => pieces.mapM Directive.parse?

/-- The later of two directives unless the other one has the longer source. -/
def prefer (best : Option Directive) (directive : Directive) : Option Directive :=
  match best with
  | none => some directive
  | some other =>
    if directive.source.length < other.source.length then best else some directive

/-- The directive that decides about the entries of a source. -/
def deciding? (filter : Filter) (source : String) : Option Directive :=
  (filter.filter fun d => d.source.toList.isPrefixOf source.toList).foldl prefer none

/-- Entries of a source and a level are written. -/
def keeps (filter : Filter) (source : String) (level : Level) : Bool :=
  match (filter.deciding? source).bind Directive.level with
  | none => false
  | some most => level.detail ≤ most.detail

end Filter

end Acme.Log
