/-!
# Punycode

A label with characters beyond ASCII is written in ASCII by its ASCII characters, a hyphen, and
digits to base 36 that say where which character is to be put in (RFC 3492).

Main definitions: `encode` and `decode?`.
-/

namespace Acme.Punycode

/-! ## Digits -/

/-- The digit of value `n`, for `n` below 36. -/
def digit (n : Nat) : Char :=
  if n < 26 then Char.ofNat (n + 97) else Char.ofNat (n + 22)

def value? (c : Char) : Option Nat :=
  let n := c.toNat
  if 97 ≤ n ∧ n ≤ 122 then some (n - 97)
  else if 65 ≤ n ∧ n ≤ 90 then some (n - 65)
  else if 48 ≤ n ∧ n ≤ 57 then some (n - 22)
  else none

/-- The threshold of the digit at place `k`. -/
def threshold (k bias : Nat) : Nat :=
  if k ≤ bias then 1 else if bias + 26 ≤ k then 26 else k - bias

theorem threshold_pos (k bias : Nat) : 1 ≤ threshold k bias := by
  unfold threshold
  split
  · omega
  · split <;> omega

theorem threshold_le (k bias : Nat) : threshold k bias ≤ 26 := by
  unfold threshold
  split
  · omega
  · split <;> omega

/-- Divides a distance by 35 until it is at most 455, and counts 36 for each division. -/
def shrink (delta k : Nat) : Nat × Nat :=
  if 455 < delta then shrink (delta / 35) (k + 36) else (delta, k)
termination_by delta
decreasing_by omega

/-- The bias after a distance, when `count` characters are in place. -/
def adapt (delta count : Nat) (first : Bool) : Nat :=
  let damped := if first then delta / 700 else delta / 2
  let (rest, k) := shrink (damped + damped / count) 0
  k + 36 * rest / (rest + 38)

def initialBias : Nat := 72

def initialCode : Nat := 0x80

/-! ## Encoding -/

/-- The digits of a distance from place `k` on. -/
def distanceDigits (bias k q : Nat) : List Char :=
  let t := threshold k bias
  if q < t then [digit q]
  else digit (t + (q - t) % (36 - t)) :: distanceDigits bias (k + 36) ((q - t) / (36 - t))
termination_by q
decreasing_by
  have h₁ := threshold_pos k bias
  have h₂ := threshold_le k bias
  have h₃ := Nat.div_le_self (q - threshold k bias) (36 - threshold k bias)
  omega

/-- How far the encoding is. -/
structure Progress where
  digits : List Char
  delta : Nat
  bias : Nat
  handled : Nat

/-- Goes past one character while `code` is being put in. -/
def Progress.pass (basicCount code : Nat) (p : Progress) (c : Char) : Progress :=
  if c.toNat < code then { p with delta := p.delta + 1 }
  else if c.toNat = code then
    { digits := p.digits ++ distanceDigits p.bias 36 p.delta
      delta := 0
      bias := adapt p.delta (p.handled + 1) (p.handled == basicCount)
      handled := p.handled + 1 }
  else p

/-- Puts in the codes of a rising list; `next` is the lowest code not handled. -/
def encodeCodes (cs : List Char) (basicCount : Nat) : (codes : List Nat) → (next : Nat) → Progress →
    Progress
  | [], _, p => p
  | code :: rest, next, p =>
    let p := { p with delta := p.delta + (code - next) * (p.handled + 1) }
    let p := cs.foldl (Progress.pass basicCount code) p
    encodeCodes cs basicCount rest (code + 1) { p with delta := p.delta + 1 }

/-- The codes beyond ASCII, rising and each once. -/
def risingCodes (cs : List Char) : List Nat :=
  ((cs.map Char.toNat).filter fun n => initialCode ≤ n).mergeSort.eraseDups

def encode (cs : List Char) : List Char :=
  let basic := cs.filter fun c => c.toNat < initialCode
  let p := encodeCodes cs basic.length (risingCodes cs) initialCode
    ⟨[], 0, initialBias, basic.length⟩
  (if basic.isEmpty then [] else basic ++ ['-']) ++ p.digits

/-! ## Decoding -/

/-- Reads the digits of a distance: the distance with `i` added, and the rest. -/
def readDistance? (bias : Nat) : (k i weight : Nat) → List Char → Option (Nat × List Char)
  | _, _, _, [] => none
  | k, i, weight, c :: rest => do
    let d ← value? c
    let i := i + d * weight
    let t := threshold k bias
    if d < t then some (i, rest) else readDistance? bias (k + 36) i (weight * (36 - t)) rest

theorem length_readDistance? {bias k i weight j : Nat} {cs rest : List Char}
    (h : readDistance? bias k i weight cs = some (j, rest)) : rest.length < cs.length := by
  induction cs generalizing k i weight with
  | nil => simp [readDistance?] at h
  | cons c cs ih =>
    simp only [readDistance?, Option.bind_eq_bind] at h
    cases hv : value? c with
    | none => simp [hv] at h
    | some d =>
      simp only [hv, Option.bind_some] at h
      split at h
      · simp only [Option.some.injEq, Prod.mk.injEq] at h
        simp [h.2]
      · have := ih h
        simp only [List.length_cons]
        omega

/-- The character of a code point that is one. -/
def charOf? (n : Nat) : Option Char :=
  if n.isValidChar then some (Char.ofNat n) else none

/-- Puts characters in until no digits are left. -/
def decodeFrom? (out : List Char) (i code bias : Nat) (cs : List Char) : Option (List Char) :=
  if cs = [] then some out
  else
    match _h : readDistance? bias 36 i 1 cs with
    | none => none
    | some (j, rest) =>
      let count := out.length + 1
      let code := code + j / count
      let place := j % count
      match charOf? code with
      | none => none
      | some c =>
        decodeFrom? (out.take place ++ c :: out.drop place) (place + 1) code
          (adapt (j - i) count (i == 0)) rest
termination_by cs.length
decreasing_by exact length_readDistance? _h

/-- The part before the last hyphen and the part after it; without a hyphen all is after it. -/
def cutLastHyphen (cs : List Char) : List Char × List Char :=
  if '-' ∈ cs then
    let tail := (cs.reverse.takeWhile (· != '-')).reverse
    (cs.take (cs.length - tail.length - 1), tail)
  else ([], cs)

/-- The label that an ASCII form stands for. -/
def decode? (cs : List Char) : Option (List Char) :=
  let (basic, digits) := cutLastHyphen cs
  if cs.all fun c => c.toNat < initialCode then
    decodeFrom? basic 0 initialCode initialBias digits
  else none

end Acme.Punycode
