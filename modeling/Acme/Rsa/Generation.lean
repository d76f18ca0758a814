import Acme.Rsa.Key
import Acme.Sha256

/-!
# Making RSA keys

A key of a given size is two primes of half that size, both with their two highest bits set, so
that the modulus has exactly the size asked for. Candidates come from a stream of pseudo-random
numbers that a seed determines.

Main definitions: `Seed.draw`, `isProbablePrime`, `searchPrime?` and `PrivateKey.generate?`.
-/

namespace Acme.Rsa

def newPublicExponent : Nat := 65537

/-! ## A stream of numbers -/

/-- What determines the stream, and how far it has been used. -/
structure Seed where
  octets : Octets
  used : Nat := 0
  deriving DecidableEq, Repr

/-- `count` blocks of the stream: digests of the seed and of the number of the block. -/
def Seed.blocks (seed : Seed) : (count : Nat) → Octets
  | 0 => []
  | count + 1 =>
    Sha256.digest (seed.octets ++ Octets.ofNatPadded 8 (seed.used + count)) ++ seed.blocks count

/-- A number below `2 ^ bits`, and the seed moved on. -/
def Seed.draw (seed : Seed) (bits : Nat) : Nat × Seed :=
  let count := bits / 256 + 1
  (Octets.toNat (seed.blocks count) % (1 <<< bits), { seed with used := seed.used + count })

/-! ## Primes -/

/-- The primes below 200, by which candidates are divided first. -/
def smallPrimes : List Nat :=
  [2, 3, 5, 7, 11, 13, 17, 19, 23, 29, 31, 37, 41, 43, 47, 53, 59, 61, 67, 71, 73, 79, 83, 89, 97,
   101, 103, 107, 109, 113, 127, 131, 137, 139, 149, 151, 157, 163, 167, 173, 179, 181, 191, 193,
   197, 199]

/-- The exponent of two in `n`, and the odd rest. -/
def splitTwos (n : Nat) : Nat × Nat :=
  if _h : n ≠ 0 ∧ n % 2 = 0 then
    let (twos, odd) := splitTwos (n / 2)
    (twos + 1, odd)
  else (0, n)
termination_by n
decreasing_by omega

/-- One of `x`, its square, the square of that, … (`count` of them) is `n - 1`. -/
def reachesMinusOne (n : Nat) : (count : Nat) → (x : Nat) → Bool
  | 0, _ => false
  | count + 1, x => x == n - 1 || reachesMinusOne n count (x * x % n)

/-- `n` passes the test of Miller and Rabin to this base. -/
def passesBase (n twos odd base : Nat) : Bool :=
  let x := powMod base odd n
  base % n == 0 || x == 1 || reachesMinusOne n twos x

/-- `n` is a small prime, or has no small divisor and passes the test to the first twelve bases. -/
def isProbablePrime (n : Nat) : Bool :=
  if smallPrimes.contains n then true
  else if n < 2 || smallPrimes.any fun p => n % p == 0 then false
  else
    let (twos, odd) := splitTwos (n - 1)
    (smallPrimes.take 12).all fun base => passesBase n twos odd base

/-- The first of `tries` odd numbers from `n` on that is prime and one more than no multiple of the
public exponent. -/
def searchPrime? : (tries : Nat) → (n : Nat) → Option Nat
  | 0, _ => none
  | tries + 1, n =>
    if n % newPublicExponent ≠ 1 ∧ isProbablePrime n then some n else searchPrime? tries (n + 2)

/-- A prime of exactly `bits` bits whose two highest bits are set, and the seed moved on. The
search starts at random places until it finds one. -/
def drawPrime? (bits : Nat) : (tries : Nat) → Seed → Option (Nat × Seed)
  | 0, _ => none
  | tries + 1, seed =>
    let (r, seed) := seed.draw (bits - 2)
    let start := 3 <<< (bits - 2) + r / 2 * 2 + 1
    match searchPrime? (bits * 8) start with
    | some p => if p < 1 <<< bits then some (p, seed) else drawPrime? bits tries seed
    | none => drawPrime? bits tries seed

/-! ## Keys -/

/-- The size below which the public exponent would not be smaller than the modulus. -/
def minKeyBits : Nat := 17

def PrivateKey.ofPrimes? (p q : Nat) : Option PrivateKey := do
  let d ← inverseMod? newPublicExponent ((p - 1) * (q - 1))
  ofNumbers? ⟨p * q, newPublicExponent, d, p, q⟩

/-- Two different primes make a key; equal ones are drawn again. -/
def drawKey? (bits : Nat) : (tries : Nat) → Seed → Option PrivateKey
  | 0, _ => none
  | tries + 1, seed =>
    match drawPrime? (bits / 2) 64 seed with
    | none => none
    | some (p, seed) =>
      match drawPrime? (bits - bits / 2) 64 seed with
      | none => none
      | some (q, seed) =>
        if p = q then drawKey? bits tries seed else PrivateKey.ofPrimes? p q

/-- A new key whose modulus has exactly `bits` bits; none when that is too few for the public
exponent. -/
def PrivateKey.generate? (bits : Nat) (seed : Seed) : Option PrivateKey := do
  guard (minKeyBits ≤ bits)
  let key ← drawKey? bits 64 seed
  guard (bitLength key.modulus = bits)
  return key

end Acme.Rsa
