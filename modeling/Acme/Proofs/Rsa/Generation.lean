import Acme.Proofs.Rsa.Roots
import Acme.Rsa.Generation
import Mathlib.NumberTheory.LucasPrimality
import Mathlib.Tactic.NormNum.Prime

/-!
# New keys

What a generator of keys gives out (`IsGenerated`), and that the keys made here are such keys as far
as the numbers drawn are primes (`isGenerated_of_generate?`).
-/

namespace Acme.Rsa

/-! ## Binary digits -/

theorem bitLength_eq_iff {n bits : Nat} (hbits : 0 < bits) :
    bitLength n = bits ↔ 2 ^ (bits - 1) ≤ n ∧ n < 2 ^ bits := by
  have hpow : 0 < 2 ^ (bits - 1) := Nat.pow_pos (by decide)
  rw [bitLength]
  by_cases hn : n = 0
  · rw [if_pos hn]
    omega
  · have hlog := Nat.log2_eq_iff (k := bits - 1) hn
    rw [show bits - 1 + 1 = bits by omega] at hlog
    rw [if_neg hn, ← hlog]
    omega

/-! ## What is drawn -/

theorem le_of_searchPrime? {tries n p : Nat} (h : searchPrime? tries n = some p) : n ≤ p := by
  induction tries generalizing n with
  | zero => cases h
  | succ tries ih =>
    rw [searchPrime?] at h
    split at h
    · cases h
      exact Nat.le_refl _
    · have hle := ih h
      omega

/-- A number that is drawn has the size asked for. -/
theorem bitLength_of_drawPrime? {bits tries p : Nat} {seed rest : Seed} (hbits : 2 ≤ bits)
    (h : drawPrime? bits tries seed = some (p, rest)) : bitLength p = bits := by
  induction tries generalizing seed with
  | zero => cases h
  | succ tries ih =>
    rw [drawPrime?] at h
    dsimp only at h
    split at h
    · next q hsearch =>
      split at h
      · next hlt =>
        cases h
        have hle := le_of_searchPrime? hsearch
        have hpow : 2 ^ (bits - 1) = 2 * 2 ^ (bits - 2) := by
          rw [← Nat.pow_succ', show (bits - 2).succ = bits - 1 by omega]
        rw [Nat.shiftLeft_eq] at hle hlt
        rw [bitLength_eq_iff (by omega)]
        omega
      · exact ih h
    · exact ih h

/-! ## Keys -/

namespace PrivateKey

/-- What a key is when it has been generated for a size: two primes of half that size if it is even,
and the usual exponent with its inverse in reduced form. -/
structure IsGenerated (bits : Nat) (k : PrivateKey) : Prop where
  publicExponent : k.publicExponent = newPublicExponent
  privateExponent : k.privateExponent < k.modulus
  modulus : bitLength k.modulus = bits
  prime1 : k.prime1.Prime
  prime2 : k.prime2.Prime
  halves : bits % 2 = 0 → bitLength k.prime1 = bits / 2 ∧ bitLength k.prime2 = bits / 2

variable {k : PrivateKey}

theorem ofPrimes?_eq_some {p q : Nat} (hp : 1 < p) (hq : 1 < q) (h : ofPrimes? p q = some k) :
    k.prime1 = p ∧ k.prime2 = q ∧ k.publicExponent = newPublicExponent
      ∧ k.privateExponent < k.modulus := by
  obtain ⟨d, hd, h⟩ := Option.bind_eq_some_iff.1 h
  have hpos : 0 < (p - 1) * (q - 1) := Nat.mul_pos (by omega) (by omega)
  have hlt := (inverseMod?_spec hpos hd).1
  have hle : (p - 1) * (q - 1) ≤ p * q := Nat.mul_le_mul (Nat.sub_le p 1) (Nat.sub_le q 1)
  rw [ofNumbers?] at h
  split at h
  · cases h
    exact ⟨rfl, rfl, rfl, Nat.lt_of_lt_of_le hlt hle⟩
  · cases h

theorem one_lt_of_bitLength {n bits : Nat} (hbits : 2 ≤ bits) (h : bitLength n = bits) : 1 < n := by
  have hle := ((bitLength_eq_iff (by omega)).1 h).1
  have hpow : 2 ^ 1 ≤ 2 ^ (bits - 1) := Nat.pow_le_pow_right (by decide) (by omega)
  omega

theorem drawKey?_eq_some {bits tries : Nat} {seed : Seed} (hbits : 4 ≤ bits)
    (h : drawKey? bits tries seed = some k) :
    bitLength k.prime1 = bits / 2 ∧ bitLength k.prime2 = bits - bits / 2
      ∧ k.publicExponent = newPublicExponent ∧ k.privateExponent < k.modulus := by
  induction tries generalizing seed with
  | zero => cases h
  | succ tries ih =>
    rw [drawKey?] at h
    split at h
    · cases h
    · next p _ hp =>
      split at h
      · cases h
      · next q _ hq =>
        split at h
        · exact ih h
        · have hp' := bitLength_of_drawPrime? (by omega) hp
          have hq' := bitLength_of_drawPrime? (by omega) hq
          obtain ⟨rfl, rfl, hexponents⟩ := ofPrimes?_eq_some
            (one_lt_of_bitLength (by omega) hp') (one_lt_of_bitLength (by omega) hq') h
          exact ⟨hp', hq', hexponents⟩

/-- Eight binary digits are an octet. -/
theorem IsGenerated.size_eq {bits : Nat} (hk : k.IsGenerated bits) (hbits : 0 < bits) :
    k.size = (bits - 1) / 8 + 1 := by
  have hmodulus := hk.modulus
  have hne : k.modulus ≠ 0 := Nat.ne_of_gt k.modulus_pos
  rw [bitLength, if_neg hne] at hmodulus
  rw [size, Octets.lengthOfNat, if_neg hne]
  omega

/-- That the factors are primes is all that the search for them leaves open. -/
theorem isGenerated_of_generate? {bits : Nat} {seed : Seed} (h : generate? bits seed = some k)
    (hp : k.prime1.Prime) (hq : k.prime2.Prime) : k.IsGenerated bits := by
  by_cases hmin : minKeyBits ≤ bits
  · simp only [generate?, hmin, guard, if_true] at h
    obtain ⟨_, _, h⟩ := Option.bind_eq_some_iff.1 h
    obtain ⟨key, hkey, h⟩ := Option.bind_eq_some_iff.1 h
    by_cases hmodulus : bitLength key.modulus = bits
    · simp only [hmodulus, if_true] at h
      cases h
      have hbits : 4 ≤ bits := Nat.le_trans (by decide) hmin
      obtain ⟨hprime1, hprime2, hexponent, hprivate⟩ := drawKey?_eq_some hbits hkey
      refine ⟨hexponent, hprivate, hmodulus, hp, hq, fun heven => ⟨hprime1, ?_⟩⟩
      rw [hprime2]
      omega
    · simp only [hmodulus, if_false] at h
      cases h
  · simp only [generate?, hmin, guard, if_false] at h
    cases h

/-! ## A key of two Proth numbers -/

/-- The test of Lucas for a number that is one more than a multiple of a power of two. -/
theorem prime_of_powMod {p k a n : Nat} (hp : 1 < p) (hk : k.Prime) (hsplit : p - 1 = k * 2 ^ n)
    (h : powMod a (p - 1) p = 1) (hhalf : powMod a ((p - 1) / 2) p ≠ 1)
    (hpart : powMod a ((p - 1) / k) p ≠ 1) : p.Prime := by
  have hpower (e : Nat) : (a : ZMod p) ^ e = 1 ↔ powMod a e p = 1 := by
    have hcast := ZMod.natCast_eq_natCast_iff (a ^ e) 1 p
    rw [Nat.ModEq, Nat.mod_eq_of_lt hp, ← powMod_eq] at hcast
    push_cast at hcast
    exact hcast
  refine lucas_primality p a ((hpower _).2 h) fun r hr hdvd => ?_
  rw [hsplit, hr.dvd_mul] at hdvd
  rw [Ne, hpower]
  rcases hdvd with hdvd | hdvd
  · rwa [(Nat.prime_dvd_prime_iff_eq hr hk).1 hdvd]
  · rwa [(Nat.prime_dvd_prime_iff_eq hr Nat.prime_two).1 (hr.dvd_of_dvd_pow hdvd)]

def proth1 : Nat := 16770781 * 2 ^ 1000 + 1

def proth2 : Nat := 16754917 * 2 ^ 1000 + 1

theorem prime_proth1 : proth1.Prime :=
  @prime_of_powMod proth1 16770781 3 1000 (by decide +kernel) (by norm_num) (by decide +kernel)
    (by decide +kernel) (by decide +kernel) (by decide +kernel)

theorem prime_proth2 : proth2.Prime :=
  @prime_of_powMod proth2 16754917 3 1000 (by decide +kernel) (by norm_num) (by decide +kernel)
    (by decide +kernel) (by decide +kernel) (by decide +kernel)

/-- A key of 2048 bits; the numerator of its private exponent is a multiple of the public one. -/
def prothKey : PrivateKey :=
  ⟨⟨proth1 * proth2, newPublicExponent,
    (12225 * ((proth1 - 1) * (proth2 - 1)) + 1) / newPublicExponent, proth1, proth2⟩,
    by decide +kernel⟩

theorem isGenerated_prothKey : prothKey.IsGenerated 2048 where
  publicExponent := rfl
  privateExponent := by decide +kernel
  modulus := by decide +kernel
  prime1 := prime_proth1
  prime2 := prime_proth2
  halves := fun _ => ⟨by decide +kernel, by decide +kernel⟩

theorem canSign_prothKey (message : Octets) : prothKey.CanSign message := by
  have hsound : prothKey.IsSound :=
    ⟨prime_proth1, prime_proth2, by decide +kernel, by decide +kernel⟩
  exact hsound.canSign message

end PrivateKey

end Acme.Rsa
