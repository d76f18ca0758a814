import Acme.Proofs.Rsa
import Mathlib.Data.Int.ModEq
import Mathlib.FieldTheory.Finite.Basic

/-!
# Keys with prime factors sign

When both factors of a key are primes, the root that a signature is made from undoes the power with
the public exponent: modulo each factor by Fermat's little theorem, and modulo their product since
the factors are coprime. So every root passes its check, and a key of 62 octets or more signs every
message (`exists_sign?`).
-/

namespace Acme.Rsa

/-! ## Euclid's algorithm -/

/-- Both pairs `(r, s)` satisfy `a * s ≡ r`, and so do all pairs after them. -/
theorem bezout_dvd {a m : Int} (r₀ : Nat) (s₀ : Int) (r₁ : Nat) (s₁ : Int) (h₀ : m ∣ a * s₀ - r₀)
    (h₁ : m ∣ a * s₁ - r₁) :
    m ∣ a * (bezout r₀ s₀ r₁ s₁).2 - (bezout r₀ s₀ r₁ s₁).1 := by
  fun_induction bezout r₀ s₀ r₁ s₁ with
  | case1 => exact h₀
  | case2 r₀ s₀ r₁ s₁ hne ih =>
    refine ih h₁ ?_
    have hmod : ((r₀ % r₁ : Nat) : Int) = r₀ - r₁ * (r₀ / r₁ : Nat) := by
      have hdiv := Nat.mod_add_div r₀ r₁
      have hcast : ((r₀ % r₁ : Nat) : Int) + r₁ * (r₀ / r₁ : Nat) = r₀ := by exact_mod_cast hdiv
      omega
    have hstep : a * (s₀ - (r₀ / r₁ : Nat) * s₁) - (r₀ % r₁ : Nat)
        = (a * s₀ - r₀) - (r₀ / r₁ : Nat) * (a * s₁ - r₁) := by
      rw [hmod]
      ring
    rw [hstep]
    exact Int.dvd_sub h₀ (Int.dvd_mul_of_dvd_right h₁)

/-- The number beside the divisor plays no part in finding it. -/
theorem bezout_fst (r₀ : Nat) (s₀ : Int) (r₁ : Nat) (s₁ : Int) :
    (bezout r₀ s₀ r₁ s₁).1 = Nat.gcd r₁ r₀ := by
  fun_induction bezout r₀ s₀ r₁ s₁ with
  | case1 r₀ s₀ s₁ => exact (Nat.gcd_zero_left r₀).symm
  | case2 r₀ s₀ r₁ s₁ hne ih => rw [ih, ← Nat.gcd_rec]

theorem exists_inverseMod?_iff {a m : Nat} :
    (∃ x, inverseMod? a m = some x) ↔ Nat.Coprime m a := by
  have hgcd : (bezout (a % m) 1 m 0).1 = Nat.gcd m a := by
    rw [bezout_fst, Nat.gcd_comm m, ← Nat.gcd_rec]
  rw [Nat.Coprime, ← hgcd, inverseMod?]
  split
  · next y hy =>
    rw [hy]
    exact ⟨fun _ => rfl, fun _ => ⟨_, rfl⟩⟩
  · next hother =>
    refine ⟨fun hx => ?_, fun hone => (hother _ (Prod.ext hone rfl)).elim⟩
    obtain ⟨x, hx⟩ := hx
    cases hx

theorem inverseMod?_spec {a m x : Nat} (hm : 0 < m) (h : inverseMod? a m = some x) :
    x < m ∧ a * x ≡ 1 [MOD m] := by
  have hbezout := bezout_dvd (a := a) (m := m) (a % m) 1 m 0
    ⟨a / m, by
      have hdiv := Nat.mod_add_div a m
      have hcast : ((a % m : Nat) : Int) + m * (a / m : Nat) = a := by exact_mod_cast hdiv
      push_cast at hcast ⊢
      omega⟩
    ⟨-1, by ring⟩
  rw [inverseMod?] at h
  split at h
  · next y hy =>
    cases h
    rw [hy] at hbezout
    have hpos : (0 : Int) < m := by exact_mod_cast hm
    have hlt := Int.emod_lt_of_pos y hpos
    have hcast : ((y % (m : Int)).toNat : Int) = y % m :=
      Int.toNat_of_nonneg (Int.emod_nonneg y (by omega))
    refine ⟨by omega, Int.natCast_modEq_iff.1 ?_⟩
    push_cast
    rw [hcast]
    calc (a : Int) * (y % m) ≡ a * y [ZMOD m] := (Int.mod_modEq y m).mul_left a
      _ ≡ 1 [ZMOD m] := (Int.modEq_iff_dvd.2 (by exact_mod_cast hbezout)).symm
  · cases h

/-! ## Exponents -/

/-- Exponents count modulo one less than a prime, for multiples of the prime too. -/
theorem pow_modEq_self {p e : Nat} (hp : p.Prime) (he : e % (p - 1) = 1) (c : Nat) :
    c ^ e ≡ c [MOD p] := by
  have hsplit : e = (p - 1) * (e / (p - 1)) + 1 := by
    have hdiv := Nat.div_add_mod e (p - 1)
    omega
  by_cases hdvd : p ∣ c
  · have hzero : c ≡ 0 [MOD p] := (Nat.modEq_zero_iff_dvd).2 hdvd
    have hpow : c ^ e ≡ 0 [MOD p] :=
      (Nat.modEq_zero_iff_dvd).2 (dvd_pow hdvd (by rw [hsplit]; omega))
    exact hpow.trans hzero.symm
  · have hcoprime : Nat.Coprime c p := ((Nat.Prime.coprime_iff_not_dvd hp).2 hdvd).symm
    have hfermat : c ^ (p - 1) ≡ 1 [MOD p] := by
      rw [← Nat.totient_prime hp]
      exact Nat.ModEq.pow_totient hcoprime
    have hpower := ((hfermat.pow (e / (p - 1))).mul_right c)
    rw [one_pow, one_mul, ← pow_mul, ← pow_succ, ← hsplit] at hpower
    exact hpower

/-- Modulo a factor it is enough to raise to the rest of the private exponent. -/
theorem powMod_pow_modEq {p d e : Nat} (hp : p.Prime) (h : e * d % (p - 1) = 1) (c : Nat) :
    powMod c (d % (p - 1)) p ^ e ≡ c [MOD p] := by
  have hrest : d % (p - 1) * e % (p - 1) = 1 := by
    rw [Nat.mul_comm, Nat.mul_mod, Nat.mod_mod, ← Nat.mul_mod, h]
  calc powMod c (d % (p - 1)) p ^ e = (c ^ (d % (p - 1)) % p) ^ e := by rw [powMod_eq]
    _ ≡ (c ^ (d % (p - 1))) ^ e [MOD p] := (Nat.mod_modEq _ p).pow e
    _ = c ^ (d % (p - 1) * e) := (pow_mul c _ e).symm
    _ ≡ c [MOD p] := pow_modEq_self hp hrest c

namespace PrivateKey

variable {k : PrivateKey} {coefficient : Nat}

/-! ## Recombination -/

theorem root_modEq_prime2 (h : k.coefficient? = some coefficient) (c : Nat) :
    k.root c ≡ powMod c (k.privateExponent % (k.prime2 - 1)) k.prime2 [MOD k.prime2] := by
  simp only [root, h]
  exact Nat.ModEq.symm (Nat.modEq_of_dvd (by push_cast; exact ⟨_, by ring⟩))

theorem root_modEq_prime1 (h : k.coefficient? = some coefficient) (c : Nat) :
    k.root c ≡ powMod c (k.privateExponent % (k.prime1 - 1)) k.prime1 [MOD k.prime1] := by
  obtain ⟨_, hprime1, _⟩ := k.consistent
  obtain ⟨_, hinverse⟩ := inverseMod?_spec (by omega) h
  simp only [root, h]
  generalize powMod c (k.privateExponent % (k.prime1 - 1)) k.prime1 = m₁
  generalize powMod c (k.privateExponent % (k.prime2 - 1)) k.prime2 = m₂
  have hsum : m₁ + (k.prime1 - m₂ % k.prime1) + m₂ % k.prime1 = m₁ + k.prime1 := by
    have hlt := Nat.mod_lt m₂ (show k.prime1 > 0 by omega)
    omega
  calc (m₁ + (k.prime1 - m₂ % k.prime1)) % k.prime1 * coefficient % k.prime1 * k.prime2 + m₂
      ≡ (m₁ + (k.prime1 - m₂ % k.prime1)) * coefficient * k.prime2 + m₂ [MOD k.prime1] :=
        ((((Nat.mod_modEq _ _).trans ((Nat.mod_modEq _ _).mul_right coefficient)).mul_right
          k.prime2).add_right m₂)
    _ = (m₁ + (k.prime1 - m₂ % k.prime1)) * (k.prime2 * coefficient) + m₂ := by ring
    _ ≡ (m₁ + (k.prime1 - m₂ % k.prime1)) * 1 + m₂ % k.prime1 [MOD k.prime1] :=
        (hinverse.mul_left _).add (Nat.mod_modEq m₂ _).symm
    _ = m₁ + k.prime1 := by rw [mul_one, hsum]
    _ ≡ m₁ [MOD k.prime1] := by simp [Nat.ModEq]

theorem exists_coefficient?_iff (k : PrivateKey) :
    (∃ coefficient, k.coefficient? = some coefficient) ↔ Nat.Coprime k.prime1 k.prime2 :=
  exists_inverseMod?_iff

/-- The power of the root with the public exponent is what the root was taken of. -/
theorem root_pow (hp : k.prime1.Prime) (hq : k.prime2.Prime) (h : k.coefficient? = some coefficient)
    {c : Nat} (hc : c < k.modulus) : k.root c ^ k.publicExponent % k.modulus = c := by
  obtain ⟨hmodulus, _, _, _, _, _, _, _, hexponent1, hexponent2⟩ := k.consistent
  have hmod1 : k.root c ^ k.publicExponent ≡ c [MOD k.prime1] :=
    ((root_modEq_prime1 h c).pow _).trans (powMod_pow_modEq hp hexponent1 c)
  have hmod2 : k.root c ^ k.publicExponent ≡ c [MOD k.prime2] :=
    ((root_modEq_prime2 h c).pow _).trans (powMod_pow_modEq hq hexponent2 c)
  have hboth : k.root c ^ k.publicExponent ≡ c [MOD k.modulus] := by
    rw [hmodulus]
    exact (Nat.modEq_and_modEq_iff_modEq_mul (k.exists_coefficient?_iff.1 ⟨_, h⟩)).1
      ⟨hmod1, hmod2⟩
  exact Eq.trans hboth (Nat.mod_eq_of_lt hc)

/-! ## Signing -/

/-- The padded digest begins with a zero octet, so it is less than the modulus. -/
theorem toNat_lt_of_encodedDigest? {message encoded : Octets}
    (h : encodedDigest? k.size message = some encoded) : Octets.toNat encoded < k.modulus := by
  obtain ⟨⟨filling, _, hencoded⟩, hlength⟩ := isEncoding_of_encodedDigest? h
  have hsize : k.size = k.modulus.log2 / 8 + 1 :=
    if_neg (Nat.ne_of_gt k.modulus_pos)
  have hle := Octets.pow_log2_le k.modulus_pos
  rw [hencoded] at hlength ⊢
  simp only [List.append_assoc, List.cons_append, List.nil_append, List.length_cons] at hlength ⊢
  generalize (List.replicate filling 0xFF ++ _ : Octets) = rest at hlength ⊢
  have hrest := Octets.toNat_lt rest
  have hone : (1 : UInt8).toNat = 1 := rfl
  have hzero : (0 : UInt8).toNat = 0 := rfl
  rw [Octets.toNat_cons, Octets.toNat_cons, hone, hzero, zero_mul, zero_add, one_mul]
  calc 256 ^ rest.length + Octets.toNat rest < 256 ^ rest.length * 256 := by omega
    _ = 256 ^ (rest.length + 1) := (Nat.pow_succ ..).symm
    _ = 256 ^ (k.modulus.log2 / 8) := by rw [show k.modulus.log2 / 8 = rest.length + 1 by omega]
    _ ≤ k.modulus := hle

/-- The digest with its head has 51 octets, and 11 more are needed around it. -/
def leastSize : Nat := 62

theorem exists_encodedDigest?_iff {size : Nat} (message : Octets) :
    (∃ encoded, encodedDigest? size message = some encoded) ↔ leastSize ≤ size := by
  have hlength : (digestHead ++ Sha256.digest message).length = 51 := by
    rw [List.length_append, Sha256.length_digest]
    rfl
  simp only [encodedDigest?, hlength, leastSize]
  split
  · refine iff_of_false (fun h => ?_) (by omega)
    obtain ⟨_, h⟩ := h
    cases h
  · exact iff_of_true ⟨_, rfl⟩ (by omega)

/-- There is room for the padded digest, and the root of it passes its check. -/
structure CanSign (k : PrivateKey) (message : Octets) : Prop where
  size : leastSize ≤ k.size
  root : ∀ encoded, encodedDigest? k.size message = some encoded →
    k.root (Octets.toNat encoded) ^ k.publicExponent % k.modulus = Octets.toNat encoded

theorem exists_sign?_iff {message : Octets} :
    (∃ signature, k.sign? message = some signature) ↔ k.CanSign message := by
  constructor
  · rintro ⟨signature, hsign⟩
    obtain ⟨encoded, hencoded, hcheck, _⟩ := sign?_eq_some hsign
    refine ⟨(exists_encodedDigest?_iff message).1 ⟨encoded, hencoded⟩, fun other hother => ?_⟩
    rw [hencoded] at hother
    cases hother
    rw [← powMod_eq]
    exact hcheck
  · intro h
    obtain ⟨encoded, hencoded⟩ := (exists_encodedDigest?_iff message).2 h.size
    have hcheck := h.root encoded hencoded
    rw [← powMod_eq] at hcheck
    rw [sign?, hencoded]
    simp only [Option.bind_eq_bind, Option.bind_some, hcheck, guard, if_true]
    exact ⟨_, rfl⟩

theorem exists_sign? (hp : k.prime1.Prime) (hq : k.prime2.Prime)
    (h : k.coefficient? = some coefficient) (hsize : leastSize ≤ k.size) (message : Octets) :
    ∃ signature, k.sign? message = some signature :=
  exists_sign?_iff.2 ⟨hsize, fun _ hencoded =>
    root_pow hp hq h (toNat_lt_of_encodedDigest? hencoded)⟩

/-- The factors are two primes, and there is room for the padded digest. -/
structure IsSound (k : PrivateKey) : Prop where
  prime1 : k.prime1.Prime
  prime2 : k.prime2.Prime
  distinct : k.prime1 ≠ k.prime2
  size : leastSize ≤ k.size

theorem IsSound.canSign (h : k.IsSound) (message : Octets) : k.CanSign message := by
  have hcoprime := (Nat.coprime_primes h.prime1 h.prime2).2 h.distinct
  obtain ⟨coefficient, hc⟩ := k.exists_coefficient?_iff.2 hcoprime
  exact exists_sign?_iff.1 (exists_sign? h.prime1 h.prime2 hc h.size message)

end PrivateKey

end Acme.Rsa
