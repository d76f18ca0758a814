import Acme.Proofs.Octets
import Acme.Rsa.Signature
import Mathlib.Data.Option.Basic

/-!
# Signatures that verify

A signature made with a private key has as many octets as the modulus and is below it as a number,
and its power with the public exponent is the padded digest of the message (`verifies_of_sign?`).
This needs no primes: a root that fails its check is not given out.
-/

namespace Acme.Rsa

/-! ## Powers -/

/-- Repeated squaring gives the power: a square for each binary digit of the exponent, and a
factor for each odd one. -/
theorem powMod_eq (base exponent m : Nat) : powMod base exponent m = base ^ exponent % m := by
  fun_induction powMod base exponent m with
  | case1 base => rw [Nat.pow_zero]
  | case2 base exponent hne half hodd ih =>
    have hexponent : exponent = 2 * (exponent / 2) + 1 := by omega
    have hhalf : half = (base * base) ^ (exponent / 2) % m :=
      ih.trans (Nat.pow_mod _ _ _).symm
    calc base * half % m = base * (base * base) ^ (exponent / 2) % m := by
          rw [hhalf, Nat.mul_mod, Nat.mod_mod, ← Nat.mul_mod]
      _ = base ^ (2 * (exponent / 2) + 1) % m := by
          rw [Nat.pow_succ', Nat.pow_mul, Nat.pow_two]
      _ = base ^ exponent % m := by rw [← hexponent]
  | case3 base exponent hne half heven ih =>
    have hexponent : exponent = 2 * (exponent / 2) := by omega
    calc half = (base * base) ^ (exponent / 2) % m := ih.trans (Nat.pow_mod _ _ _).symm
      _ = base ^ (2 * (exponent / 2)) % m := by rw [Nat.pow_mul, Nat.pow_two]
      _ = base ^ exponent % m := by rw [← hexponent]

/-! ## Padding -/

/-- The encoding of a digest for a signature (EMSA-PKCS1-v1_5): eight octets of filling or more,
then the digest with its head. -/
def IsEncoding (digest encoded : Octets) : Prop :=
  ∃ filling, 8 ≤ filling
    ∧ encoded = [0x00, 0x01] ++ List.replicate filling 0xFF ++ [0x00] ++ digestHead ++ digest

theorem isEncoding_of_encodedDigest? {size : Nat} {message encoded : Octets}
    (h : encodedDigest? size message = some encoded) :
    IsEncoding (Sha256.digest message) encoded ∧ encoded.length = size := by
  simp only [encodedDigest?] at h
  split at h
  · cases h
  · next hsize =>
    cases h
    refine ⟨⟨size - (digestHead ++ Sha256.digest message).length - 3, by omega, by simp⟩, ?_⟩
    simp only [List.length_append, List.length_cons, List.length_replicate] at hsize ⊢
    omega

/-! ## Roots -/

namespace PrivateKey

variable {k : PrivateKey} {message signature : Octets}

theorem modulus_pos (k : PrivateKey) : 0 < k.modulus := by
  have hodd := k.consistent.2.2.2.1
  omega

theorem publicExponent_pos (k : PrivateKey) : 0 < k.publicExponent := by
  have hge := k.consistent.2.2.2.2.2.2.1
  omega

/-- Both ways to take a root stay below the modulus. -/
theorem root_lt_modulus (k : PrivateKey) (c : Nat) : k.root c < k.modulus := by
  obtain ⟨hmodulus, hprime1, hprime2, _⟩ := k.consistent
  rw [root]
  split
  · next coefficient _ =>
    have hm₂ : powMod c (k.privateExponent % (k.prime2 - 1)) k.prime2 < k.prime2 := by
      rw [powMod_eq]
      exact Nat.mod_lt _ (by omega)
    -- The root is a multiple of the second factor, and a rest below it.
    have hcofactor (x : Nat) : x % k.prime1 + 1 ≤ k.prime1 := Nat.mod_lt x (by omega)
    calc _ < (_ % k.prime1 + 1) * k.prime2 := by
          rw [Nat.add_mul, Nat.one_mul]
          exact Nat.add_lt_add_left hm₂ _
      _ ≤ k.prime1 * k.prime2 := Nat.mul_le_mul_right _ (hcofactor _)
      _ = k.modulus := hmodulus.symm
  · rw [powMod_eq]
    exact Nat.mod_lt _ k.modulus_pos

/-! ## Signing -/

/-- A signature was made from a root that has passed its check. -/
theorem sign?_eq_some (h : k.sign? message = some signature) :
    ∃ encoded, encodedDigest? k.size message = some encoded
      ∧ powMod (k.root (Octets.toNat encoded)) k.publicExponent k.modulus = Octets.toNat encoded
      ∧ signature = Octets.ofNatPadded k.size (k.root (Octets.toNat encoded)) := by
  obtain ⟨encoded, hencoded, h⟩ := Option.bind_eq_some_iff.1 h
  by_cases hcheck :
      powMod (k.root (Octets.toNat encoded)) k.publicExponent k.modulus = Octets.toNat encoded
  · simp only [hcheck, guard, if_true] at h
    cases h
    exact ⟨encoded, hencoded, hcheck, rfl⟩
  · simp only [hcheck, guard, if_false] at h
    cases h

theorem length_of_sign? (h : k.sign? message = some signature) : signature.length = k.size := by
  obtain ⟨encoded, _, _, rfl⟩ := sign?_eq_some h
  exact Octets.length_ofNatPadded _ _

/-- The octets of a root stand for the root itself: the modulus has as many. -/
theorem toNat_ofNatPadded_root (k : PrivateKey) (c : Nat) :
    Octets.toNat (Octets.ofNatPadded k.size (k.root c)) = k.root c := by
  have hlt : k.root c < 256 ^ k.size :=
    Nat.lt_trans (k.root_lt_modulus c) (Octets.lt_pow_lengthOfNat _)
  rw [Octets.toNat_ofNatPadded, Nat.mod_eq_of_lt hlt]

theorem toNat_lt_of_sign? (h : k.sign? message = some signature) :
    Octets.toNat signature < k.modulus := by
  obtain ⟨encoded, _, _, rfl⟩ := sign?_eq_some h
  rw [toNat_ofNatPadded_root]
  exact k.root_lt_modulus _

theorem toNat_of_sign? (h : k.sign? message = some signature) :
    ∃ encoded, encodedDigest? k.size message = some encoded
      ∧ Octets.toNat signature ^ k.publicExponent % k.modulus = Octets.toNat encoded := by
  obtain ⟨encoded, hencoded, hcheck, rfl⟩ := sign?_eq_some h
  refine ⟨encoded, hencoded, ?_⟩
  rw [toNat_ofNatPadded_root, ← powMod_eq, hcheck]

/-- Whoever has the public key can verify what was signed. -/
theorem verifies_of_sign? (h : k.sign? message = some signature) :
    k.publicKey.Verifies message signature := by
  obtain ⟨encoded, hencoded, hpower⟩ := toNat_of_sign? h
  have hlength := length_of_sign? h
  refine ⟨hlength, toNat_lt_of_sign? h, ?_⟩
  rw [hlength, hencoded, powMod_eq]
  exact congrArg some hpower.symm

end PrivateKey

end Acme.Rsa
