import Acme.Json.Document
import Acme.Proofs.Octets
import Mathlib.Data.List.Basic

/-!
# Integers in JSON texts

An integer is scanned up to the sign that ends it (`scanScalar?_integer`).
-/

namespace Acme.Json

open Octets

/-! ## What stands behind a value -/

/-- What may stand behind a value: nothing, or a sign that ends it. -/
def Ends (rest : Octets) : Prop :=
  ∀ b after, rest = b :: after → b = 0x2C ∨ b = 0x5D ∨ b = 0x7D

theorem ends_nil : Ends [] := nofun

theorem ends_comma (rest : Octets) : Ends (0x2C :: rest) := by
  rintro b after ⟨⟩
  exact .inl rfl

theorem ends_bracket (rest : Octets) : Ends (0x5D :: rest) := by
  rintro b after ⟨⟩
  exact .inr (.inl rfl)

theorem ends_brace (rest : Octets) : Ends (0x7D :: rest) := by
  rintro b after ⟨⟩
  exact .inr (.inr rfl)

/-! ## Digits -/

def decimal (n : Nat) : Octets :=
  ofChars (Nat.toDigits 10 n)

theorem toNat_of_isDigit {c : Char} (h : c.isDigit = true) : 48 ≤ c.toNat ∧ c.toNat ≤ 57 := by
  simp only [Char.isDigit, Bool.and_eq_true, decide_eq_true_eq, UInt32.le_iff_toNat_le] at h
  exact h

theorem ofChars_digits {cs : List Char} (h : ∀ c ∈ cs, c.isDigit = true) :
    ofChars cs = cs.map fun c => UInt8.ofNat c.toNat := by
  induction cs with
  | nil => exact ofChars_nil
  | cons c cs ih =>
    rw [List.forall_mem_cons] at h
    have hc : c.toNat < 0x80 := Nat.lt_of_le_of_lt (toNat_of_isDigit h.1).2 (by decide)
    rw [ofChars_cons, ofChars_ascii hc, ih h.2]
    rfl

theorem decimal_eq_map (n : Nat) :
    decimal n = (Nat.toDigits 10 n).map fun c => UInt8.ofNat c.toNat :=
  ofChars_digits fun _ hc => Nat.isDigit_of_mem_toDigits (by decide) (by decide) hc

theorem isDigit_of_mem_decimal {n : Nat} {b : UInt8} (hb : b ∈ decimal n) : isDigit b = true := by
  rw [decimal_eq_map] at hb
  obtain ⟨c, hc, rfl⟩ := List.mem_map.1 hb
  obtain ⟨h1, h2⟩ := toNat_of_isDigit (Nat.isDigit_of_mem_toDigits (by decide) (by decide) hc)
  simp only [isDigit, Bool.and_eq_true, decide_eq_true_eq, UInt8.le_iff_toNat_le, UInt8.toNat_ofNat']
  constructor
  · change 48 ≤ c.toNat % 256; omega
  · change c.toNat % 256 ≤ 57; omega

theorem natural?_decimal (n : Nat) : (Document.number (decimal n)).natural? = some n := by
  have hdigits : (decimal n).all isDigit = true :=
    List.all_eq_true.2 fun _ hb => isDigit_of_mem_decimal hb
  have hdigit (m : Nat) (c : Char) (hc : c ∈ Nat.toDigits 10 n) :
      m * 10 + ((UInt8.ofNat c.toNat).toNat - 0x30) = 10 * m + (c.toNat - '0'.toNat) := by
    have hd := toNat_of_isDigit (Nat.isDigit_of_mem_toDigits (by decide) (by decide) hc)
    have hlt : c.toNat < 256 := Nat.lt_of_le_of_lt hd.2 (by decide)
    rw [UInt8.toNat_ofNat', Nat.mod_eq_of_lt hlt, Nat.mul_comm]
    rfl
  rw [Document.natural?, if_pos hdigits, decimal_eq_map, List.foldl_map,
    List.foldl_ext _ _ _ hdigit, ← Nat.ofDigitChars_eq_foldl, Nat.ofDigitChars_ten_toDigits]

theorem decimal_ne_nil (n : Nat) : decimal n ≠ [] := by
  rw [decimal_eq_map]
  simp

theorem head?_toDigits_ne_zero {n : Nat} (h : 0 < n) : (Nat.toDigits 10 n).head? ≠ some '0' := by
  induction n using Nat.strongRecOn with
  | ind n ih =>
    rw [Nat.toDigits_eq_if (by decide)]
    split
    · next hlt =>
      have all : ∀ k : Fin 10, 0 < k.val → [k.val.digitChar].head? ≠ some '0' := by decide
      exact all ⟨n, hlt⟩ h
    · next hge =>
      have hne := ih (n / 10) (by omega) (by omega)
      obtain ⟨c, cs, hcs⟩ := List.exists_cons_of_ne_nil (Nat.toDigits_ne_nil (n := n / 10) (b := 10))
      rw [hcs] at hne ⊢
      exact hne

theorem decimal_cases (n : Nat) : decimal n = [0x30] ∨ ∀ rest, decimal n ≠ 0x30 :: rest := by
  rcases Nat.eq_zero_or_pos n with rfl | h
  · exact .inl (by decide)
  · refine .inr fun rest he => ?_
    rw [decimal_eq_map] at he
    cases hd : Nat.toDigits 10 n with
    | nil => exact Nat.toDigits_ne_nil hd
    | cons c cs =>
      have hne := head?_toDigits_ne_zero h
      have hdigit : c.isDigit = true :=
        Nat.isDigit_of_mem_toDigits (b := 10) (n := n) (by decide) (by decide) (by rw [hd]; simp)
      rw [hd] at he hne
      refine hne ?_
      have hc := (List.cons.inj he).1
      simp only [Char.isDigit, Bool.and_eq_true, decide_eq_true_eq, UInt32.le_iff_toNat_le] at hdigit
      have hle : c.toNat ≤ 57 := hdigit.2
      have hn := congrArg UInt8.toNat hc
      rw [UInt8.toNat_ofNat'] at hn
      change c.toNat % 256 = 48 at hn
      have hz : c = '0' := Char.toNat_inj.1 (show c.toNat = 48 by omega)
      rw [hz]
      rfl

/-! ## Scanning -/

theorem isDigit_eq_false_of_ends {b : UInt8} {rest : Octets} (h : Ends (b :: rest)) :
    isDigit b = false := by
  rcases h b rest rfl with rfl | rfl | rfl <;> decide

theorem scanDigits?_decimal (n : Nat) {rest : Octets} (h : Ends rest) :
    scanDigits? (decimal n ++ rest) = some (decimal n, rest) := by
  have hall : ∀ b ∈ decimal n, isDigit b = true := fun b hb => isDigit_of_mem_decimal hb
  have hrest : rest.takeWhile isDigit = [] ∧ rest.dropWhile isDigit = rest := by
    cases rest with
    | nil => exact ⟨rfl, rfl⟩
    | cons b after => simp [isDigit_eq_false_of_ends h]
  have htake : (decimal n ++ rest).takeWhile isDigit = decimal n := by
    rw [List.takeWhile_append_of_pos hall, hrest.1, List.append_nil]
  have hdrop : (decimal n ++ rest).dropWhile isDigit = rest := by
    rw [List.dropWhile_append_of_pos hall, hrest.2]
  simp only [scanDigits?, htake, hdrop, List.isEmpty_iff, decimal_ne_nil, if_false]

theorem scanWhole?_decimal (n : Nat) {rest : Octets} (h : Ends rest) :
    scanWhole? (decimal n ++ rest) = some (decimal n, rest) := by
  rw [scanWhole?, scanDigits?_decimal n h]
  rcases decimal_cases n with hz | hnz
  · rw [hz]
    rfl
  · split
    · next he => exact absurd (congrArg Prod.fst (Option.some.inj he)) (hnz _)
    · rfl

theorem scanTail_of_ends {rest : Octets} (h : Ends rest) :
    scanFraction? rest = some ([], rest) ∧ scanExponent? rest = some ([], rest) := by
  cases rest with
  | nil => exact ⟨rfl, rfl⟩
  | cons b after =>
    rcases h b after rfl with rfl | rfl | rfl <;> exact ⟨by simp [scanFraction?], by simp [scanExponent?]⟩

theorem scanNumber?_of_whole {bytes sign whole rest : Octets} (hm : scanMinus bytes = (sign, whole ++ rest))
    (hw : scanWhole? (whole ++ rest) = some (whole, rest)) (h : Ends rest) :
    scanNumber? bytes = some (sign ++ whole, rest) := by
  obtain ⟨hf, he⟩ := scanTail_of_ends h
  simp [scanNumber?, hm, hw, hf, he]

/-- The octets of an integer: digits, with a minus sign before them when it is negative. -/
theorem ofChars_toString (n : Int) :
    (∃ m : Nat, n = m ∧ ofChars (toString n).toList = decimal m)
    ∨ ∃ m : Nat, n = -m ∧ ofChars (toString n).toList = 0x2D :: decimal m := by
  cases n with
  | ofNat m =>
    refine .inl ⟨m, rfl, ?_⟩
    change ofChars (Nat.repr m).toList = _
    rw [Nat.toList_repr, decimal]
  | negSucc m =>
    refine .inr ⟨m + 1, rfl, ?_⟩
    change ofChars ("-" ++ Nat.repr (m + 1)).toList = _
    rw [String.toList_append, ofChars_append, Nat.toList_repr, decimal]
    rfl

theorem scanScalar?_integer (n : Int) {rest : Octets} (h : Ends rest) :
    ∃ b tail, ofChars (toString n).toList ++ rest = b :: tail ∧ (b = 0x2D ∨ isDigit b = true)
      ∧ scanScalar? (b :: tail) = some (.number (ofChars (toString n).toList), rest) := by
  rcases ofChars_toString n with ⟨m, _, hm⟩ | ⟨m, _, hm⟩
  · rw [hm]
    cases hd : decimal m with
    | nil => exact absurd hd (decimal_ne_nil m)
    | cons b tail =>
      have hb : isDigit b = true := isDigit_of_mem_decimal (n := m) (by rw [hd]; simp)
      refine ⟨b, tail ++ rest, rfl, .inr hb, ?_⟩
      have hminus : scanMinus (b :: tail ++ rest) = ([], b :: tail ++ rest) := by
        unfold scanMinus
        split
        · next he =>
          rw [(List.cons.inj he).1] at hb
          exact absurd hb (by decide)
        · rfl
      have hwhole := scanWhole?_decimal m h
      rw [hd] at hwhole
      have hnum : scanNumber? (b :: tail ++ rest) = some (b :: tail, rest) :=
        scanNumber?_of_whole hminus hwhole h
      unfold scanScalar?
      split
      all_goals first
        | (next he => rw [(List.cons.inj he).1] at hb; exact absurd hb (by decide))
        | (rw [← List.cons_append, hnum]; rfl)
  · rw [hm]
    refine ⟨0x2D, decimal m ++ rest, rfl, .inl rfl, ?_⟩
    have hnum : scanNumber? (0x2D :: (decimal m ++ rest)) = some ([0x2D] ++ decimal m, rest) :=
      scanNumber?_of_whole rfl (scanWhole?_decimal m h) h
    simp [scanScalar?, hnum]

end Acme.Json
