import Acme.Base64
import Mathlib.Data.Option.Basic

/-!
# Base 64 is lossless

Decoding undoes encoding, with either alphabet: `decode?_encode` without padding and
`decodePadded?_encodePadded` with it. Encoding undoes decoding too, so that every digit counts
(`encode_of_decode?`).
-/

namespace Acme.Base64

theorem value?_digit (alphabet : Alphabet) {n : Nat} (h : n < 64) :
    alphabet.value? (alphabet.digit n) = some n := by
  have all : ∀ k : Fin 64, alphabet.value? (alphabet.digit k) = some k.val := by
    cases alphabet <;> decide
  exact all ⟨n, h⟩

/-- An octet that was cut into a high and a low part is put together again. -/
theorem ofNat_eq_of_toNat {b : UInt8} {n : Nat} (h : n = b.toNat) : UInt8.ofNat n = b := by
  rw [h, UInt8.ofNat_toNat]

theorem decode?_encode (alphabet : Alphabet) (bytes : Octets) :
    decode? alphabet (encode alphabet bytes) = some bytes := by
  fun_induction encode alphabet bytes with
  | case1 a b c rest ih =>
    have ha := a.toNat_lt
    have hb := b.toNat_lt
    have hc := c.toNat_lt
    rw [decode?, value?_digit alphabet (show a.toNat / 4 < 64 by omega),
      value?_digit alphabet (show a.toNat % 4 * 16 + b.toNat / 16 < 64 by omega),
      value?_digit alphabet (show b.toNat % 16 * 4 + c.toNat / 64 < 64 by omega),
      value?_digit alphabet (show c.toNat % 64 < 64 by omega), ih]
    simp only [Option.bind_eq_bind, Option.bind_some, Option.pure_def, Option.some.injEq]
    rw [ofNat_eq_of_toNat (b := a) (by omega), ofNat_eq_of_toNat (b := b) (by omega),
      ofNat_eq_of_toNat (b := c) (by omega)]
  | case2 a b =>
    have ha := a.toNat_lt
    have hb := b.toNat_lt
    rw [decode?, value?_digit alphabet (show a.toNat / 4 < 64 by omega),
      value?_digit alphabet (show a.toNat % 4 * 16 + b.toNat / 16 < 64 by omega),
      value?_digit alphabet (show b.toNat % 16 * 4 < 64 by omega)]
    have hg : b.toNat % 16 * 4 % 4 = 0 := by omega
    simp only [Option.bind_eq_bind, Option.bind_some, hg, guard, if_true, Option.pure_def]
    rw [ofNat_eq_of_toNat (b := a) (by omega), ofNat_eq_of_toNat (b := b) (by omega)]
  | case3 a =>
    have ha := a.toNat_lt
    rw [decode?, value?_digit alphabet (show a.toNat / 4 < 64 by omega),
      value?_digit alphabet (show a.toNat % 4 * 16 < 64 by omega)]
    have hg : a.toNat % 4 * 16 % 16 = 0 := by omega
    simp only [Option.bind_eq_bind, Option.bind_some, hg, guard, if_true, Option.pure_def]
    rw [ofNat_eq_of_toNat (b := a) (by omega)]
  | case4 => rfl

theorem decode?_url (bytes : Octets) : decode? .urlSafe (url bytes).toList = some bytes := by
  rw [url, String.toList_ofList, decode?_encode]

/-! ## What is read -/

/-- The digits of an alphabet that are neither letters nor decimal digits. -/
def Alphabet.marks : Alphabet → List Char
  | .standard => ['+', '/']
  | .urlSafe => ['-', '_']

theorem toNat_lt_of_value? {alphabet : Alphabet} {c : Char} (h : alphabet.value? c ≠ none) :
    c.toNat < 128 := by
  by_contra hlarge
  refine h ?_
  unfold Alphabet.value?
  dsimp only
  rw [if_neg (by omega), if_neg (by omega), if_neg (by omega)]
  split <;> first | rfl | exact absurd (by decide) hlarge

/-- Every character that has a value is the digit of it. -/
theorem digit_of_value? {alphabet : Alphabet} {c : Char} {n : Nat}
    (h : alphabet.value? c = some n) : n < 64 ∧ alphabet.digit n = c := by
  have all : ∀ k : Fin 128, ∀ v ∈ alphabet.value? (Char.ofNat k),
      v < 64 ∧ alphabet.digit v = Char.ofNat k := by
    cases alphabet <;> decide
  have hsome : alphabet.value? c ≠ none := by
    rw [h]
    exact Option.some_ne_none n
  have hchar := all ⟨c.toNat, toNat_lt_of_value? hsome⟩ n
  rw [Char.ofNat_toNat] at hchar
  exact hchar h

theorem isAlphanum_of_value? {alphabet : Alphabet} {c : Char} (h : alphabet.value? c ≠ none) :
    c.isAlphanum = true ∨ c ∈ alphabet.marks := by
  have all : ∀ k : Fin 128, alphabet.value? (Char.ofNat k) ≠ none →
      (Char.ofNat k).isAlphanum = true ∨ Char.ofNat k ∈ alphabet.marks := by
    cases alphabet <;> decide
  have hchar := all ⟨c.toNat, toNat_lt_of_value? h⟩
  rw [Char.ofNat_toNat] at hchar
  exact hchar h

/-- What is read is written again in the same way. -/
theorem encode_of_decode? {alphabet : Alphabet} {cs : List Char} {bytes : Octets}
    (h : decode? alphabet cs = some bytes) : encode alphabet bytes = cs := by
  fun_induction decode? alphabet cs generalizing bytes with
  | case1 w x y z rest ih =>
    simp only [Option.bind_eq_bind, Option.bind_eq_some_iff, Option.pure_def,
      Option.some.injEq] at h
    obtain ⟨w', hw, x', hx, y', hy, z', hz, more, hmore, rfl⟩ := h
    obtain ⟨hw, rfl⟩ := digit_of_value? hw
    obtain ⟨hx, rfl⟩ := digit_of_value? hx
    obtain ⟨hy, rfl⟩ := digit_of_value? hy
    obtain ⟨hz, rfl⟩ := digit_of_value? hz
    rw [encode, ih hmore]
    simp only [UInt8.toNat_ofNat']
    rw [show (w' * 4 + x' / 16) % 2 ^ 8 / 4 = w' by omega,
      show (w' * 4 + x' / 16) % 2 ^ 8 % 4 * 16 + (x' % 16 * 16 + y' / 4) % 2 ^ 8 / 16 = x' by omega,
      show (x' % 16 * 16 + y' / 4) % 2 ^ 8 % 16 * 4 + (y' % 4 * 64 + z') % 2 ^ 8 / 64 = y' by omega,
      show (y' % 4 * 64 + z') % 2 ^ 8 % 64 = z' by omega]
  | case2 w x y =>
    simp only [Option.bind_eq_bind, Option.bind_eq_some_iff, guard, Option.pure_def,
      Option.some.injEq] at h
    obtain ⟨w', hw, x', hx, y', hy, u, hu, rfl⟩ := h
    obtain ⟨hw, rfl⟩ := digit_of_value? hw
    obtain ⟨hx, rfl⟩ := digit_of_value? hx
    obtain ⟨hy, rfl⟩ := digit_of_value? hy
    have hlow : y' % 4 = 0 := by
      by_contra hne
      simp [hne] at hu
    rw [encode]
    simp only [UInt8.toNat_ofNat']
    rw [show (w' * 4 + x' / 16) % 2 ^ 8 / 4 = w' by omega,
      show (w' * 4 + x' / 16) % 2 ^ 8 % 4 * 16 + (x' % 16 * 16 + y' / 4) % 2 ^ 8 / 16 = x' by omega,
      show (x' % 16 * 16 + y' / 4) % 2 ^ 8 % 16 * 4 = y' by omega]
  | case3 w x =>
    simp only [Option.bind_eq_bind, Option.bind_eq_some_iff, guard, Option.pure_def,
      Option.some.injEq] at h
    obtain ⟨w', hw, x', hx, u, hu, rfl⟩ := h
    obtain ⟨hw, rfl⟩ := digit_of_value? hw
    obtain ⟨hx, rfl⟩ := digit_of_value? hx
    have hlow : x' % 16 = 0 := by
      by_contra hne
      simp [hne] at hu
    rw [encode]
    simp only [UInt8.toNat_ofNat']
    rw [show (w' * 4 + x' / 16) % 2 ^ 8 / 4 = w' by omega,
      show (w' * 4 + x' / 16) % 2 ^ 8 % 4 * 16 = x' by omega]
  | case4 => cases h
  | case5 =>
    cases h
    rfl

theorem length_encode (alphabet : Alphabet) (bytes : Octets) :
    (encode alphabet bytes).length = (4 * bytes.length + 2) / 3 := by
  fun_induction encode alphabet bytes with
  | case1 a b c rest ih =>
    simp only [List.length_cons, ih]
    omega
  | case2 => simp
  | case3 => simp
  | case4 => rfl

/-! ## Padding -/

theorem digit_ne (alphabet : Alphabet) {n : Nat} {c : Char} (h : n < 64)
    (hc : alphabet.value? c = none) : alphabet.digit n ≠ c := by
  intro heq
  have hvalue := value?_digit alphabet h
  rw [heq, hc] at hvalue
  cases hvalue

theorem dropPadding?_group {w x y z : Char} (h : z ≠ '=') (rest : List Char) :
    dropPadding? (w :: x :: y :: z :: rest) = (dropPadding? rest).map (w :: x :: y :: z :: ·) := by
  have hpadded : ¬(rest = [] ∧ z = '=') := fun hboth => h hboth.2
  rw [dropPadding?, if_neg hpadded]
  cases dropPadding? rest <;> rfl

theorem value?_pad (alphabet : Alphabet) : alphabet.value? '=' = none := by
  cases alphabet <;> decide

theorem dropPadding?_encodePadded (alphabet : Alphabet) (bytes : Octets) :
    dropPadding? (encodePadded alphabet bytes) = some (encode alphabet bytes) := by
  rw [encodePadded]
  fun_induction encode alphabet bytes with
  | case1 a b c rest ih =>
    have hc := c.toNat_lt
    have hlast := digit_ne alphabet (show c.toNat % 64 < 64 by omega) (value?_pad alphabet)
    have hpadding : padding (a :: b :: c :: rest).length = padding rest.length := by
      simp only [padding, List.length_cons]
      rw [show rest.length + 1 + 1 + 1 = rest.length + 3 from rfl, Nat.add_mod_right]
    rw [hpadding]
    simp only [List.cons_append]
    rw [dropPadding?_group hlast, ih, Option.map_some]
  | case2 a b =>
    have hb := b.toNat_lt
    have hlast := digit_ne alphabet (show b.toNat % 16 * 4 < 64 by omega) (value?_pad alphabet)
    simp only [padding, List.length_cons, List.length_nil, List.cons_append, List.nil_append]
    rw [dropPadding?, if_pos ⟨rfl, rfl⟩, if_neg hlast]
  | case3 a => rfl
  | case4 => rfl

theorem decodePadded?_encodePadded (alphabet : Alphabet) (bytes : Octets) :
    decodePadded? alphabet (encodePadded alphabet bytes) = some bytes := by
  rw [decodePadded?, dropPadding?_encodePadded]
  exact decode?_encode alphabet bytes

theorem encodePadded_ne_nil (alphabet : Alphabet) {bytes : Octets} (h : bytes ≠ []) :
    encodePadded alphabet bytes ≠ [] := by
  rw [encodePadded]
  fun_cases encode alphabet bytes with
  | case4 => exact absurd rfl h
  | _ => exact List.cons_ne_nil _ _

theorem value?_ne_none (alphabet : Alphabet) {n : Nat} (h : n < 64) :
    alphabet.value? (alphabet.digit n) ≠ none := by
  rw [value?_digit alphabet h]
  exact Option.some_ne_none n

theorem value?_of_mem_encode {alphabet : Alphabet} {bytes : Octets} {c : Char}
    (h : c ∈ encode alphabet bytes) : alphabet.value? c ≠ none := by
  fun_induction encode alphabet bytes with
  | case1 x y z rest ih =>
    have hx := x.toNat_lt
    have hy := y.toNat_lt
    have hz := z.toNat_lt
    simp only [List.mem_cons] at h
    rcases h with rfl | rfl | rfl | rfl | h
    · exact value?_ne_none alphabet (by omega)
    · exact value?_ne_none alphabet (by omega)
    · exact value?_ne_none alphabet (by omega)
    · exact value?_ne_none alphabet (by omega)
    · exact ih h
  | case2 x y =>
    have hx := x.toNat_lt
    have hy := y.toNat_lt
    simp only [List.mem_cons, List.not_mem_nil, or_false] at h
    rcases h with rfl | rfl | rfl <;> exact value?_ne_none alphabet (by omega)
  | case3 x =>
    have hx := x.toNat_lt
    simp only [List.mem_cons, List.not_mem_nil, or_false] at h
    rcases h with rfl | rfl <;> exact value?_ne_none alphabet (by omega)
  | case4 => cases h

theorem padding_eq (count : Nat) :
    padding count = List.replicate ((3 - count % 3) % 3) '=' := by
  have hcases : count % 3 = 0 ∨ count % 3 = 1 ∨ count % 3 = 2 := by omega
  rcases hcases with h | h | h <;> (rw [padding, h]; rfl)

theorem length_encodePadded (alphabet : Alphabet) (bytes : Octets) :
    (encodePadded alphabet bytes).length = (bytes.length + 2) / 3 * 4 := by
  rw [encodePadded, List.length_append, length_encode, padding_eq, List.length_replicate]
  omega

theorem isAlphanum_of_mem_encode {alphabet : Alphabet} {bytes : Octets} {c : Char}
    (h : c ∈ encode alphabet bytes) : c.isAlphanum = true ∨ c ∈ alphabet.marks :=
  isAlphanum_of_value? (value?_of_mem_encode h)

/-- What is written are digits and padding. -/
theorem of_mem_encodePadded {alphabet : Alphabet} {bytes : Octets} {c : Char}
    (h : c ∈ encodePadded alphabet bytes) : alphabet.value? c ≠ none ∨ c = '=' := by
  rw [encodePadded, List.mem_append] at h
  refine h.imp value?_of_mem_encode fun h => ?_
  rw [padding] at h
  split at h <;> simp_all

end Acme.Base64
