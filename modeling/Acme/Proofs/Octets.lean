import Acme.Octets
import Mathlib.Algebra.Group.Nat.Defs

/-!
# Octets of texts and of numbers

The UTF-8 octets of a text are those of its characters one after the other, and reading them gives
the text again. An octet below 0x80 stands for the character with its number; all octets of any
other character are 0x80 or more.

The big-endian octets of a number give the number again (`toNat_ofNat`), and the shortest form has
no zero in front (`head?_ofNat_ne_zero`).
-/

namespace Acme.Octets

/-! ## Characters one after the other -/

theorem ofChars_eq_flatMap (cs : List Char) : ofChars cs = cs.flatMap String.utf8EncodeChar := by
  simp [ofChars, ofText, List.utf8Encode, List.data_toByteArray]

@[simp]
theorem ofChars_nil : ofChars [] = [] := by
  rw [ofChars_eq_flatMap, List.flatMap_nil]

@[simp]
theorem ofChars_append (cs ds : List Char) : ofChars (cs ++ ds) = ofChars cs ++ ofChars ds := by
  rw [ofChars_eq_flatMap, ofChars_eq_flatMap, ofChars_eq_flatMap, List.flatMap_append]

theorem ofChars_cons (c : Char) (cs : List Char) : ofChars (c :: cs) = ofChars [c] ++ ofChars cs :=
  ofChars_append [c] cs

theorem ofChars_toList (text : String) : ofChars text.toList = ofText text := by
  rw [ofChars, String.ofList_toList]

/-! ## One character -/

theorem ofChars_ascii {c : Char} (h : c.toNat < 0x80) : ofChars [c] = [UInt8.ofNat c.toNat] := by
  rw [ofChars_eq_flatMap, List.flatMap_singleton, String.utf8EncodeChar]
  exact if_pos (Nat.le_of_lt_succ h)

theorem eq_of_ascii {c d : Char} (hc : c.toNat < 0x80) (hd : d.toNat < 0x80)
    (h : UInt8.ofNat c.toNat = UInt8.ofNat d.toNat) : c = d := by
  have hnat := congrArg UInt8.toNat h
  rw [UInt8.toNat_ofNat', UInt8.toNat_ofNat', Nat.mod_eq_of_lt (by omega),
    Nat.mod_eq_of_lt (by omega)] at hnat
  exact Char.toNat_inj.1 hnat

theorem le_of_mem_ofChars {c : Char} (h : 0x80 ≤ c.toNat) {b : UInt8} (hb : b ∈ ofChars [c]) :
    0x80 ≤ b := by
  have hv := c.valid
  have hc : c.toNat = c.val.toNat := rfl
  simp only [UInt32.isValidChar, Nat.isValidChar] at hv
  rw [ofChars_eq_flatMap, List.flatMap_singleton, String.utf8EncodeChar] at hb
  simp only [UInt8.le_iff_toNat_le]
  rw [hc] at h
  split at hb
  · omega
  · split at hb
    · simp only [List.mem_cons, List.not_mem_nil, or_false] at hb
      rcases hb with rfl | rfl <;> simp <;> omega
    · split at hb
      · simp only [List.mem_cons, List.not_mem_nil, or_false] at hb
        rcases hb with rfl | rfl | rfl <;> simp <;> omega
      · simp only [List.mem_cons, List.not_mem_nil, or_false] at hb
        rcases hb with rfl | rfl | rfl | rfl <;> simp <;> omega

theorem mem_ofChars_ascii {c : Char} (h : c.toNat < 0x80) {cs : List Char} :
    UInt8.ofNat c.toNat ∈ ofChars cs ↔ c ∈ cs := by
  induction cs with
  | nil => simp
  | cons d cs ih =>
    rw [ofChars_cons, List.mem_append, ih, List.mem_cons]
    refine or_congr_left ⟨fun hd => ?_, fun hd => ?_⟩
    · by_cases hascii : d.toNat < 0x80
      · rw [ofChars_ascii hascii, List.mem_singleton] at hd
        exact eq_of_ascii h hascii hd
      · have hle := UInt8.le_iff_toNat_le.1 (le_of_mem_ofChars (by omega) hd)
        rw [UInt8.toNat_ofNat', Nat.mod_eq_of_lt (by omega)] at hle
        exact absurd hle (by simpa using h)
    · subst hd
      rw [ofChars_ascii h]
      exact List.mem_singleton.2 rfl

theorem ofText_append (a b : String) : ofText (a ++ b) = ofText a ++ ofText b := by
  rw [← ofChars_toList, ← ofChars_toList a, ← ofChars_toList b, String.toList_append, ofChars_append]

/-! ## Reading -/

theorem text?_ofText (text : String) : text? (ofText text) = some text := by
  have h : (⟨⟨ofText text⟩⟩ : ByteArray) = text.toByteArray := rfl
  rw [text?, h, String.fromUTF8?, dif_pos text.isValidUTF8]
  rfl

theorem ofText_of_text? {octets : Octets} {text : String} (h : text? octets = some text) :
    ofText text = octets := by
  rw [text?, String.fromUTF8?] at h
  split at h
  · cases h
    rfl
  · cases h

/-! ## Numbers -/

theorem toNat_concat (bytes : Octets) (b : UInt8) :
    toNat (bytes ++ [b]) = toNat bytes * 256 + b.toNat := by
  simp [toNat]

theorem toNat_append (front back : Octets) :
    toNat (front ++ back) = toNat front * 256 ^ back.length + toNat back := by
  induction back generalizing front with
  | nil => simp [toNat]
  | cons b back ih =>
    have hfront := ih (front ++ [b])
    have hback := ih [b]
    have hsingle : toNat [b] = b.toNat := by simp [toNat]
    rw [List.append_assoc, List.singleton_append] at hfront
    rw [List.singleton_append] at hback
    rw [hfront, hback, toNat_concat, hsingle, List.length_cons, Nat.pow_succ, Nat.add_mul,
      Nat.mul_assoc, Nat.mul_comm 256]
    omega

theorem toNat_cons (b : UInt8) (bytes : Octets) :
    toNat (b :: bytes) = b.toNat * 256 ^ bytes.length + toNat bytes := by
  have hsingle : toNat [b] = b.toNat := by simp [toNat]
  rw [← List.singleton_append, toNat_append, hsingle]

theorem toNat_lt (bytes : Octets) : toNat bytes < 256 ^ bytes.length := by
  induction bytes with
  | nil => exact Nat.one_pos
  | cons b bytes ih =>
    have hb := b.toNat_lt
    have hle : (b.toNat + 1) * 256 ^ bytes.length ≤ 256 * 256 ^ bytes.length :=
      Nat.mul_le_mul_right _ hb
    rw [toNat_cons, List.length_cons, Nat.pow_succ, Nat.mul_comm _ 256]
    rw [Nat.add_mul, Nat.one_mul] at hle
    omega

theorem ofNatPadded_succ (length n : Nat) :
    ofNatPadded (length + 1) n = ofNatPadded length (n / 256) ++ [UInt8.ofNat (n % 256)] :=
  List.reverse_cons

theorem length_ofNatPadded (length n : Nat) : (ofNatPadded length n).length = length := by
  induction length generalizing n with
  | zero => rfl
  | succ length ih => rw [ofNatPadded_succ, List.length_append, ih, List.length_singleton]

theorem toNat_ofNatPadded (length n : Nat) : toNat (ofNatPadded length n) = n % 256 ^ length := by
  induction length generalizing n with
  | zero => exact (Nat.mod_one n).symm
  | succ length ih =>
    have hdigit : (UInt8.ofNat (n % 256)).toNat = n % 256 := by simp
    rw [ofNatPadded_succ, toNat_concat, ih, hdigit, Nat.pow_succ', Nat.mod_mul]
    omega

theorem head?_ofNatPadded (length n : Nat) :
    (ofNatPadded (length + 1) n).head? = some (UInt8.ofNat (n / 256 ^ length)) := by
  induction length generalizing n with
  | zero =>
    rw [ofNatPadded_succ, Nat.pow_zero, Nat.div_one]
    exact congrArg some (UInt8.toNat_inj.1 (by simp))
  | succ length ih =>
    rw [ofNatPadded_succ, List.head?_append, ih, Nat.div_div_eq_div_mul, ← Nat.pow_succ']
    rfl

theorem lt_pow_lengthOfNat (n : Nat) : n < 256 ^ lengthOfNat n := by
  rw [lengthOfNat]
  split
  · omega
  · calc n < 2 ^ (n.log2 + 1) := Nat.lt_log2_self
      _ ≤ 2 ^ (8 * (n.log2 / 8 + 1)) := Nat.pow_le_pow_right (by omega) (by omega)
      _ = 256 ^ (n.log2 / 8 + 1) := Nat.pow_mul 2 8 _

theorem pow_log2_le {n : Nat} (h : 0 < n) : 256 ^ (n.log2 / 8) ≤ n := by
  calc 256 ^ (n.log2 / 8) = 2 ^ (8 * (n.log2 / 8)) := (Nat.pow_mul 2 8 _).symm
    _ ≤ 2 ^ n.log2 := Nat.pow_le_pow_right (by omega) (by omega)
    _ ≤ n := Nat.log2_self_le (by omega)

theorem lengthOfNat_pos (n : Nat) : 0 < lengthOfNat n := by
  rw [lengthOfNat]
  split <;> omega

theorem lt_lengthOfNat {n length : Nat} (h : 256 ^ length ≤ n) : length < lengthOfNat n := by
  refine Nat.not_le.1 fun hle => ?_
  have hpow : 256 ^ lengthOfNat n ≤ 256 ^ length := Nat.pow_le_pow_right (by decide) hle
  exact absurd (lt_pow_lengthOfNat n) (Nat.not_lt.2 (Nat.le_trans hpow h))

theorem lengthOfNat_le {n length : Nat} (hpos : 0 < length) (h : n < 256 ^ length) :
    lengthOfNat n ≤ length := by
  rw [lengthOfNat]
  split
  · omega
  · refine Nat.not_lt.1 fun hlong => ?_
    have hpow : 256 ^ length ≤ 256 ^ (n.log2 / 8) := Nat.pow_le_pow_right (by decide) (by omega)
    have hle := pow_log2_le (n := n) (by omega)
    omega

theorem toNat_ofNat (n : Nat) : toNat (ofNat n) = n := by
  rw [ofNat, toNat_ofNatPadded, Nat.mod_eq_of_lt (lt_pow_lengthOfNat n)]

theorem length_ofNat (n : Nat) : (ofNat n).length = lengthOfNat n :=
  length_ofNatPadded _ n

/-- The shortest form of a number other than zero does not begin with a zero. -/
theorem head?_ofNat_ne_zero {n : Nat} (h : 0 < n) : (ofNat n).head? ≠ some 0 := by
  have hlength : lengthOfNat n = n.log2 / 8 + 1 := if_neg (by omega)
  have hlt := lt_pow_lengthOfNat n
  have hpos : 0 < n / 256 ^ (n.log2 / 8) := Nat.div_pos (pow_log2_le h) (Nat.pow_pos (by decide))
  rw [hlength, Nat.pow_succ] at hlt
  have hbyte : n / 256 ^ (n.log2 / 8) < 256 := Nat.div_lt_of_lt_mul hlt
  rw [ofNat, hlength, head?_ofNatPadded]
  intro hzero
  have htoNat := congrArg UInt8.toNat (Option.some.inj hzero)
  rw [UInt8.toNat_ofNat', Nat.mod_eq_of_lt hbyte] at htoNat
  exact absurd htoNat (Nat.ne_of_gt hpos)

/-! ## Shortest forms -/

/-- The octets stand for the number, and no fewer octets do. -/
structure IsShortest (octets : Octets) (n : Nat) : Prop where
  toNat : toNat octets = n
  head : octets.head? ≠ some 0
  length : ∀ other, Octets.toNat other = n → octets.length ≤ other.length

theorem isShortest_ofNat {n : Nat} (h : 0 < n) : IsShortest (ofNat n) n where
  toNat := toNat_ofNat n
  head := head?_ofNat_ne_zero h
  length other hother := by
    have hlt := toNat_lt other
    have hpos : 0 < other.length := by
      rcases Nat.eq_zero_or_pos other.length with hzero | hpos
      · rw [hother, hzero] at hlt
        omega
      · exact hpos
    rw [length_ofNat]
    exact lengthOfNat_le hpos (hother ▸ hlt)

end Acme.Octets
