import Acme.Json.Document
import Acme.Json.Value
import Acme.Proofs.Octets
import Mathlib.Data.Option.Basic

/-!
# Strings in JSON texts

A string is scanned up to its closing quotation mark (`scanString?_written`), and what was scanned
stands for the string again (`decodeText?_written`).
-/

namespace Acme.Json

open Octets

/-- The octets between the quotation marks of a string. -/
def written (s : String) : Octets :=
  ofChars (s.toList.flatMap escape)

/-! ## Characters -/

/-- An octet that stands for itself in a string. -/
def IsPlain (b : UInt8) : Prop :=
  ¬ b < 0x20 ∧ b ≠ 0x22 ∧ b ≠ 0x5C

theorem isPlain_of_mem_ofChars {c : Char} (h1 : 0x20 ≤ c.toNat) (h2 : c ≠ '"') (h3 : c ≠ '\\')
    {b : UInt8} (hb : b ∈ ofChars [c]) : IsPlain b := by
  by_cases h : c.toNat < 0x80
  · rw [ofChars_ascii h, List.mem_singleton] at hb
    have hn : b.toNat = c.toNat := by rw [hb, UInt8.toNat_ofNat']; omega
    refine ⟨fun hlt => ?_, fun he => h2 ?_, fun he => h3 ?_⟩
    · rw [UInt8.lt_iff_toNat_lt, hn] at hlt
      exact absurd hlt (by simpa using h1)
    · rw [he] at hn
      exact Char.toNat_inj.1 hn.symm
    · rw [he] at hn
      exact Char.toNat_inj.1 hn.symm
  · have hle := le_of_mem_ofChars (Nat.le_of_not_lt h) hb
    refine ⟨fun hlt => ?_, fun he => ?_, fun he => ?_⟩
    · rw [UInt8.le_iff_toNat_le] at hle
      rw [UInt8.lt_iff_toNat_lt] at hlt
      simp at hle hlt
      omega
    · rw [he] at hle
      exact absurd hle (by decide)
    · rw [he] at hle
      exact absurd hle (by decide)

/-- The form of a character in a string: a letter behind a backslash, four digits, or itself. -/
theorem escape_cases (c : Char) :
    (∃ e, ofChars (escape c) = [0x5C, e] ∧ e ≠ 0x75 ∧ simpleEscape? e = some (UInt8.ofNat c.toNat)
      ∧ c.toNat < 0x80)
    ∨ (∃ a b, ofChars (escape c) = [0x5C, 0x75, 0x30, 0x30, a, b]
      ∧ hexQuad? 0x30 0x30 a b = some c.toNat ∧ c.toNat < 0x20)
    ∨ (escape c = [c] ∧ 0x20 ≤ c.toNat ∧ c ≠ '"' ∧ c ≠ '\\') := by
  have controls : ∀ n : Fin 0x20, ∃ a b,
      ofChars ['\\', 'u', '0', '0', hexDigit (n / 16), hexDigit (n % 16)]
        = [0x5C, 0x75, 0x30, 0x30, a, b] ∧ hexQuad? 0x30 0x30 a b = some n.val := by
    intro n
    refine ⟨(ofChars [hexDigit (n / 16)]).headD 0, (ofChars [hexDigit (n % 16)]).headD 0, ?_⟩
    revert n
    decide
  unfold escape
  split
  · next h => exact .inl ⟨0x22, by decide, by decide, by rw [h]; decide, by rw [h]; decide⟩
  split
  · next h => exact .inl ⟨0x5C, by decide, by decide, by rw [h]; decide, by rw [h]; decide⟩
  split
  · next h => exact .inl ⟨0x62, by decide, by decide, by rw [h]; decide, by omega⟩
  split
  · next h => exact .inl ⟨0x74, by decide, by decide, by rw [h]; decide, by omega⟩
  split
  · next h => exact .inl ⟨0x6E, by decide, by decide, by rw [h]; decide, by omega⟩
  split
  · next h => exact .inl ⟨0x66, by decide, by decide, by rw [h]; decide, by omega⟩
  split
  · next h => exact .inl ⟨0x72, by decide, by decide, by rw [h]; decide, by omega⟩
  split
  · next h =>
    obtain ⟨a, b, ho, hq⟩ := controls ⟨c.toNat, h⟩
    exact .inr (.inl ⟨a, b, ho, hq, h⟩)
  · next h1 h2 _ _ _ _ _ h => exact .inr (.inr ⟨rfl, Nat.le_of_not_lt h, h1, h2⟩)

/-! ## Scanning -/

theorem scanString?_plain {b : UInt8} (h : IsPlain b) {rest w after : Octets}
    (hr : scanString? rest = some (w, after)) : scanString? (b :: rest) = some (b :: w, after) := by
  obtain ⟨h1, h2, h3⟩ := h
  rw [scanString?.eq_5 _ _ h2 (fun _ _ _ _ _ he _ => h3 he) (fun _ _ he _ => h3 he)]
  simp [h1, h3, hr]

theorem scanString?_plains {bytes : Octets} (h : ∀ b ∈ bytes, IsPlain b) {rest w after : Octets}
    (hr : scanString? rest = some (w, after)) :
    scanString? (bytes ++ rest) = some (bytes ++ w, after) := by
  induction bytes with
  | nil => exact hr
  | cons b bytes ih =>
    rw [List.forall_mem_cons] at h
    exact scanString?_plain h.1 (ih h.2)

theorem scanString?_escape (c : Char) {rest w after : Octets}
    (hr : scanString? rest = some (w, after)) :
    scanString? (ofChars (escape c) ++ rest) = some (ofChars (escape c) ++ w, after) := by
  rcases escape_cases c with ⟨e, ho, he, hs, _⟩ | ⟨a, b, ho, hq, _⟩ | ⟨ho, h1, h2, h3⟩
  · rw [ho]
    simp [scanString?, he, hs, hr]
  · rw [ho]
    simp [scanString?, hq, hr]
  · rw [ho]
    exact scanString?_plains (fun b hb => isPlain_of_mem_ofChars h1 h2 h3 hb) hr

theorem scanString?_written (s : String) (rest : Octets) :
    scanString? (written s ++ 0x22 :: rest) = some (written s, rest) := by
  unfold written
  induction s.toList with
  | nil => simp [scanString?]
  | cons c cs ih =>
    rw [List.flatMap_cons, ofChars_append, List.append_assoc]
    exact scanString?_escape c ih

/-! ## Making sense of what was scanned -/

theorem unescape?_plains {bytes : Octets} (h : ∀ b ∈ bytes, IsPlain b) {rest text : Octets}
    (hr : unescape? rest = some text) : unescape? (bytes ++ rest) = some (bytes ++ text) := by
  induction bytes with
  | nil => exact hr
  | cons b bytes ih =>
    rw [List.forall_mem_cons] at h
    obtain ⟨⟨_, _, h3⟩, hs⟩ := h
    rw [List.cons_append, unescape?.eq_4 _ _ (fun _ _ _ _ _ he _ => h3 he) (fun _ _ he _ => h3 he)]
    simp [ih hs]

theorem unescape?_escape (c : Char) {rest text : Octets} (hr : unescape? rest = some text) :
    unescape? (ofChars (escape c) ++ rest) = some (ofChars [c] ++ text) := by
  rcases escape_cases c with ⟨e, ho, he, hs, hc⟩ | ⟨a, b, ho, hq, hc⟩ | ⟨ho, h1, h2, h3⟩
  · rw [ho, ofChars_ascii hc]
    simp [unescape?, he, hs, hr]
  · have hutf : utf8 c.toNat = ofChars [c] := by rw [utf8, Char.ofNat_toNat]
    have hlow : ¬ (0xD800 ≤ c.toNat ∧ c.toNat < 0xDC00) := by omega
    have hhigh : ¬ (0xDC00 ≤ c.toNat ∧ c.toNat < 0xE000) := by omega
    rw [ho]
    simp [unescape?, hq, hlow, hhigh, hr, hutf]
  · rw [ho]
    exact unescape?_plains (fun b hb => isPlain_of_mem_ofChars h1 h2 h3 hb) hr

theorem decodeText?_written (s : String) : decodeText? (written s) = some s := by
  have h : unescape? (written s) = some (ofText s) := by
    rw [← ofChars_toList, written]
    induction s.toList with
    | nil => simp [unescape?]
    | cons c cs ih =>
      rw [List.flatMap_cons, ofChars_append, ofChars_cons]
      exact unescape?_escape c ih
  rw [decodeText?, h]
  exact text?_ofText s

end Acme.Json
