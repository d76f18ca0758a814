import Acme.Pem
import Acme.Proofs.Base64

/-!
# PEM texts are read back

A text that was written with a label holds the octets that it was written for, whatever the label
and the number of lines (`decode?_encode`), and also if its lines end in another way
(`decode?_encodeWith`).
-/

namespace Acme.Pem

/-! ## Prefixes -/

theorem isPrefixOf?_append (front back : List Char) :
    front.isPrefixOf? (front ++ back) = some back := by
  induction front with
  | nil => rfl
  | cons c front ih =>
    show (if c == c then front.isPrefixOf? (front ++ back) else none) = some back
    rw [if_pos (beq_self_eq_true c), ih]

/-! ## Line ends -/

inductive LineEnd
  | lineFeed
  | carriageReturn
  | both
  deriving DecidableEq, Repr

def LineEnd.chars : LineEnd → List Char
  | .lineFeed => ['\n']
  | .carriageReturn => ['\r']
  | .both => ['\r', '\n']

/-- The character can stand at an end of a line only. -/
def EndsLine (c : Char) : Prop :=
  c = '\r' ∨ c = '\n'

instance (c : Char) : Decidable (EndsLine c) :=
  inferInstanceAs (Decidable (_ ∨ _))

/-- No line end is cut off short, since no line feed follows it. -/
theorem dropLineEnd?_chars (lineEnd : LineEnd) {cs : List Char} (h : cs.head? ≠ some '\n') :
    dropLineEnd? (lineEnd.chars ++ cs) = some cs := by
  cases lineEnd with
  | lineFeed => rfl
  | both => rfl
  | carriageReturn =>
    cases cs with
    | nil => rfl
    | cons c cs =>
      have hc : c ≠ '\n' := fun heq => h (congrArg some heq)
      rw [LineEnd.chars, List.cons_append, List.nil_append, dropLineEnd?]
      intro rest heq
      exact hc (List.cons.inj heq).1

theorem dropReversedLineEnd?_chars (lineEnd : LineEnd) {cs : List Char}
    (h : cs.head? ≠ some '\r') :
    dropReversedLineEnd? (lineEnd.chars.reverse ++ cs) = some cs := by
  cases lineEnd with
  | carriageReturn => rfl
  | both => rfl
  | lineFeed =>
    cases cs with
    | nil => rfl
    | cons c cs =>
      have hc : c ≠ '\r' := fun heq => h (congrArg some heq)
      rw [LineEnd.chars, List.reverse_singleton, List.cons_append, List.nil_append,
        dropReversedLineEnd?]
      intro rest heq
      exact hc (List.cons.inj heq).1

/-! ## Lines -/

theorem chunks_of_ne_nil {cs : List Char} (h : cs ≠ []) :
    chunks lineWidth cs = cs.take lineWidth :: chunks lineWidth (cs.drop lineWidth) := by
  cases cs with
  | nil => exact absurd rfl h
  | cons c rest => rw [lineWidth, chunks, List.take_succ_cons, List.drop_succ_cons]

theorem chunks_nil : chunks lineWidth [] = [] := by
  rw [lineWidth, chunks]
  exact Nat.succ_ne_zero 63

theorem joinLines?_of_le {cs : List Char} (h : cs.length ≤ lineWidth) :
    joinLines? cs = some cs := by
  rw [joinLines?, dif_pos h]

/-- A full line comes first. -/
theorem joinLines?_line (lineEnd : LineEnd) {line rest : List Char}
    (h : line.length = lineWidth) (hrest : rest.head? ≠ some '\n') :
    joinLines? (line ++ (lineEnd.chars ++ rest)) = (joinLines? rest).map (line ++ ·) := by
  have hends : 0 < lineEnd.chars.length := by cases lineEnd <;> decide
  have hlong : ¬(line ++ (lineEnd.chars ++ rest)).length ≤ lineWidth := by
    rw [List.length_append, List.length_append]
    omega
  have hdrop : dropLineEnd? ((line ++ (lineEnd.chars ++ rest)).drop lineWidth) = some rest := by
    rw [List.drop_left' h]
    exact dropLineEnd?_chars lineEnd hrest
  rw [joinLines?, dif_neg hlong]
  split
  · next hnone =>
    rw [hdrop] at hnone
    cases hnone
  · next hsome =>
    rw [hdrop] at hsome
    cases hsome
    rw [List.take_left' h]
    cases joinLines? rest <;> rfl

/-- The lines with their ends; without the last of these, they join to what was cut. -/
theorem flatMap_chunks (lineEnd : LineEnd) {cs : List Char} (h : cs ≠ [])
    (hplain : ∀ c ∈ cs, ¬EndsLine c) :
    ∃ joined, (chunks lineWidth cs).flatMap (· ++ lineEnd.chars) = joined ++ lineEnd.chars
      ∧ joined.head? = cs.head? ∧ joined.getLast? = cs.getLast? ∧ joinLines? joined = some cs := by
  induction hn : cs.length using Nat.strongRecOn generalizing cs with
  | _ n ih =>
    have hwidth : 0 < lineWidth := by decide
    rw [chunks_of_ne_nil h, List.flatMap_cons]
    by_cases hlength : cs.length ≤ lineWidth
    · rw [List.take_of_length_le hlength, List.drop_eq_nil_of_le hlength, chunks_nil,
        List.flatMap_nil, List.append_nil]
      exact ⟨cs, rfl, rfl, rfl, joinLines?_of_le hlength⟩
    · have hdrop : cs.drop lineWidth ≠ [] := by
        rw [Ne, List.drop_eq_nil_iff]
        exact hlength
      have hshorter : (cs.drop lineWidth).length < n := by
        rw [List.length_drop]
        omega
      have htake : (cs.take lineWidth).length = lineWidth := by
        rw [List.length_take]
        omega
      obtain ⟨joined, hlines, hhead, hlast, hjoin⟩ :=
        ih _ hshorter hdrop (fun c hc => hplain c (List.mem_of_mem_drop hc)) rfl
      have hfeed : joined.head? ≠ some '\n' := by
        rw [hhead]
        intro hmem
        exact hplain _ (List.mem_of_mem_drop (List.mem_of_head? hmem)) (.inr rfl)
      have hend := List.getLast?_eq_some_getLast hdrop
      have hwhole := congrArg List.getLast? (List.take_append_drop lineWidth cs)
      rw [hend] at hlast
      rw [List.getLast?_append, hend] at hwhole
      refine ⟨cs.take lineWidth ++ (lineEnd.chars ++ joined), ?_, ?_, ?_, ?_⟩
      · rw [hlines, List.append_assoc, List.append_assoc, List.append_assoc]
      · rw [List.head?_append, List.head?_take, if_neg (by omega)]
        obtain ⟨c, rest, rfl⟩ := List.exists_cons_of_ne_nil h
        rfl
      · rw [← hwhole, List.getLast?_append, List.getLast?_append, hlast]
        rfl
      · rw [joinLines?_line lineEnd htake hfeed, hjoin, Option.map_some, List.take_append_drop]

/-! ## The whole text -/

/-- The text with another line end. -/
def encodeWith (lineEnd : LineEnd) (label : String) (contents : Octets) : String :=
  String.ofList <| opening ++ label.toList ++ dashes ++ lineEnd.chars
    ++ (chunks lineWidth (Base64.encodePadded .standard contents)).flatMap (· ++ lineEnd.chars)
    ++ closing ++ label.toList ++ dashes ++ lineEnd.chars

theorem encode_eq (label : String) (contents : Octets) :
    encode label contents = encodeWith .lineFeed label contents := rfl

theorem beforeClosing?_lines (lineEnd : LineEnd) {label joined : List Char}
    (h : joined.getLast? ≠ some '\r') :
    beforeClosing? label (joined ++ (lineEnd.chars ++ (closing ++ label ++ dashes ++ lineEnd.chars)))
      = some joined := by
  have hreverse :
      (joined ++ (lineEnd.chars ++ (closing ++ label ++ dashes ++ lineEnd.chars))).reverse
        = lineEnd.chars.reverse ++ ((closing ++ label ++ dashes).reverse
          ++ (lineEnd.chars.reverse ++ joined.reverse)) := by
    simp only [List.reverse_append, List.append_assoc]
  have hdash : ((closing ++ label ++ dashes).reverse
      ++ (lineEnd.chars.reverse ++ joined.reverse)).head? ≠ some '\r' := by
    have hhead : dashes.reverse.head? = some '-' := by decide
    rw [List.reverse_append, List.append_assoc, List.head?_append, hhead, Option.some_or]
    decide
  have hlast : joined.reverse.head? ≠ some '\r' := by rwa [List.head?_reverse]
  rw [beforeClosing?, hreverse]
  simp only [dropReversedLineEnd?_chars lineEnd hdash, dropReversedLineEnd?_chars lineEnd hlast,
    Option.getD_some, isPrefixOf?_append, Option.bind_eq_bind, Option.bind_some,
    Option.pure_def, List.reverse_reverse]

theorem afterOpening?_opening (cs : List Char) :
    afterOpening? true (opening ++ cs) = some cs := by
  rw [afterOpening?.eq_def]
  simp only [if_true, isPrefixOf?_append]

theorem decode?_encodeWith (lineEnd : LineEnd) (label : String) {contents : Octets}
    (h : contents ≠ []) : decode? label (encodeWith lineEnd label contents) = some contents := by
  have hdigits := Base64.encodePadded_ne_nil .standard h
  have hplain (c : Char) (hc : c ∈ Base64.encodePadded .standard contents) : ¬EndsLine c := by
    rintro (rfl | rfl)
    · exact absurd (Base64.of_mem_encodePadded hc) (by decide)
    · exact absurd (Base64.of_mem_encodePadded hc) (by decide)
  obtain ⟨joined, hlines, hhead, hlast, hjoin⟩ := flatMap_chunks lineEnd hdigits hplain
  have hend : joined.getLast? ≠ some '\r' := by
    rw [hlast]
    exact fun hmem => hplain _ (List.mem_of_getLast? hmem) (.inl rfl)
  have hstart : (joined ++ (lineEnd.chars ++ (closing ++ label.toList ++ dashes
      ++ lineEnd.chars))).head? ≠ some '\n' := by
    obtain ⟨c, rest, hcons⟩ := List.exists_cons_of_ne_nil hdigits
    rw [List.head?_append, hhead, hcons, List.head?_cons, Option.some_or]
    exact fun hc => hplain c (hcons ▸ List.mem_cons_self) (.inr (Option.some.inj hc))
  have htext : (encodeWith lineEnd label contents).toList = opening ++ (label.toList ++ dashes
      ++ (lineEnd.chars ++ (joined ++ (lineEnd.chars ++ (closing ++ label.toList ++ dashes
        ++ lineEnd.chars))))) := by
    rw [encodeWith, String.toList_ofList, hlines]
    simp only [List.append_assoc]
  rw [decode?, htext, afterOpening?_opening]
  simp only [Option.bind_eq_bind, Option.bind_some, isPrefixOf?_append,
    dropLineEnd?_chars lineEnd hstart, beforeClosing?_lines lineEnd hend, hjoin,
    Base64.decodePadded?_encodePadded]

theorem decode?_encode (label : String) {contents : Octets} (h : contents ≠ []) :
    decode? label (encode label contents) = some contents := by
  rw [encode_eq]
  exact decode?_encodeWith .lineFeed label h

end Acme.Pem
