import Acme.Proofs.Pem

/-!
# The lines of a PEM text

Between its first and its last line a PEM text has lines of base 64 digits, all of them full but the
last one, where the padding stands. They are the lines of the text and no others, and they join to
the digits of the contents, so that two contents never have the same text (`encode_armours`).
-/

namespace Acme.Pem

variable {cs digits : List Char} {pads : Nat}

/-! ## Cutting into lines -/

theorem chunks_of_le (hne : cs ≠ []) (h : cs.length ≤ lineWidth) : chunks lineWidth cs = [cs] := by
  rw [chunks_of_ne_nil hne, List.take_of_length_le h, List.drop_eq_nil_of_le h, chunks_nil]

theorem flatten_chunks (cs : List Char) : (chunks lineWidth cs).flatten = cs := by
  induction hn : cs.length using Nat.strongRecOn generalizing cs with
  | _ n ih =>
    by_cases hne : cs = []
    · rw [hne, chunks_nil, List.flatten_nil]
    · have hpos := List.length_pos_iff.2 hne
      have hwidth : 0 < lineWidth := by decide
      have hshorter : (cs.drop lineWidth).length < n := by
        rw [List.length_drop]
        omega
      rw [chunks_of_ne_nil hne, List.flatten_cons, ih _ hshorter _ rfl, List.take_append_drop]

theorem chunks_eq_nil_iff : chunks lineWidth cs = [] ↔ cs = [] := by
  constructor
  · intro h
    rw [← flatten_chunks cs, h, List.flatten_nil]
  · rintro rfl
    exact chunks_nil

/-- Padding that fills a group of four is not torn apart, since a full line has whole groups. -/
theorem chunks_padded (hpads : pads ≤ 2) (hgroups : (digits.length + pads) % 4 = 0)
    (hne : digits ≠ []) :
    ∃ full last, chunks lineWidth (digits ++ List.replicate pads '=')
        = full ++ [last ++ List.replicate pads '=']
      ∧ (∀ line ∈ full, line.length = lineWidth) ∧ last ≠ [] ∧ last.length + pads ≤ lineWidth
      ∧ full.flatten ++ last = digits := by
  induction hn : digits.length using Nat.strongRecOn generalizing digits with
  | _ n ih =>
    have hwidth : lineWidth = 64 := rfl
    have hpos := List.length_pos_iff.2 hne
    by_cases hle : digits.length + pads ≤ lineWidth
    · refine ⟨[], digits, chunks_of_le (by simp [hne]) (by simpa using hle),
        List.forall_mem_nil _, hne, hle, rfl⟩
    · have hlong : lineWidth < digits.length := by omega
      have hrest : digits.drop lineWidth ≠ [] := by
        rw [Ne, List.drop_eq_nil_iff]
        omega
      have hlength : (digits.drop lineWidth).length = digits.length - lineWidth :=
        List.length_drop
      have hwhole : ((digits.drop lineWidth).length + pads) % 4 = 0 := by omega
      obtain ⟨full, last, hchunks, hfull, hlast, hfits, hjoin⟩ := ih _ (by omega) hwhole hrest rfl
      refine ⟨digits.take lineWidth :: full, last, ?_, ?_, hlast, hfits, ?_⟩
      · rw [chunks_of_ne_nil (by simp [hne]), List.take_append_of_le_length (by omega),
          List.drop_append_of_le_length (by omega), hchunks, List.cons_append]
      · refine List.forall_mem_cons.2 ⟨?_, hfull⟩
        rw [List.length_take]
        omega
      · rw [List.flatten_cons, List.append_assoc, hjoin, List.take_append_drop]

/-! ## The body of a text -/

/-- The lines of digits for some contents, without their ends. -/
def linesOf (contents : Octets) : List (List Char) :=
  chunks lineWidth (Base64.encodePadded .standard contents)

theorem flatten_linesOf (contents : Octets) :
    (linesOf contents).flatten = Base64.encodePadded .standard contents :=
  flatten_chunks _

theorem linesOf_eq_nil_iff {contents : Octets} : linesOf contents = [] ↔ contents = [] := by
  rw [linesOf, chunks_eq_nil_iff]
  constructor
  · intro h
    by_contra hne
    exact Base64.encodePadded_ne_nil .standard hne h
  · rintro rfl
    rfl

theorem feed_not_mem_of_mem_linesOf {contents : Octets} {line : List Char}
    (h : line ∈ linesOf contents) : '\n' ∉ line := by
  intro hfeed
  have hmem : '\n' ∈ Base64.encodePadded .standard contents := by
    rw [← flatten_linesOf]
    exact List.mem_flatten.2 ⟨line, h, hfeed⟩
  exact absurd (Base64.of_mem_encodePadded hmem) (by decide)

theorem toList_encode (label : String) (contents : Octets) :
    (encode label contents).toList = ("-----BEGIN " ++ label ++ "-----").toList
      ++ '\n' :: ((linesOf contents).flatMap (· ++ ['\n'])
        ++ (("-----END " ++ label ++ "-----").toList ++ ['\n'])) := by
  have hfirst : ("-----BEGIN " ++ label ++ "-----").toList = opening ++ label.toList ++ dashes := by
    simp only [String.toList_append]
    rfl
  have hlast : ("-----END " ++ label ++ "-----").toList = closing ++ label.toList ++ dashes := by
    simp only [String.toList_append]
    rfl
  rw [hfirst, hlast, encode, String.toList_ofList, bodyLines, linesOf]
  simp only [List.append_assoc, List.cons_append, List.nil_append]

theorem splitOn_lines {lines : List (List Char)} (h : ∀ line ∈ lines, '\n' ∉ line)
    (rest : List Char) :
    (lines.flatMap (· ++ ['\n']) ++ rest).splitOn '\n' = lines ++ rest.splitOn '\n' := by
  induction lines with
  | nil => rfl
  | cons line lines ih =>
    obtain ⟨hline, hlines⟩ := List.forall_mem_cons.1 h
    have hcut : (line :: lines).flatMap (· ++ ['\n']) ++ rest
        = line ++ '\n' :: (lines.flatMap (· ++ ['\n']) ++ rest) := by simp
    rw [hcut, List.splitOn_append_cons_self_of_not_mem hline, ih hlines, List.cons_append]

/-! ## The whole text -/

/-- A digit of the standard alphabet. -/
def IsDigit (c : Char) : Prop :=
  c.isAlphanum = true ∨ c = '+' ∨ c = '/'

/-- These are the lines of digits in the text of some contents. -/
structure Armours (label : String) (contents : Octets) (lines : List (List Char)) : Prop where
  text : (encode label contents).toList = ("-----BEGIN " ++ label ++ "-----").toList
    ++ '\n' :: (lines.flatMap (· ++ ['\n']) ++ (("-----END " ++ label ++ "-----").toList ++ ['\n']))
  /-- A label of one line given, the text has just these lines. -/
  cut : '\n' ∉ label.toList → (encode label contents).toList.splitOn '\n'
    = ("-----BEGIN " ++ label ++ "-----").toList
      :: (lines ++ [("-----END " ++ label ++ "-----").toList, []])
  empty : lines = [] ↔ contents = []
  /-- All lines but the last are full, and padding stands at the end of the last one only. -/
  filled : contents ≠ [] → ∃ full last pads, lines = full ++ [last ++ List.replicate pads '=']
    ∧ (∀ line ∈ full, line.length = 64) ∧ 1 ≤ last.length ∧ last.length + pads ≤ 64 ∧ pads ≤ 2
    ∧ ∀ c ∈ full.flatten ++ last, IsDigit c
  decodes : Base64.decodePadded? .standard lines.flatten = some contents

theorem isDigit_of_mem_encode {contents : Octets} {c : Char}
    (h : c ∈ Base64.encode .standard contents) : IsDigit c := by
  simpa [IsDigit, Base64.Alphabet.marks] using Base64.isAlphanum_of_mem_encode h

theorem exists_filled {contents : Octets} (h : contents ≠ []) :
    ∃ full last pads, linesOf contents = full ++ [last ++ List.replicate pads '=']
      ∧ (∀ line ∈ full, line.length = 64) ∧ 1 ≤ last.length ∧ last.length + pads ≤ 64 ∧ pads ≤ 2
      ∧ ∀ c ∈ full.flatten ++ last, IsDigit c := by
  have hlength := Base64.length_encodePadded .standard contents
  have hne := Base64.encodePadded_ne_nil .standard h
  rw [Base64.encodePadded, Base64.padding_eq] at hne
  rw [Base64.encodePadded, Base64.padding_eq, List.length_append, List.length_replicate] at hlength
  have hdigits : Base64.encode .standard contents ≠ [] := by
    intro hnil
    have hpos := List.length_pos_iff.2 h
    rw [hnil, List.length_nil] at hlength
    omega
  have hpads : (3 - contents.length % 3) % 3 ≤ 2 := by omega
  obtain ⟨full, last, hchunks, hfull, hlast, hfits, hjoin⟩ :=
    chunks_padded hpads (by omega) hdigits
  refine ⟨full, last, _, ?_, hfull, List.length_pos_iff.2 hlast, hfits, hpads, fun c hc => ?_⟩
  · rw [linesOf, Base64.encodePadded, Base64.padding_eq, hchunks]
  · rw [hjoin] at hc
    exact isDigit_of_mem_encode hc

theorem splitOn_encode {label : String} (h : '\n' ∉ label.toList) (contents : Octets) :
    (encode label contents).toList.splitOn '\n' = ("-----BEGIN " ++ label ++ "-----").toList
      :: (linesOf contents ++ [("-----END " ++ label ++ "-----").toList, []]) := by
  have hfirst : '\n' ∉ ("-----BEGIN " ++ label ++ "-----").toList := by simp [h]
  have hlast : '\n' ∉ ("-----END " ++ label ++ "-----").toList := by simp [h]
  rw [toList_encode, List.splitOn_append_cons_self_of_not_mem hfirst,
    splitOn_lines fun line hline => feed_not_mem_of_mem_linesOf hline,
    List.splitOn_append_cons_self_of_not_mem hlast]
  rfl

theorem armours_linesOf (label : String) (contents : Octets) :
    Armours label contents (linesOf contents) where
  text := toList_encode label contents
  cut h := splitOn_encode h contents
  empty := linesOf_eq_nil_iff
  filled := exists_filled
  decodes := by rw [flatten_linesOf, Base64.decodePadded?_encodePadded]

/-- The lines are got back from their body. -/
theorem linesOf_inj {first second : Octets}
    (h : (linesOf first).flatMap (· ++ ['\n']) = (linesOf second).flatMap (· ++ ['\n'])) :
    linesOf first = linesOf second := by
  have hcut (contents : Octets) :
      ((linesOf contents).flatMap (· ++ ['\n'])).splitOn '\n' = linesOf contents ++ [[]] := by
    have hplain : ∀ line ∈ linesOf contents, '\n' ∉ line := fun _ => feed_not_mem_of_mem_linesOf
    have hlines := splitOn_lines hplain []
    rwa [List.append_nil] at hlines
  have hboth := hcut first
  rw [h, hcut second] at hboth
  exact (List.append_cancel_right hboth).symm

theorem encode_injective (label : String) : Function.Injective (encode label) := by
  intro first second h
  have htext := congrArg String.toList h
  rw [toList_encode, toList_encode] at htext
  have hbody := List.append_cancel_right (List.cons.inj (List.append_cancel_left htext)).2
  have hlines := congrArg List.flatten (linesOf_inj hbody)
  rw [flatten_linesOf, flatten_linesOf] at hlines
  have hdecoded := congrArg (Base64.decodePadded? .standard) hlines
  rw [Base64.decodePadded?_encodePadded, Base64.decodePadded?_encodePadded] at hdecoded
  exact Option.some.inj hdecoded

theorem encode_armours (label : String) (contents : Octets) :
    (∃ lines, Armours label contents lines)
      ∧ ∀ other, encode label other = encode label contents → other = contents :=
  ⟨⟨linesOf contents, armours_linesOf label contents⟩, fun _ h => encode_injective label h⟩

end Acme.Pem
