import Acme.Text

/-!
# Trimming and splitting texts

What trimming leaves of a text (`strips_iff`, `trim_enclosed`), the pieces that a text is cut into
(`mem_splitOnP_iff`), and the words of a text that was made of words (`words_intercalate`).
-/

namespace Acme.Text

variable {p : Char → Bool} {c first last : Char} {cs blanks : List Char}

theorem not_mem_of_isBlank (hb : ∀ c ∈ blanks, isBlank c = true) (h : isBlank c = false) :
    c ∉ blanks := by
  intro hmem
  rw [hb c hmem] at h
  cases h

/-! ## Trimming -/

theorem mem_of_mem_dropEndWhile (h : c ∈ dropEndWhile p cs) : c ∈ cs := by
  rw [dropEndWhile, List.mem_reverse] at h
  exact List.mem_reverse.1 ((List.dropWhile_sublist p).mem h)

theorem mem_of_mem_trim (h : c ∈ trim cs) : c ∈ cs :=
  (List.dropWhile_sublist isBlank).mem (mem_of_mem_dropEndWhile h)

theorem dropEndWhile_concat_of_neg (h : p c = false) : dropEndWhile p (cs ++ [c]) = cs ++ [c] := by
  rw [dropEndWhile, List.reverse_append, List.reverse_singleton, List.singleton_append,
    List.dropWhile_cons_of_neg (by simp [h]), List.reverse_cons, List.reverse_reverse]

theorem dropEndWhile_concat_of_pos (h : p c = true) :
    dropEndWhile p (cs ++ [c]) = dropEndWhile p cs := by
  rw [dropEndWhile, List.reverse_append, List.reverse_singleton, List.singleton_append,
    List.dropWhile_cons_of_pos h, dropEndWhile]

theorem trim_enclosed (hb : ∀ c ∈ blanks, isBlank c = true) (hf : isBlank first = false)
    (hl : isBlank last = false) :
    trim (blanks ++ first :: (cs ++ [last])) = first :: (cs ++ [last]) := by
  rw [trim, trimStart, List.dropWhile_append_of_pos hb, List.dropWhile_cons_of_neg (by simp [hf]),
    ← List.cons_append, dropEndWhile_concat_of_neg hl]

/-! ## What is left in the middle -/

/-- When what satisfies `p` is dropped at both ends of a text, the core is left. -/
structure Strips (p : Char → Bool) (cs core : List Char) : Prop where
  around : ∃ front back, cs = front ++ (core ++ back) ∧ (∀ c ∈ front, p c = true)
    ∧ ∀ c ∈ back, p c = true
  head : ∀ c ∈ core.head?, p c = false
  last : ∀ c ∈ core.getLast?, p c = false

theorem dropEndWhile_append_of_pos {back : List Char} (h : ∀ c ∈ back, p c = true) :
    dropEndWhile p (cs ++ back) = dropEndWhile p cs := by
  unfold dropEndWhile
  rw [List.reverse_append, List.dropWhile_append_of_pos]
  simpa using h

theorem dropEndWhile_eq_self (h : ∀ c ∈ cs.getLast?, p c = false) : dropEndWhile p cs = cs := by
  rcases List.eq_nil_or_concat cs with rfl | ⟨front, c, rfl⟩
  · rfl
  · rw [List.concat_eq_append] at h ⊢
    exact dropEndWhile_concat_of_neg (h c (by simp))

theorem exists_dropEndWhile (p : Char → Bool) (cs : List Char) :
    ∃ back, cs = dropEndWhile p cs ++ back ∧ ∀ c ∈ back, p c = true := by
  refine ⟨(cs.reverse.takeWhile p).reverse, ?_, ?_⟩
  · unfold dropEndWhile
    rw [← List.reverse_append, List.takeWhile_append_dropWhile, List.reverse_reverse]
  · intro c hc
    exact List.all_eq_true.1 List.all_takeWhile c (List.mem_reverse.1 hc)

theorem getLast?_dropEndWhile (hc : c ∈ (dropEndWhile p cs).getLast?) : p c = false := by
  unfold dropEndWhile at hc
  rw [List.getLast?_reverse] at hc
  have hnot := List.head?_dropWhile_not p cs.reverse
  rw [Option.mem_def.1 hc] at hnot
  exact hnot

theorem strips_iff {core : List Char} :
    dropEndWhile p (cs.dropWhile p) = core ↔ Strips p cs core := by
  constructor
  · rintro rfl
    obtain ⟨back, hback, hp⟩ := exists_dropEndWhile p (cs.dropWhile p)
    refine ⟨⟨cs.takeWhile p, back, ?_, fun c hc => ?_, hp⟩, fun c hc => ?_, fun c hc => ?_⟩
    · rw [← hback, List.takeWhile_append_dropWhile]
    · exact List.all_eq_true.1 List.all_takeWhile c hc
    · have hnot := List.head?_dropWhile_not p cs
      rw [hback, List.head?_append, Option.mem_def.1 hc] at hnot
      exact hnot
    · exact getLast?_dropEndWhile hc
  · rintro ⟨⟨front, back, rfl, hfront, hback⟩, hhead, hlast⟩
    rw [List.dropWhile_append_of_pos hfront]
    cases core with
    | nil =>
      rw [List.nil_append, ← List.append_nil back, List.dropWhile_append_of_pos hback]
      rfl
    | cons c core =>
      have hc : p c = false := hhead c rfl
      rw [List.cons_append, List.dropWhile_cons_of_neg (by simp [hc]), ← List.cons_append,
        dropEndWhile_append_of_pos hback, dropEndWhile_eq_self hlast]

/-! ## Pieces of a text -/

/-- The piece stands in the text between two cuts, or a cut and an end of the text. -/
structure IsPiece (p : Char → Bool) (piece cs : List Char) : Prop where
  plain : ∀ c ∈ piece, p c = false
  between : ∃ front back, cs = front ++ (piece ++ back) ∧ (∀ c ∈ front.getLast?, p c = true)
    ∧ ∀ c ∈ back.head?, p c = true

/-- A text is not cut, or it is cut for the first time behind its first piece. -/
theorem splitOnP_cases (p : Char → Bool) (cs : List Char) :
    (∀ c ∈ cs, p c = false) ∧ cs.splitOnP p = [cs]
      ∨ ∃ front c back, cs = front ++ c :: back ∧ (∀ c ∈ front, p c = false) ∧ p c = true
        ∧ cs.splitOnP p = front :: back.splitOnP p := by
  induction cs with
  | nil => exact .inl ⟨List.forall_mem_nil _, rfl⟩
  | cons c cs ih =>
    by_cases hc : p c = true
    · refine .inr ⟨[], c, cs, rfl, List.forall_mem_nil _, hc, ?_⟩
      rw [List.splitOnP_cons_eq_if_modifyHead, if_pos hc]
    · rw [Bool.not_eq_true] at hc
      rcases ih with ⟨hplain, _⟩ | ⟨front, d, back, rfl, hplain, hd, _⟩
      · have hall : ∀ d ∈ c :: cs, p d = false := List.forall_mem_cons.2 ⟨hc, hplain⟩
        exact .inl ⟨hall, List.splitOnP_eq_singleton hall⟩
      · have hall : ∀ d ∈ c :: front, p d = false := List.forall_mem_cons.2 ⟨hc, hplain⟩
        exact .inr ⟨c :: front, d, back, rfl, hall, hd, List.splitOnP_append_cons_of_forall_mem hall d hd back⟩

theorem mem_splitOnP_iff {piece : List Char} : piece ∈ cs.splitOnP p ↔ IsPiece p piece cs := by
  constructor
  · intro h
    induction hn : cs.length using Nat.strongRecOn generalizing cs with
    | _ n ih =>
      rcases splitOnP_cases p cs with ⟨hplain, hs⟩ | ⟨front, c, back, rfl, hplain, hc, hs⟩
      · rw [hs, List.mem_singleton] at h
        subst h
        exact ⟨hplain, [], [], by simp, by simp, by simp⟩
      · rw [hs, List.mem_cons] at h
        rcases h with rfl | h
        · exact ⟨hplain, [], c :: back, by simp, by simp, by simpa using hc⟩
        · have hshorter : back.length < n := by simp [← hn]; omega
          obtain ⟨hpiece, before, after, rfl, hbefore, hafter⟩ := ih _ hshorter h rfl
          refine ⟨hpiece, front ++ c :: before, after, by simp, ?_, hafter⟩
          intro d hd
          rw [List.getLast?_append, List.getLast?_cons] at hd
          cases hlast : before.getLast? with
          | none => simp_all
          | some e => simp_all
  · rintro ⟨hplain, front, back, rfl, hfront, hback⟩
    have hpiece : piece ∈ (piece ++ back).splitOnP p := by
      cases back with
      | nil => simp [List.splitOnP_eq_singleton hplain]
      | cons c back => simp [List.splitOnP_append_cons_of_forall_mem hplain c (hback c rfl)]
    rcases List.eq_nil_or_concat front with rfl | ⟨front, c, rfl⟩
    · exact hpiece
    · rw [List.concat_eq_append] at hfront ⊢
      rw [List.append_assoc, List.singleton_append,
        List.splitOnP_append_cons _ _ (hfront c (by simp))]
      exact List.mem_append_right _ hpiece

theorem mem_splitOn_iff {a : Char} {piece : List Char} :
    piece ∈ cs.splitOn a ↔ IsPiece (· == a) piece cs := by
  rw [List.splitOn_eq_splitOnP, mem_splitOnP_iff]

theorem mem_of_mem_splitOn {a : Char} {piece : List Char} (hp : piece ∈ cs.splitOn a)
    (hc : c ∈ piece) : c ∈ cs := by
  induction cs generalizing piece with
  | nil =>
    rw [List.splitOn_nil, List.mem_singleton] at hp
    exact hp ▸ hc
  | cons d cs ih =>
    rw [List.splitOn_cons_eq_if_modifyHead] at hp
    split at hp
    · rcases List.mem_cons.1 hp with rfl | hp
      · cases hc
      · exact List.mem_cons_of_mem d (ih hp hc)
    · obtain ⟨front, rest, hsplit⟩ := List.exists_cons_of_ne_nil (List.splitOn_ne_nil a cs)
      rw [hsplit] at hp ih
      rcases List.mem_cons.1 hp with rfl | hp
      · rcases List.mem_cons.1 hc with rfl | hc
        · exact List.mem_cons_self
        · exact List.mem_cons_of_mem d (ih List.mem_cons_self hc)
      · exact List.mem_cons_of_mem d (ih (List.mem_cons_of_mem front hp) hc)

theorem mem_intercalate {sep : List Char} {pieces : List (List Char)}
    (h : c ∈ sep.intercalate pieces) : c ∈ sep ∨ ∃ piece ∈ pieces, c ∈ piece := by
  induction pieces with
  | nil => cases h
  | cons piece pieces ih =>
    have hlater (hc : c ∈ sep.intercalate pieces) :
        c ∈ sep ∨ ∃ other ∈ piece :: pieces, c ∈ other :=
      (ih hc).imp_right fun ⟨other, ho, hc⟩ => ⟨other, List.mem_cons_of_mem piece ho, hc⟩
    cases pieces with
    | nil =>
      rw [List.intercalate_singleton] at h
      exact .inr ⟨piece, List.mem_cons_self, h⟩
    | cons other rest =>
      rw [List.intercalate_cons_cons, List.mem_append, List.mem_append] at h
      rcases h with (hc | hc) | hc
      · exact .inr ⟨piece, List.mem_cons_self, hc⟩
      · exact .inl hc
      · exact hlater hc

/-! ## Words -/

theorem words_append_blank (h : isBlank c = true) (ds : List Char) :
    words (cs ++ c :: ds) = words cs ++ words ds := by
  rw [words, List.splitOnP_append_cons cs ds h, List.filter_append]
  rfl

theorem words_of_plain (hne : cs ≠ []) (h : ∀ c ∈ cs, isBlank c = false) : words cs = [cs] := by
  rw [words, List.splitOnP_eq_singleton h]
  simp [hne]

theorem mem_words_iff {word : List Char} :
    word ∈ words cs ↔ word ≠ [] ∧ IsPiece isBlank word cs := by
  rw [words, List.mem_filter, mem_splitOnP_iff, and_comm]
  simp

/-- The words of a text are those that it was made of. -/
theorem words_intercalate {ws : List (List Char)}
    (h : ∀ w ∈ ws, w ≠ [] ∧ ∀ c ∈ w, isBlank c = false) : words ([' '].intercalate ws) = ws := by
  induction ws with
  | nil => rfl
  | cons w ws ih =>
    obtain ⟨hne, hplain⟩ := h w List.mem_cons_self
    cases ws with
    | nil => rw [List.intercalate_singleton, words_of_plain hne hplain]
    | cons v ws =>
      rw [List.intercalate_cons_cons, List.append_assoc, List.singleton_append,
        words_append_blank (by decide), words_of_plain hne hplain,
        ih fun u hu => h u (List.mem_cons_of_mem w hu), List.singleton_append]

end Acme.Text
