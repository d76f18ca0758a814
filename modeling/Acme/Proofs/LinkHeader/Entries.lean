import Acme.Proofs.LinkHeader

/-!
# What is found in a header is there

`Relates` says, without taking anything apart, which entries of a header relate a URL as `up`: the
URL in angle brackets, and after it a parameter `rel` with the word `up`. The URL that is found
belongs to the first of these entries, and it is of no consequence how the entries are spread over
the values of the header (`upLink?_finds_first`).
-/

namespace Acme.LinkHeader

open Text

/-! ## Parameters and entries -/

/-- The parameter is named `rel`, up to blanks and case, and `up` is a word of its value, up to
blanks and quotes. -/
inductive ListsUp : List Char → Prop
  | intro {name label value shown names : List Char} (hname : '=' ∉ name)
    (hlabel : Strips isBlank name label) (hrel : lower label = "rel".toList)
    (hshown : Strips isBlank value shown) (hnames : Strips (· == '"') shown names)
    (hup : IsPiece isBlank "up".toList names) : ListsUp (name ++ '=' :: value)

/-- An entry with a URL in angle brackets, and behind it a parameter that lists `up`. -/
inductive Relates : List Char → List Char → Prop
  | intro {before url after rest parameter : List Char} (hbefore : ∀ c ∈ before, isBlank c = true)
    (hafter : ∀ c ∈ after, isBlank c = true) (hurl : ';' ∉ url) (hne : url ≠ [])
    (hparameter : IsPiece (· == ';') parameter rest) (hup : ListsUp parameter) :
    Relates (before ++ '<' :: (url ++ '>' :: (after ++ ';' :: rest))) url

/-- The entries of all values, in order. -/
def entries (values : List String) : List (List Char) :=
  values.flatMap fun value => value.toList.splitOn ','

variable {cs url : List Char}

/-! ## Parameters -/

theorem parameter?_eq_some {name value : List Char} (h : parameter? cs = some (name, value)) :
    cs = name ++ '=' :: value ∧ '=' ∉ name := by
  fun_induction parameter? cs generalizing name with
  | case1 => cases h
  | case2 value' =>
    cases h
    exact ⟨rfl, List.not_mem_nil⟩
  | case3 c rest hne ih =>
    obtain ⟨⟨front, back⟩, hrest, heq⟩ := Option.map_eq_some_iff.1 h
    cases heq
    obtain ⟨rfl, hnot⟩ := ih hrest
    refine ⟨rfl, ?_⟩
    simp only [List.mem_cons, not_or]
    exact ⟨fun heq => hne heq.symm, hnot⟩

theorem isUp_iff : isUp cs = true ↔ ListsUp cs := by
  constructor
  · intro h
    unfold isUp at h
    split at h
    · cases h
    · rename_i name value hparameter
      obtain ⟨rfl, hname⟩ := parameter?_eq_some hparameter
      rw [Bool.and_eq_true, sameIgnoringCase, beq_iff_eq, List.contains_iff_mem] at h
      have hup := (mem_words_iff.1 h.2).2
      exact .intro hname (strips_iff.1 rfl) h.1 (strips_iff.1 rfl) (strips_iff.1 rfl) hup
  · rintro ⟨hname, hlabel, hrel, hshown, hnames, hup⟩
    have hlabel := strips_iff.2 hlabel
    have hshown := strips_iff.2 hshown
    have hnames := strips_iff.2 hnames
    have hword := mem_words_iff.2 ⟨by decide, hup⟩
    rw [isUp, parameter?_append hname]
    simp only [trim, trimStart, unquote, hlabel, hshown, hnames, sameIgnoringCase, hrel,
      List.contains_iff_mem, hword, Bool.and_eq_true, and_true]
    decide

/-! ## Entries -/

theorem target?_eq_some (h : target? cs = some url) :
    ∃ before after, cs = before ++ '<' :: (url ++ '>' :: after)
      ∧ (∀ c ∈ before, isBlank c = true) ∧ ∀ c ∈ after, isBlank c = true := by
  unfold target? at h
  split at h
  · rename_i rest htrim
    split at h
    · rename_i back hreverse
      cases h
      obtain ⟨before, after, hcs, hbefore, hafter⟩ := (strips_iff.1 htrim).around
      have hrest : rest = back.reverse ++ ['>'] := by
        rw [← List.reverse_reverse rest, hreverse, List.reverse_cons]
      refine ⟨before, after, ?_, hbefore, hafter⟩
      rw [hcs, hrest]
      simp
    · cases h
  · cases h

theorem target?_of_blanks {before after : List Char} (hbefore : ∀ c ∈ before, isBlank c = true)
    (hafter : ∀ c ∈ after, isBlank c = true) :
    target? (before ++ '<' :: (url ++ '>' :: after)) = some url := by
  have htrim : trim (before ++ '<' :: (url ++ '>' :: after)) = '<' :: (url ++ ['>']) := by
    have hopen : isBlank '<' = false := by decide
    have hclose : isBlank '>' = false := by decide
    refine strips_iff.2 ⟨⟨before, after, by simp, hbefore, hafter⟩, by simpa using hopen, ?_⟩
    rw [← List.cons_append, List.getLast?_concat]
    simpa using hclose
  rw [target?, htrim]
  simp

theorem entryUp?_eq_some_iff : entryUp? cs = some url ↔ Relates cs url := by
  constructor
  · intro h
    unfold entryUp? at h
    rw [List.splitOn_eq_splitOnP] at h
    rcases splitOnP_cases (· == ';') cs with ⟨_, hs⟩ | ⟨front, c, rest, rfl, hplain, hc, hs⟩
    · simp [hs, guard] at h
    · rw [hs] at h
      obtain ⟨found, htarget, h⟩ := Option.bind_eq_some_iff.1 h
      obtain ⟨hguard, heq⟩ : ((rest.splitOnP (· == ';')).any isUp = true ∧ found ≠ [])
          ∧ found = url := by
        by_cases hg : (rest.splitOnP (· == ';')).any isUp = true ∧ found ≠ []
        · rw [guard, if_pos hg] at h
          exact ⟨hg, Option.some.inj h⟩
        · rw [guard, if_neg hg] at h
          cases h
      subst heq
      obtain ⟨parameter, hparameter, hup⟩ := List.any_eq_true.1 hguard.1
      obtain ⟨before, after, rfl, hbefore, hafter⟩ := target?_eq_some htarget
      rw [beq_iff_eq.1 hc, List.append_assoc, List.cons_append, List.append_assoc,
        List.cons_append]
      refine .intro hbefore hafter (fun hmem => ?_) hguard.2 (mem_splitOnP_iff.1 hparameter)
        (isUp_iff.1 hup)
      have := hplain ';' (by simp [hmem])
      cases this
  · rintro ⟨hbefore, hafter, hurl, hne, hparameter, hup⟩
    rename_i before after rest parameter
    have hplain : ';' ∉ before ++ '<' :: (url ++ '>' :: after) := by
      have hb : ';' ∉ before := not_mem_of_isBlank hbefore (by decide)
      have ha : ';' ∉ after := not_mem_of_isBlank hafter (by decide)
      simp [hb, ha, hurl]
    have hany : (rest.splitOn ';').any isUp = true :=
      List.any_eq_true.2 ⟨parameter, mem_splitOn_iff.2 hparameter, isUp_iff.2 hup⟩
    have hcut : before ++ '<' :: (url ++ '>' :: (after ++ ';' :: rest))
        = (before ++ '<' :: (url ++ '>' :: after)) ++ ';' :: rest := by simp
    rw [hcut, entryUp?, List.splitOn_append_cons_self_of_not_mem hplain]
    dsimp only
    rw [target?_of_blanks hbefore hafter]
    simp [guard, hany, hne]

theorem entryUp?_eq_none_iff : entryUp? cs = none ↔ ∀ url, ¬ Relates cs url := by
  rw [Option.eq_none_iff_forall_not_mem]
  simp only [Option.mem_def, entryUp?_eq_some_iff]

theorem Relates.ne_nil (h : Relates cs url) : url ≠ [] := by
  cases h
  assumption

theorem Relates.semicolon_not_mem (h : Relates cs url) : ';' ∉ url := by
  cases h
  assumption

theorem Relates.isInfix (h : Relates cs url) : '<' :: (url ++ ['>']) <:+: cs := by
  cases h with
  | @intro before _ after rest =>
    exact ⟨before, after ++ ';' :: rest, by simp⟩

/-! ## Headers -/

theorem upLink?_eq (values : List String) :
    upLink? values = ((entries values).findSome? entryUp?).map String.ofList := rfl

theorem entries_append (vs ws : List String) : entries (vs ++ ws) = entries vs ++ entries ws :=
  List.flatMap_append

theorem upLink?_append (vs ws : List String) :
    upLink? (vs ++ ws) = (upLink? vs).or (upLink? ws) := by
  simp only [upLink?_eq, entries_append, List.findSome?_append, Option.map_or]

/-- A comma between two values is as good as two values. -/
theorem entries_comma (a b : String) : entries [a ++ "," ++ b] = entries [a, b] := by
  have htext : (a ++ "," ++ b).toList = a.toList ++ ',' :: b.toList := by simp
  simp only [entries, List.flatMap_cons, List.flatMap_nil, List.append_nil, htext,
    List.splitOn_append_cons_self]

/-- The URL that is found belongs to the first entry that relates one. -/
theorem upLink?_eq_some_iff {values : List String} {u : String} :
    upLink? values = some u ↔ ∃ earlier entry later, entries values = earlier ++ entry :: later
      ∧ Relates entry u.toList ∧ ∀ other ∈ earlier, ∀ url, ¬ Relates other url := by
  have hfound : upLink? values = some u ↔ (entries values).findSome? entryUp? = some u.toList := by
    rw [upLink?_eq, Option.map_eq_some_iff]
    constructor
    · rintro ⟨url, hurl, rfl⟩
      rw [hurl, String.toList_ofList]
    · intro h
      exact ⟨u.toList, h, String.ofList_toList⟩
  rw [hfound, List.findSome?_eq_some_iff]
  simp only [entryUp?_eq_some_iff, entryUp?_eq_none_iff]

theorem upLink?_finds_first (vs ws : List String) (a b : String) :
    upLink? (vs ++ ws) = (upLink? vs).or (upLink? ws)
      ∧ upLink? [a ++ "," ++ b] = upLink? [a, b]
      ∧ (∀ u, upLink? vs = some u → u ≠ "" ∧ ',' ∉ u.toList ∧ ';' ∉ u.toList
        ∧ ∃ v ∈ vs, '<' :: (u.toList ++ ['>']) <:+: v.toList
          ∧ ∃ entry, IsPiece (· == ',') entry v.toList ∧ Relates entry u.toList)
      ∧ ∀ u, upLink? vs = some u ↔ ∃ earlier entry later, entries vs = earlier ++ entry :: later
        ∧ Relates entry u.toList ∧ ∀ other ∈ earlier, ∀ url, ¬ Relates other url := by
  refine ⟨upLink?_append vs ws, ?_, ?_, fun u => upLink?_eq_some_iff⟩
  · rw [upLink?_eq, upLink?_eq, entries_comma]
  · intro u h
    obtain ⟨earlier, entry, later, hentries, hrelates, _⟩ := upLink?_eq_some_iff.1 h
    have hmem : entry ∈ entries vs := hentries ▸ List.mem_append_right _ List.mem_cons_self
    obtain ⟨v, hv, hentry⟩ := List.mem_flatMap.1 hmem
    have hpiece := mem_splitOn_iff.1 hentry
    obtain ⟨front, back, hvalue, _⟩ := hpiece.between
    have hinfix : entry <:+: v.toList := ⟨front, back, by rw [hvalue, List.append_assoc]⟩
    have hcomma : ',' ∉ entry := fun hc => by simpa using hpiece.plain ',' hc
    refine ⟨fun hnil => hrelates.ne_nil (String.toList_eq_nil_iff.2 hnil), fun hc => ?_,
      hrelates.semicolon_not_mem, v, hv, hrelates.isInfix.trans hinfix, entry, hpiece, hrelates⟩
    exact hcomma (hrelates.isInfix.mem (List.mem_cons_of_mem _ (List.mem_append_left _ hc)))

end Acme.LinkHeader
