import Acme.Proofs.Text
import Mathlib.Data.List.Basic

/-!
# Comma separated lists

`Lists` says which names a text lists, without cutting it: none if it is blank, one that stands
between blanks, and, of two texts with a comma between them, those of the first and then those of
the second. These names are read and no others (`commaSeparated_eq_iff`). Reading is thus the
inverse of joining, exactly for the names that are written as they are read
(`commaSeparated_inverts_joining`).
-/

namespace Acme.Text

/-! ## What a text lists -/

/-- A name as it is read from a list: no comma divides it, and there are no blanks at its ends. -/
structure IsListed (name : String) : Prop where
  ne : name ≠ ""
  comma_not_mem : ',' ∉ name.toList
  head : ∀ c ∈ name.toList.head?, isBlank c = false
  last : ∀ c ∈ name.toList.getLast?, isBlank c = false

inductive Lists : String → List String → Prop
  | blank {text : String} (h : ∀ c ∈ text.toList, isBlank c = true) : Lists text []
  | single {front name back : String} (hfront : ∀ c ∈ front.toList, isBlank c = true)
    (hname : IsListed name) (hback : ∀ c ∈ back.toList, isBlank c = true) :
    Lists (front ++ name ++ back) [name]
  | comma {text other : String} {names others : List String} (h : Lists text names)
    (ho : Lists other others) : Lists (text ++ "," ++ other) (names ++ others)

variable {text : String} {names : List String}

theorem IsListed.lists {name : String} (h : IsListed name) : Lists name [name] := by
  have hlists : Lists ("" ++ name ++ "") [name] := .single (by simp) h (by simp)
  simpa using hlists

theorem Lists.isListed (h : Lists text names) : ∀ name ∈ names, IsListed name := by
  induction h with
  | blank => exact List.forall_mem_nil _
  | single _ hname => exact List.forall_mem_singleton.2 hname
  | comma _ _ ih iho => exact List.forall_mem_append.2 ⟨ih, iho⟩

/-- Each name stands in the text, with the names before it in front of it and those after it
behind. -/
theorem Lists.exists_around {before after : List String} {name : String}
    (h : Lists text (before ++ name :: after)) :
    ∃ front back, text = front ++ name ++ back ∧ Lists front before ∧ Lists back after := by
  generalize hnames : before ++ name :: after = names at h
  induction h generalizing before after with
  | blank => simp at hnames
  | @single front _ back hfront _ hback =>
    obtain ⟨rfl, rfl, rfl⟩ : before = [] ∧ name = _ ∧ after = [] := by
      simpa [List.append_eq_singleton_iff] using hnames
    exact ⟨front, back, rfl, .blank hfront, .blank hback⟩
  | @comma text other ns others hs ho ih iho =>
    -- a name of the second text has all of the first one in front of it
    have hbehind (rest : List String) (hbefore : before = ns ++ rest)
        (hothers : rest ++ name :: after = others) :
        ∃ front back, text ++ "," ++ other = front ++ name ++ back ∧ Lists front before
          ∧ Lists back after := by
      obtain ⟨front, back, rfl, hfront, hback⟩ := iho hothers
      exact ⟨text ++ "," ++ front, back, by simp [String.append_assoc],
        hbefore ▸ .comma hs hfront, hback⟩
    rcases List.append_eq_append_iff.1 hnames with ⟨rest, hns, hrest⟩ | ⟨rest, hbefore, hothers⟩
    · cases rest with
      | nil => exact hbehind [] (by simpa using hns.symm) hrest
      | cons first rest =>
        obtain ⟨rfl, rfl⟩ := List.cons.inj hrest
        obtain ⟨front, back, rfl, hfront, hback⟩ := ih hns.symm
        exact ⟨front, back ++ "," ++ other, by simp [String.append_assoc], hfront,
          .comma hback ho⟩
    · exact hbehind rest hbefore hothers.symm

/-! ## Reading -/

theorem commaSeparated_append (a b : String) :
    commaSeparated (a ++ "," ++ b) = commaSeparated a ++ commaSeparated b := by
  have htext : (a ++ "," ++ b).toList = a.toList ++ ',' :: b.toList := by simp
  simp only [commaSeparated, htext, List.splitOn_append_cons_self, List.map_append,
    List.filter_append]

/-- From joined texts the names of each are read, in the order of the texts. -/
theorem commaSeparated_intercalate (texts : List String) :
    commaSeparated (",".intercalate texts) = texts.flatMap commaSeparated := by
  induction texts with
  | nil => decide
  | cons text texts ih =>
    cases texts with
    | nil => simp
    | cons other rest =>
      rw [String.intercalate_cons_cons, commaSeparated_append, ih, ← List.flatMap_cons]

theorem commaSeparated_of_comma_not_mem (h : ',' ∉ text.toList) :
    commaSeparated text = if trim text.toList = [] then [] else [trimmed text] := by
  rw [commaSeparated, List.splitOn_eq_singleton h]
  by_cases hnil : trim text.toList = [] <;> simp [hnil, trimmed]

theorem Lists.commaSeparated_eq (h : Lists text names) : commaSeparated text = names := by
  induction h with
  | @blank text h =>
    have htrim : trim text.toList = [] :=
      strips_iff.2 ⟨⟨text.toList, [], by simp, h, by simp⟩, by simp, by simp⟩
    rw [commaSeparated_of_comma_not_mem (not_mem_of_isBlank h (by decide)), if_pos htrim]
  | @single front name back hfront hname hback =>
    have hcomma : ',' ∉ (front ++ name ++ back).toList := by
      have hf : ',' ∉ front.toList := not_mem_of_isBlank hfront (by decide)
      have hb : ',' ∉ back.toList := not_mem_of_isBlank hback (by decide)
      simp [hf, hb, hname.comma_not_mem]
    have htrim : trim (front ++ name ++ back).toList = name.toList :=
      strips_iff.2 ⟨⟨front.toList, back.toList, by simp, hfront, hback⟩, hname.head, hname.last⟩
    rw [commaSeparated_of_comma_not_mem hcomma, trimmed, htrim, String.ofList_toList,
      if_neg (by simpa using hname.ne)]
  | comma _ _ ih iho => rw [commaSeparated_append, ih, iho]

theorem exists_lists_of_comma_not_mem (h : ',' ∉ text.toList) : ∃ names, Lists text names := by
  obtain ⟨core, hcore⟩ : ∃ core, trim text.toList = core := ⟨_, rfl⟩
  obtain ⟨⟨front, back, htext, hfront, hback⟩, hhead, hlast⟩ := strips_iff.1 hcore
  have hcut : text = String.ofList front ++ String.ofList core ++ String.ofList back := by
    rw [← String.ofList_append, ← String.ofList_append, List.append_assoc, ← htext,
      String.ofList_toList]
  by_cases hnil : core = []
  · refine ⟨[], .blank fun c hc => ?_⟩
    rw [htext, hnil, List.nil_append, List.mem_append] at hc
    exact hc.elim (hfront c) (hback c)
  · have hname : IsListed (String.ofList core) := by
      refine ⟨by simpa using hnil, fun hc => h ?_, by simpa using hhead, by simpa using hlast⟩
      rw [String.toList_ofList, ← hcore] at hc
      exact mem_of_mem_trim hc
    rw [hcut]
    exact ⟨_, .single (by simpa using hfront) hname (by simpa using hback)⟩

theorem exists_lists (text : String) : ∃ names, Lists text names := by
  induction hn : text.toList.length using Nat.strongRecOn generalizing text with
  | _ n ih =>
    by_cases hcomma : ',' ∈ text.toList
    · obtain ⟨front, back, htext⟩ := List.append_of_mem hcomma
      have hlength : front.length + back.length + 1 = n := by
        rw [← hn, htext, List.length_append, List.length_cons, Nat.add_assoc]
      obtain ⟨names, hnames⟩ := ih front.length (by omega) (String.ofList front) (by simp)
      obtain ⟨others, hothers⟩ := ih back.length (by omega) (String.ofList back) (by simp)
      have hcut : text = String.ofList front ++ "," ++ String.ofList back :=
        String.toList_inj.1 (by simp [htext])
      rw [hcut]
      exact ⟨_, .comma hnames hothers⟩
    · exact exists_lists_of_comma_not_mem hcomma

theorem commaSeparated_eq_iff : commaSeparated text = names ↔ Lists text names := by
  refine ⟨?_, Lists.commaSeparated_eq⟩
  rintro rfl
  obtain ⟨names, h⟩ := exists_lists text
  rwa [h.commaSeparated_eq]

theorem lists_commaSeparated (text : String) : Lists text (commaSeparated text) :=
  commaSeparated_eq_iff.1 rfl

theorem commaSeparated_around {before after : List String} {name : String}
    (h : commaSeparated text = before ++ name :: after) :
    ∃ front back, text = front ++ name ++ back ∧ commaSeparated front = before
      ∧ commaSeparated back = after := by
  obtain ⟨front, back, htext, hfront, hback⟩ := (commaSeparated_eq_iff.1 h).exists_around
  exact ⟨front, back, htext, hfront.commaSeparated_eq, hback.commaSeparated_eq⟩

example : commaSeparated "example.com, www.example.com,," = ["example.com", "www.example.com"] := by
  decide

/-! ## Joining -/

theorem commaSeparated_intercalate_eq_self_iff :
    commaSeparated (",".intercalate names) = names ↔ ∀ name ∈ names, IsListed name := by
  constructor
  · intro h
    exact (commaSeparated_eq_iff.1 h).isListed
  · intro h
    calc commaSeparated (",".intercalate names)
        = names.flatMap commaSeparated := commaSeparated_intercalate names
      _ = names.flatMap ([·]) :=
          List.flatMap_congr fun name hname => (h name hname).lists.commaSeparated_eq
      _ = names := List.flatMap_singleton' names

/-- Reading is carried over a comma, gives names that stand in the text in this order, and undoes
the joining of names exactly if each of them is written as it is read. -/
theorem commaSeparated_inverts_joining (text other : String) (names : List String) :
    commaSeparated (text ++ "," ++ other) = commaSeparated text ++ commaSeparated other
      ∧ (∀ name ∈ commaSeparated text, IsListed name ∧ name.toList <:+: text.toList)
      ∧ (commaSeparated (",".intercalate names) = names ↔ ∀ name ∈ names, IsListed name)
      ∧ commaSeparated (",".intercalate (commaSeparated text)) = commaSeparated text
      ∧ commaSeparated (",".intercalate names) = names.flatMap commaSeparated
      ∧ (∀ before name after, commaSeparated text = before ++ name :: after →
        ∃ front back, text = front ++ name ++ back ∧ commaSeparated front = before
          ∧ commaSeparated back = after)
      ∧ (commaSeparated text = names ↔ Lists text names) := by
  have hlisted : ∀ name ∈ commaSeparated text, IsListed name :=
    (lists_commaSeparated text).isListed
  refine ⟨commaSeparated_append text other, fun name hname => ⟨hlisted name hname, ?_⟩,
    commaSeparated_intercalate_eq_self_iff, commaSeparated_intercalate_eq_self_iff.2 hlisted,
    commaSeparated_intercalate names, fun _ _ _ h => commaSeparated_around h, commaSeparated_eq_iff⟩
  obtain ⟨before, after, hsplit⟩ := List.append_of_mem hname
  obtain ⟨front, back, htext, -, -⟩ := commaSeparated_around hsplit
  exact ⟨front.toList, back.toList, by rw [htext, String.toList_append, String.toList_append]⟩

end Acme.Text
