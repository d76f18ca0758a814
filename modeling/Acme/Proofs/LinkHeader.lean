import Acme.LinkHeader
import Acme.Proofs.Text
import Mathlib.Data.Option.Basic

/-!
# Links are found in the headers that they are written in

Links as a header has them (`Link.text`), a few in each value. Of all of them the first one that is
related as `up` is found if commas and semicolons are left out of its URL; with one of these in its
URL, a link is not seen at all (`upLink?_headerValue`).
-/

namespace Acme.LinkHeader

open Text

/-! ## Links as they are written -/

def isUrlChar (c : Char) : Bool :=
  c != '<' && c != '>' && c != '"' && !isBlank c

/-- A character that ends neither a name nor what the name stands in. -/
def isNameChar (c : Char) : Bool :=
  isUrlChar c && c != ',' && c != ';'

/-- A URL, and the names of how it is related. -/
structure Link where
  url : String
  relations : List String
  url_ne : url ≠ ""
  isUrlChar_url : ∀ c ∈ url.toList, isUrlChar c = true
  relations_ne : relations ≠ []
  name_ne : ∀ name ∈ relations, name ≠ ""
  isNameChar_name : ∀ name ∈ relations, ∀ c ∈ name.toList, isNameChar c = true

namespace Link

def target (link : Link) : List Char :=
  '<' :: (link.url.toList ++ ['>'])

/-- The names, with a single blank between two of them. -/
def names (link : Link) : List Char :=
  [' '].intercalate (link.relations.map String.toList)

def parameter (link : Link) : List Char :=
  "rel".toList ++ '=' :: ('"' :: (link.names ++ ['"']))

def text (link : Link) : List Char :=
  link.target ++ ';' :: link.parameter

def isUp (link : Link) : Bool :=
  link.relations.contains "up"

/-- No comma and no semicolon divides the URL. -/
def isWhole (link : Link) : Bool :=
  link.url.toList.all fun c => c != ',' && c != ';'

end Link

/-- A value of the header with these links. -/
def headerValue (links : List Link) : String :=
  String.ofList ([',', ' '].intercalate (links.map Link.text))

/-! ## Parts of an entry -/

variable {cs blanks front value url : List Char} {c : Char} {link : Link}

theorem parameter?_append (h : '=' ∉ front) (value : List Char) :
    parameter? (front ++ '=' :: value) = some (front, value) := by
  induction front with
  | nil => rfl
  | cons c front ih =>
    rw [List.mem_cons, not_or] at h
    rw [List.cons_append, parameter?, ih h.2, Option.map_some]
    exact fun heq => h.1 heq.symm

theorem unquote_quoted (h : '"' ∉ cs) : unquote ('"' :: (cs ++ ['"'])) = cs := by
  have hne (c : Char) (hc : c ∈ cs) : (c == '"') = false := by
    rw [beq_eq_false_iff_ne]
    rintro rfl
    exact h hc
  rw [unquote, List.dropWhile_cons_of_pos rfl]
  cases cs with
  | nil => rfl
  | cons first rest =>
    have hstart : ((first :: rest) ++ ['"']).dropWhile (· == '"') = (first :: rest) ++ ['"'] :=
      List.dropWhile_cons_of_neg (by simp [hne first List.mem_cons_self])
    obtain ⟨front, last, hlast⟩ : ∃ front last, first :: rest = front ++ [last] :=
      ⟨_, _, (List.dropLast_concat_getLast (List.cons_ne_nil first rest)).symm⟩
    rw [hstart, dropEndWhile_concat_of_pos rfl, hlast, dropEndWhile_concat_of_neg]
    exact hne last (hlast ▸ List.mem_append_right front List.mem_cons_self)

theorem target?_enclosed (h : ∀ c ∈ blanks, isBlank c = true) :
    target? (blanks ++ '<' :: (url ++ ['>'])) = some url := by
  rw [target?, trim_enclosed h (by decide) (by decide)]
  simp

/-- A target has a bracket on each side. -/
theorem mem_of_target? (h : target? cs = some url) : '<' ∈ cs ∧ '>' ∈ cs := by
  rw [target?] at h
  split at h
  · rename_i rest htrim
    split at h
    · rename_i hreverse
      refine ⟨mem_of_mem_trim (htrim ▸ List.mem_cons_self), mem_of_mem_trim ?_⟩
      rw [htrim]
      exact List.mem_cons_of_mem _ (List.mem_reverse.1 (hreverse ▸ List.mem_cons_self))
    · cases h
  · cases h

theorem entryUp?_of_target? {target : List Char} {parameters : List (List Char)}
    (hs : cs.splitOn ';' = target :: parameters) (ht : target? target = none) :
    entryUp? cs = none := by
  rw [entryUp?, hs]
  dsimp only
  rw [ht]
  rfl

/-- An entry that lacks a bracket is passed over. -/
theorem entryUp?_of_not_mem (h : '<' ∉ cs ∨ '>' ∉ cs) : entryUp? cs = none := by
  obtain ⟨target, parameters, hs⟩ := List.exists_cons_of_ne_nil (List.splitOn_ne_nil ';' cs)
  have hmem {c : Char} (hc : c ∈ target) : c ∈ cs :=
    mem_of_mem_splitOn (hs ▸ List.mem_cons_self) hc
  refine entryUp?_of_target? hs (Option.eq_none_iff_forall_not_mem.2 fun url ht => ?_)
  obtain ⟨hopen, hclose⟩ := mem_of_target? ht
  exact h.elim (fun hn => hn (hmem hopen)) (fun hn => hn (hmem hclose))

/-! ## One link -/

theorem ne_of_isUrlChar (h : isUrlChar c = true) :
    c ≠ '<' ∧ c ≠ '>' ∧ c ≠ '"' ∧ isBlank c = false := by
  simpa [isUrlChar, and_assoc] using h

theorem ne_of_isNameChar (h : isNameChar c = true) : isUrlChar c = true ∧ c ≠ ',' ∧ c ≠ ';' := by
  simpa [isNameChar, and_assoc] using h

namespace Link

theorem mem_names (h : c ∈ link.names) : isNameChar c = true ∨ c = ' ' := by
  rcases mem_intercalate h with hblank | ⟨piece, hpiece, hc⟩
  · exact .inr (List.mem_singleton.1 hblank)
  · obtain ⟨name, hname, rfl⟩ := List.mem_map.1 hpiece
    exact .inl (link.isNameChar_name name hname c hc)

theorem words_names (link : Link) : words link.names = link.relations.map String.toList := by
  refine words_intercalate fun w hw => ?_
  obtain ⟨name, hname, rfl⟩ := List.mem_map.1 hw
  refine ⟨fun hnil => link.name_ne name hname (String.toList_eq_nil_iff.1 hnil), fun c hc => ?_⟩
  exact (ne_of_isUrlChar (ne_of_isNameChar (link.isNameChar_name name hname c hc)).1).2.2.2

/-- Whether a link is related as `up` is read from its parameter. -/
theorem isUp_parameter (link : Link) : LinkHeader.isUp link.parameter = link.isUp := by
  have hquote : '"' ∉ link.names := by
    intro hmem
    rcases mem_names hmem with hname | hblank
    · exact absurd hname (by decide)
    · exact absurd hblank (by decide)
  have htrim : trim ([] ++ '"' :: (link.names ++ ['"'])) = '"' :: (link.names ++ ['"']) :=
    trim_enclosed (List.forall_mem_nil _) (by decide) (by decide)
  rw [List.nil_append] at htrim
  rw [LinkHeader.isUp, parameter, parameter?_append (by decide)]
  dsimp only
  rw [htrim, unquote_quoted hquote, words_names, show trim "rel".toList = "rel".toList from rfl,
    sameIgnoringCase, beq_self_eq_true, Bool.true_and, isUp, Bool.eq_iff_iff, List.contains_iff_mem,
    List.contains_iff_mem, List.mem_map]
  constructor
  · rintro ⟨name, hname, heq⟩
    exact String.toList_inj.1 heq ▸ hname
  · exact fun hup => ⟨"up", hup, rfl⟩

theorem not_mem_url (h : isUrlChar c = false) : c ∉ link.url.toList := by
  intro hmem
  rw [link.isUrlChar_url c hmem] at h
  cases h

theorem not_mem_parameter (h : isNameChar c = false) (hblank : c ≠ ' ')
    (hc : c ∉ ['r', 'e', 'l', '=', '"']) : c ∉ link.parameter := by
  have hnames : c ∉ link.names := by
    intro hmem
    rcases mem_names hmem with hname | hspace
    · rw [h] at hname
      cases hname
    · exact hblank hspace
  simp_all [parameter]

theorem not_mem_target (hurl : c ∉ link.url.toList) (hc : c ∉ ['<', '>']) : c ∉ link.target := by
  simp_all [target]

theorem isWhole_iff : link.isWhole = true ↔ ',' ∉ link.url.toList ∧ ';' ∉ link.url.toList := by
  rw [isWhole, List.all_eq_true]
  constructor
  · intro h
    exact ⟨fun hmem => by simpa using h ',' hmem, fun hmem => by simpa using h ';' hmem⟩
  · rintro ⟨hcomma, hsemicolon⟩ c hc
    rw [Bool.and_eq_true, bne_iff_ne, bne_iff_ne]
    exact ⟨fun heq => hcomma (heq ▸ hc), fun heq => hsemicolon (heq ▸ hc)⟩

theorem comma_not_mem_text (hb : ∀ c ∈ blanks, isBlank c = true) (h : ',' ∉ link.url.toList) :
    ',' ∉ blanks ++ link.text := by
  have hblanks : ',' ∉ blanks := not_mem_of_isBlank hb (by decide)
  have htarget := not_mem_target h (by decide)
  have hparameter : ',' ∉ link.parameter := not_mem_parameter (by decide) (by decide) (by decide)
  simp_all [text]

/-- A link that is whole makes an entry, which is taken apart as it was put together. -/
theorem findSome?_of_isWhole (hb : ∀ c ∈ blanks, isBlank c = true) (h : link.isWhole = true) :
    ((blanks ++ link.text).splitOn ',').findSome? entryUp?
      = if link.isUp then some link.url.toList else none := by
  obtain ⟨hcomma, hsemicolon⟩ := isWhole_iff.1 h
  have hparameter : ';' ∉ link.parameter := not_mem_parameter (by decide) (by decide) (by decide)
  have htarget : ';' ∉ blanks ++ link.target := by
    rw [List.mem_append, not_or]
    exact ⟨not_mem_of_isBlank hb (by decide), not_mem_target hsemicolon (by decide)⟩
  have hsplit : (blanks ++ link.text).splitOn ';' = [blanks ++ link.target, link.parameter] := by
    rw [text, ← List.append_assoc, List.splitOn_append_cons_self_of_not_mem htarget,
      List.splitOn_eq_singleton hparameter]
  rw [List.splitOn_eq_singleton (comma_not_mem_text hb hcomma), List.findSome?_singleton, entryUp?, hsplit]
  dsimp only
  rw [target, target?_enclosed hb, Option.bind_eq_bind, Option.bind_some, List.any_cons,
    List.any_nil, Bool.or_false, isUp_parameter]
  cases hup : link.isUp with
  | false => rfl
  | true => simp [guard, String.toList_eq_nil_iff, link.url_ne]

/-- A character in the URL of a link cuts its text in two, with one bracket in each part. -/
theorem exists_cut {d : Char} (hb : ∀ c ∈ blanks, isBlank c = true) (hplain : isBlank d = false)
    (hbracket : d ≠ '<') (hmem : d ∈ link.url.toList) :
    ∃ before after, blanks ++ link.text = before ++ d :: after
      ∧ d ∉ before ∧ '>' ∉ before ∧ '<' ∉ after := by
  obtain ⟨front, back, hurl, hfront⟩ := List.eq_append_cons_of_mem hmem
  have hopen : '<' ∉ link.url.toList := not_mem_url (by decide)
  have hclose : '>' ∉ link.url.toList := not_mem_url (by decide)
  have hparameter : '<' ∉ link.parameter := not_mem_parameter (by decide) (by decide) (by decide)
  have hdivider : d ∉ blanks := not_mem_of_isBlank hb hplain
  have hblanks : '>' ∉ blanks := not_mem_of_isBlank hb (by decide)
  rw [hurl] at hopen hclose
  refine ⟨blanks ++ '<' :: front, back ++ '>' :: ';' :: link.parameter, ?_, ?_, ?_, ?_⟩
  · simp [text, target, hurl]
  · simp_all
  · simp_all
  · simp_all

/-- Of a link with a comma or a semicolon in its URL no piece has both brackets. -/
theorem findSome?_of_not_isWhole (hb : ∀ c ∈ blanks, isBlank c = true)
    (h : link.isWhole = false) : ((blanks ++ link.text).splitOn ',').findSome? entryUp? = none := by
  by_cases hcomma : ',' ∈ link.url.toList
  · obtain ⟨before, after, htext, hfirst, hclose, hopen⟩ :=
      exists_cut hb (by decide) (by decide) hcomma
    rw [htext, List.splitOn_append_cons_self_of_not_mem hfirst, List.findSome?_cons,
      entryUp?_of_not_mem (.inr hclose)]
    refine List.findSome?_eq_none_iff.2 fun piece hpiece => entryUp?_of_not_mem (.inl fun hmem => ?_)
    exact hopen (mem_of_mem_splitOn hpiece hmem)
  · have hsemicolon : ';' ∈ link.url.toList := by
      by_contra hno
      rw [isWhole_iff.2 ⟨hcomma, hno⟩] at h
      cases h
    obtain ⟨before, after, htext, hfirst, hclose, _⟩ :=
      exists_cut hb (by decide) (by decide) hsemicolon
    have hsplit : (blanks ++ link.text).splitOn ';' = before :: after.splitOn ';' := by
      rw [htext, List.splitOn_append_cons_self_of_not_mem hfirst]
    rw [List.splitOn_eq_singleton (comma_not_mem_text hb hcomma), List.findSome?_singleton]
    refine entryUp?_of_target? hsplit (Option.eq_none_iff_forall_not_mem.2 fun url ht => ?_)
    exact hclose (mem_of_target? ht).2

/-- What is found in the pieces of a link. -/
theorem findSome?_text (hb : ∀ c ∈ blanks, isBlank c = true) (link : Link) :
    ((blanks ++ link.text).splitOn ',').findSome? entryUp?
      = if link.isWhole && link.isUp then some link.url.toList else none := by
  cases h : link.isWhole with
  | true => rw [findSome?_of_isWhole hb h, Bool.true_and]
  | false => exact findSome?_of_not_isWhole hb h

end Link

/-! ## All links -/

theorem findSome?_links (hb : ∀ c ∈ blanks, isBlank c = true) (links : List Link) :
    ((blanks ++ [',', ' '].intercalate (links.map Link.text)).splitOn ',').findSome? entryUp?
      = (links.find? fun link => link.isWhole && link.isUp).map fun link => link.url.toList := by
  -- The blank after a comma belongs to the entry that follows.
  induction links generalizing blanks with
  | nil =>
    rw [List.map_nil, List.intercalate_nil, List.append_nil,
      List.splitOn_eq_singleton (not_mem_of_isBlank hb (by decide)), List.findSome?_singleton,
      entryUp?_of_not_mem (.inl (not_mem_of_isBlank hb (by decide)))]
    rfl
  | cons link links ih =>
    have hlink := link.findSome?_text hb
    have hfound : ((blanks ++ [',', ' '].intercalate ((link :: links).map Link.text)).splitOn
          ',').findSome? entryUp?
        = (((blanks ++ link.text).splitOn ',').findSome? entryUp?).or
          ((links.find? fun link => link.isWhole && link.isUp).map fun link => link.url.toList) := by
      cases links with
      | nil => simp
      | cons next links =>
        have hblank : ∀ c ∈ [' '], isBlank c = true := List.forall_mem_singleton.2 rfl
        have htext : blanks ++ [',', ' '].intercalate ((link :: next :: links).map Link.text)
            = (blanks ++ link.text)
              ++ ',' :: ([' '] ++ [',', ' '].intercalate ((next :: links).map Link.text)) := by
          simp [List.intercalate_cons_cons]
        rw [htext, List.splitOn_append_cons_self, List.findSome?_append, ih hblank]
    rw [hfound, hlink, List.find?_cons]
    cases link.isWhole && link.isUp <;> rfl

theorem findSome?_headerValue (links : List Link) :
    ((headerValue links).toList.splitOn ',').findSome? entryUp?
      = (links.find? fun link => link.isWhole && link.isUp).map fun link => link.url.toList := by
  have hfound := findSome?_links (List.forall_mem_nil _) links
  rw [headerValue, String.toList_ofList]
  rwa [List.nil_append] at hfound

/-- Of the links of a header, however they are spread over its values, the first one that is related
as `up` is found, if those are left out whose URL has a comma or a semicolon in it. -/
theorem upLink?_headerValue (values : List (List Link)) :
    upLink? (values.map headerValue)
      = (values.flatten.find? fun link => link.isWhole && link.isUp).map Link.url := by
  have hentries : ((values.map headerValue).flatMap fun v => v.toList.splitOn ',').findSome? entryUp?
      = (values.flatten.find? fun link => link.isWhole && link.isUp).map
        fun link => link.url.toList := by
    induction values with
    | nil => rfl
    | cons links values ih =>
      rw [List.map_cons, List.flatMap_cons, List.findSome?_append, findSome?_headerValue, ih,
        List.flatten_cons, List.find?_append]
      cases links.find? fun link => link.isWhole && link.isUp <;> rfl
  rw [upLink?, hentries, Option.map_map]
  exact congrArg (Option.map · _) (funext fun link => String.ofList_toList)

/-- A link to the issuer that is never found. -/
def numberedIssuer : Link where
  url := "https://ca.test/issuer,1"
  relations := ["up"]
  url_ne := by decide
  isUrlChar_url := List.all_eq_true.1 (by decide)
  relations_ne := by decide
  name_ne := by decide
  isNameChar_name := List.forall_mem_singleton.2 (List.all_eq_true.1 (by decide))

theorem numberedIssuer_lost :
    numberedIssuer.isUp = true ∧ upLink? [headerValue [numberedIssuer]] = none := by
  decide

end Acme.LinkHeader
