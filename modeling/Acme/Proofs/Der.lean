import Acme.Der
import Acme.Proofs.Octets
import Mathlib.Data.Option.Basic

/-!
# Reading DER

A strict reader of the distinguished encoding rules, for octet strings of any length: the shortest
form of every length, nothing left over. Tags are compared by their first octet, so that a tag of
several octets, whose first one ends in five set bits, is none of those asked for. The reader gives
back what was written (`parts?_group`), as long as the length has a form at all: its first octet may
not be 0xFF, so a content of 256 ^ 126 octets or more has no encoding.

Main definitions: `length?`, `Element` with its readers `parts?` and `content?`, `elements?`, and
the contents `objectIdentifier?`, `bits?` and `naturalOfContent?`.
-/

namespace Acme.Der

/-! ## Elements -/

/-- The length that the octets start with, and the octets after it. -/
def length? : Octets → Option (Nat × Octets)
  | [] => none
  | first :: rest =>
    if first < 0x80 then some (first.toNat, rest)
    else
      let count := first.toNat - 0x80
      let digits := rest.take count
      let n := Octets.toNat digits
      if 0 < count ∧ count < 127 ∧ digits.length = count ∧ digits.head? ≠ some 0 ∧ 0x80 ≤ n then
        some (n, rest.drop count)
      else none

/-- A tag, a content, and the octets that both were read from. -/
structure Element where
  tag : UInt8
  content : Octets
  octets : Octets
  deriving DecidableEq, Repr

/-- The element that the octets start with, and the octets after it. -/
def element? : Octets → Option (Element × Octets)
  | [] => none
  | tag :: rest => do
    let (n, body) ← length? rest
    guard (n ≤ body.length)
    let head := rest.length - body.length
    return (⟨tag, body.take n, tag :: rest.take (head + n)⟩, body.drop n)

theorem length_le_of_length? {bytes rest : Octets} {n : Nat} (h : length? bytes = some (n, rest)) :
    rest.length ≤ bytes.length := by
  cases bytes with
  | nil => cases h
  | cons first bytes =>
    rw [length?] at h
    split at h
    · cases h
      exact Nat.le_succ _
    · dsimp only at h
      split at h
      · obtain ⟨_, rfl⟩ := Prod.mk.inj (Option.some.inj h)
        rw [List.length_drop, List.length_cons]
        omega
      · cases h

theorem length_lt_of_element? {bytes rest : Octets} {e : Element}
    (h : element? bytes = some (e, rest)) : rest.length < bytes.length := by
  cases bytes with
  | nil => cases h
  | cons tag bytes =>
    obtain ⟨⟨n, body⟩, hlength, h⟩ := Option.bind_eq_some_iff.1 h
    obtain ⟨_, _, h⟩ := Option.bind_eq_some_iff.1 h
    have hbody := length_le_of_length? hlength
    cases h
    rw [List.length_drop, List.length_cons]
    omega

/-- The elements that the octets consist of. -/
def elements? (bytes : Octets) : Option (List Element) :=
  if bytes = [] then some []
  else
    match _h : element? bytes with
    | none => none
    | some (e, rest) => return e :: (← elements? rest)
termination_by bytes.length
decreasing_by exact length_lt_of_element? _h

namespace Element

def content? (tag : UInt8) (e : Element) : Option Octets :=
  if e.tag = tag then some e.content else none

/-- The elements that the content of an element with this tag consists of. -/
def parts? (tag : UInt8) (e : Element) : Option (List Element) :=
  (e.content? tag).bind elements?

end Element

/-! ## Contents -/

/-- Numbers to base 128, where the highest bit of a digit says that another one follows; `begun`
is what has been read of the first one. No number begins with a zero digit. -/
def arcs? : (begun : Option Nat) → Octets → Option (List Nat)
  | none, [] => some []
  | some _, [] => none
  | begun, digit :: rest =>
    if begun = none ∧ digit = 0x80 then none
    else
      let n := begun.getD 0 * 128 + digit.toNat % 128
      if digit < 0x80 then (arcs? none rest).map (n :: ·) else arcs? (some n) rest

/-- The numbers of an object identifier; the first two are written as one. -/
def objectIdentifier? (content : Octets) : Option (List Nat) :=
  match arcs? none content with
  | some (first :: rest) => some (min (first / 40) 2 :: (first - 40 * min (first / 40) 2) :: rest)
  | _ => none

/-- The octets of a BIT STRING without unused bits. -/
def bits? : Octets → Option Octets
  | 0 :: content => some content
  | _ => none

/-! ## What was written -/

namespace Element

/-- The element that is written with this tag and this content. -/
def of (tag : UInt8) (content : Octets) : Element :=
  ⟨tag, content, element tag content⟩

/-- The element whose content consists of these elements. -/
def group (tag : UInt8) (parts : List Element) : Element :=
  of tag (parts.map octets).flatten

def Written (e : Element) : Prop :=
  e.octets = element e.tag e.content

@[simp]
theorem written_of (tag : UInt8) (content : Octets) : (of tag content).Written := rfl

@[simp]
theorem written_group (tag : UInt8) (parts : List Element) : (group tag parts).Written := rfl

@[simp]
theorem octets_of (tag : UInt8) (content : Octets) :
    (of tag content).octets = Der.element tag content :=
  rfl

@[simp]
theorem octets_group (tag : UInt8) (parts : List Element) :
    (group tag parts).octets = Der.element tag (parts.map octets).flatten :=
  rfl

theorem content?_of (tag : UInt8) (content : Octets) :
    (of tag content).content? tag = some content :=
  if_pos rfl

end Element

/-- Octets that can be the content of an element. -/
def Short (bytes : Octets) : Prop :=
  bytes.length < 256 ^ 126

theorem length_element (tag : UInt8) (content : Octets) :
    (element tag content).length = 1 + (lengthOctets content.length).length + content.length := by
  rw [element, List.cons_append, List.length_cons, List.length_append]
  omega

theorem Short.content {tag : UInt8} {content : Octets} (h : Short (element tag content)) :
    Short content := by
  have hlength := length_element tag content
  rw [Short] at h ⊢
  omega

theorem Short.part {tag : UInt8} {parts : List Element} {e : Element}
    (h : Short (Element.group tag parts).octets) (he : e ∈ parts) : Short e.octets := by
  have hparts : Short (parts.map Element.octets).flatten := h.content
  have hle : e.octets.length ≤ (parts.map Element.octets).flatten.length :=
    (List.sublist_flatten_of_mem (List.mem_map_of_mem he)).length_le
  exact Nat.lt_of_le_of_lt hle hparts

/-! ## Reading what was written -/

theorem lengthOctets_short {n : Nat} (h : n < 0x80) :
    ∃ first, lengthOctets n = [first] ∧ first < 0x80 ∧ first.toNat = n := by
  have hvalue : (UInt8.ofNat n).toNat = n := by
    rw [UInt8.toNat_ofNat']
    omega
  refine ⟨UInt8.ofNat n, if_pos h, ?_, hvalue⟩
  rw [UInt8.lt_iff_toNat_lt, hvalue]
  exact h

theorem lengthOctets_long {n : Nat} (hn : ¬n < 0x80) (h : n < 256 ^ 126) :
    ∃ first, lengthOctets n = first :: Octets.ofNat n ∧ ¬first < 0x80
      ∧ first.toNat - 0x80 = (Octets.ofNat n).length := by
  have hcount : (Octets.ofNat n).length ≤ 126 := by
    rw [Octets.length_ofNat]
    exact Octets.lengthOfNat_le (by decide) h
  have hvalue : (UInt8.ofNat (0x80 + (Octets.ofNat n).length)).toNat
      = 0x80 + (Octets.ofNat n).length := by
    rw [UInt8.toNat_ofNat']
    omega
  refine ⟨UInt8.ofNat (0x80 + (Octets.ofNat n).length), if_neg hn, ?_, ?_⟩
  · rw [UInt8.lt_iff_toNat_lt, hvalue]
    exact Nat.not_lt.2 (Nat.le_add_right _ _)
  · rw [hvalue, Nat.add_sub_cancel_left]

theorem length?_lengthOctets {n : Nat} (h : n < 256 ^ 126) (rest : Octets) :
    length? (lengthOctets n ++ rest) = some (n, rest) := by
  by_cases hn : n < 0x80
  · obtain ⟨first, hoctets, hfirst, hvalue⟩ := lengthOctets_short hn
    rw [hoctets, List.singleton_append, length?, if_pos hfirst, hvalue]
  · obtain ⟨first, hoctets, hfirst, hcount⟩ := lengthOctets_long hn h
    have hlength := Octets.length_ofNat n
    have hpos := Octets.lengthOfNat_pos n
    have hle := Octets.lengthOfNat_le (by decide) h
    have hhead : (Octets.ofNat n).head? ≠ some 0 := Octets.head?_ofNat_ne_zero (by omega)
    have hlarge : 0x80 ≤ n := by omega
    rw [hoctets, List.cons_append, length?, if_neg hfirst, hcount]
    dsimp only
    rw [List.take_left, List.drop_left, Octets.toNat_ofNat,
      if_pos ⟨by omega, by omega, rfl, hhead, hlarge⟩]

theorem element?_written {e : Element} (he : e.Written) (h : Short e.octets) (rest : Octets) :
    element? (e.octets ++ rest) = some (e, rest) := by
  obtain ⟨tag, content, octets⟩ := e
  obtain rfl : octets = element tag content := he
  have hcontent : content.length < 256 ^ 126 := h.content
  have hlength := length?_lengthOctets hcontent (content ++ rest)
  have hle : content.length ≤ (content ++ rest).length := by simp
  have hhead : (lengthOctets content.length ++ (content ++ rest)).length - (content ++ rest).length
      + content.length = (lengthOctets content.length ++ content).length := by
    simp only [List.length_append]
    omega
  have htake : (lengthOctets content.length ++ (content ++ rest)).take
      (lengthOctets content.length ++ content).length = lengthOctets content.length ++ content := by
    rw [← List.append_assoc]
    exact List.take_left
  show element? (tag :: lengthOctets content.length ++ content ++ rest) = _
  rw [List.append_assoc, List.cons_append, element?, hlength]
  simp only [Option.bind_eq_bind, Option.bind_some, guard]
  rw [if_pos hle, hhead, htake, List.take_left, List.drop_left]
  rfl

theorem elements?_written {parts : List Element} (hparts : ∀ e ∈ parts, e.Written)
    (h : ∀ e ∈ parts, Short e.octets) :
    elements? (parts.map Element.octets).flatten = some parts := by
  induction parts with
  | nil =>
    rw [elements?]
    rfl
  | cons e parts ih =>
    have he := hparts e List.mem_cons_self
    have hread := element?_written he (h e List.mem_cons_self) (parts.map Element.octets).flatten
    have hnonempty : e.octets ++ (parts.map Element.octets).flatten ≠ [] := by
      rw [Element.Written] at he
      rw [he, element]
      exact List.cons_ne_nil _ _
    rw [List.map_cons, List.flatten_cons, elements?, if_neg hnonempty]
    split
    · next hnone =>
      rw [hread] at hnone
      cases hnone
    · next hsome =>
      rw [hread] at hsome
      cases hsome
      rw [ih (fun e he => hparts e (List.mem_cons_of_mem _ he))
        (fun e he => h e (List.mem_cons_of_mem _ he))]
      rfl

theorem parts?_group {tag : UInt8} {parts : List Element} (hparts : ∀ e ∈ parts, e.Written)
    (h : Short (Element.group tag parts).octets) :
    (Element.group tag parts).parts? tag = some parts := by
  rw [Element.parts?, Element.group, Element.content?_of, Option.bind_some]
  exact elements?_written hparts fun e he => h.part he

/-- Octets that were written as one element are read as that element. -/
theorem elements?_octets {e : Element} (he : e.Written) (h : Short e.octets) :
    elements? e.octets = some [e] := by
  have hone := @elements?_written [e] (by simpa using he) (by simpa using h)
  simpa using hone

/-! ## Numbers -/

/-- The content of an INTEGER that is not negative. -/
def naturalContent (n : Nat) : Octets :=
  let digits := Octets.ofNat n
  if digits.headD 0 < 0x80 then digits else 0 :: digits

theorem natural_eq (n : Nat) : natural n = element integerTag (naturalContent n) := rfl

theorem naturalOfContent?_naturalContent (n : Nat) :
    naturalOfContent? (naturalContent n) = some n := by
  have hvalue := Octets.toNat_ofNat n
  have hhead : 0 < n → (Octets.ofNat n).head? ≠ some 0 := Octets.head?_ofNat_ne_zero
  have hlength : 1 < (Octets.ofNat n).length → 0 < n := by
    intro h
    refine Nat.pos_of_ne_zero fun hzero => ?_
    subst hzero
    exact absurd h (by decide)
  rw [naturalContent]
  cases hdigits : Octets.ofNat n with
  | nil =>
    have hnil := Octets.length_ofNat n
    have hpos := Octets.lengthOfNat_pos n
    rw [hdigits, List.length_nil] at hnil
    omega
  | cons a rest =>
    rw [hdigits] at hvalue hhead hlength
    by_cases ha : a < 0x80
    · rw [List.headD_cons, if_pos ha]
      cases rest with
      | nil =>
        rw [naturalOfContent?, if_pos ha, ← hvalue]
        simp [Octets.toNat]
      | cons b rest =>
        have hne : a ≠ 0 := by
          rintro rfl
          exact hhead (hlength (by simp)) rfl
        rw [naturalOfContent?, if_neg hne, if_pos ha, hvalue]
    · rw [List.headD_cons, if_neg ha, naturalOfContent?, if_pos rfl, if_neg ha, hvalue]

/-! ## The reader of keys -/

/-- What the reader of keys takes as the content of an element. -/
def maxContent : Nat := 0x10000000

theorem readLength?_lengthOctets {n : Nat} (h : n < maxContent) (rest : Octets) :
    readLength? (lengthOctets n ++ rest) = some (n, rest) := by
  by_cases hn : n < 0x80
  · obtain ⟨first, hoctets, hfirst, hvalue⟩ := lengthOctets_short hn
    rw [hoctets, List.singleton_append, readLength?, if_pos hfirst, hvalue]
  · have hlong : n < 256 ^ 126 := Nat.lt_trans h (by decide)
    obtain ⟨first, hoctets, hfirst, hcount⟩ := lengthOctets_long hn hlong
    have hlength := Octets.length_ofNat n
    have hpos := Octets.lengthOfNat_pos n
    have hle : Octets.lengthOfNat n ≤ 4 :=
      Octets.lengthOfNat_le (by decide) (Nat.lt_trans h (by decide))
    rw [hoctets, List.cons_append, readLength?, if_neg hfirst, hcount]
    dsimp only
    rw [List.take_left, List.drop_left, Octets.toNat_ofNat,
      if_pos ⟨by omega, by omega, rfl, h, hoctets⟩]

theorem readElement?_element (tag : UInt8) {content : Octets} (h : content.length < maxContent)
    (rest : Octets) : readElement? (element tag content ++ rest) = some (tag, content, rest) := by
  have hle : content.length ≤ (content ++ rest).length := by simp
  rw [element, List.append_assoc, List.cons_append, readElement?, readLength?_lengthOctets h]
  simp only [Option.bind_eq_bind, Option.bind_some, guard]
  rw [if_pos hle, List.take_left, List.drop_left]
  rfl

theorem readTagged?_element (tag : UInt8) {content : Octets} (h : content.length < maxContent)
    (rest : Octets) : readTagged? tag (element tag content ++ rest) = some (content, rest) := by
  rw [readTagged?, readElement?_element tag h]
  simp [guard]

theorem length_lt_element (tag : UInt8) (content : Octets) :
    content.length < (element tag content).length := by
  rw [length_element]
  omega

theorem whole?_element (tag : UInt8) {content : Octets}
    (h : (element tag content).length ≤ maxLength) :
    whole? tag (element tag content) = some content := by
  have hcontent : content.length < maxContent :=
    Nat.lt_of_lt_of_le (length_lt_element tag content) (Nat.le_trans h (by decide))
  have hread := readTagged?_element tag hcontent []
  rw [List.append_nil] at hread
  simp [whole?, hread, h, guard]

theorem length_naturalContent_le (n : Nat) :
    (naturalContent n).length ≤ Octets.lengthOfNat n + 1 := by
  have hlength := Octets.length_ofNat n
  simp only [naturalContent]
  split
  · omega
  · rw [List.length_cons]
    omega

theorem lengthOfNat_lt_natural (n : Nat) : Octets.lengthOfNat n < (natural n).length := by
  have hlength := Octets.length_ofNat n
  have hcontent : Octets.lengthOfNat n ≤ (naturalContent n).length := by
    simp only [naturalContent]
    split
    · omega
    · rw [List.length_cons]
      omega
  rw [natural_eq]
  exact Nat.lt_of_le_of_lt hcontent (length_lt_element _ _)

theorem readNatural?_natural {n : Nat} (h : (natural n).length < maxContent) (rest : Octets) :
    readNatural? (natural n ++ rest) = some (n, rest) := by
  rw [natural_eq] at h ⊢
  have hlength := Nat.lt_trans (length_lt_element integerTag (naturalContent n)) h
  rw [readNatural?, readTagged?_element _ hlength]
  simp [naturalOfContent?_naturalContent]

theorem readNaturals?_natural {numbers : List Nat}
    (h : (numbers.map natural).flatten.length < maxContent) (rest : Octets) :
    readNaturals? numbers.length ((numbers.map natural).flatten ++ rest)
      = some (numbers, rest) := by
  induction numbers with
  | nil => rfl
  | cons n numbers ih =>
    rw [List.map_cons, List.flatten_cons, List.length_append] at h
    have hread := ih (by omega)
    rw [List.map_cons, List.flatten_cons, List.append_assoc, List.length_cons, readNaturals?,
      readNatural?_natural (by omega)]
    simp [hread]

/-! ## How long it gets -/

theorem length_element_le (tag : UInt8) {content : Octets} (h : content.length < maxContent) :
    (element tag content).length ≤ content.length + 6 := by
  have hlengthOctets : (lengthOctets content.length).length ≤ 5 := by
    have hle : Octets.lengthOfNat content.length ≤ 4 :=
      Octets.lengthOfNat_le (by decide) (Nat.lt_trans h (by decide))
    rw [lengthOctets]
    split
    · simp
    · rw [List.length_cons, Octets.length_ofNat]
      omega
  rw [length_element]
  omega

theorem length_naturals_le {numbers : List Nat} {size : Nat} (hsize : size + 1 < maxContent)
    (h : ∀ n ∈ numbers, Octets.lengthOfNat n ≤ size) :
    (numbers.map natural).flatten.length ≤ numbers.length * (size + 7) := by
  induction numbers with
  | nil => exact Nat.zero_le _
  | cons n numbers ih =>
    have hrest := ih fun m hm => h m (List.mem_cons_of_mem _ hm)
    have hn := h n List.mem_cons_self
    have hcontent := length_naturalContent_le n
    have hnatural := length_element_le integerTag
      (Nat.lt_of_le_of_lt hcontent (Nat.lt_of_le_of_lt (Nat.succ_le_succ hn) hsize))
    rw [← natural_eq] at hnatural
    rw [List.map_cons, List.flatten_cons, List.length_append, List.length_cons, Nat.succ_mul]
    omega

end Acme.Der
