import Acme.Proofs.Json.Numbers
import Acme.Proofs.Json.Strings

/-!
# Reading what was written

The text of a JSON value is read as the document `Value.document`, which has the same shape and
keeps every string as it is written (`parse?_toOctets`). So a value can be got back from its text,
field by field.
-/

namespace Acme.Json

open Octets

mutual

/-- The document that the text of a value is read as. -/
def Value.document : Value → Document
  | .null => .null
  | .bool b => .bool b
  | .integer n => .number (ofChars (toString n).toList)
  | .text s => .string (written s)
  | .array items => .array (documentItems items)
  | .object members => .object (documentMembers members)

/-- The documents that the texts of values are read as. -/
def documentItems : List Value → List Document
  | [] => []
  | v :: rest => v.document :: documentItems rest

/-- The members that the texts of members are read as. -/
def documentMembers : List (String × Value) → List (Octets × Document)
  | [] => []
  | (name, v) :: rest => (written name, v.document) :: documentMembers rest

end

/-! ## One step of the reader -/

theorem skipBlanks_of_not_blank {b : UInt8} (h : isBlank b = false) (rest : Octets) :
    skipBlanks (b :: rest) = b :: rest := by
  rw [skipBlanks, List.dropWhile_cons, h]
  rfl

section
variable {stack : List Frame} {bytes rest after name w : Octets} {v : Document}

theorem readValue?_string (hb : skipBlanks bytes = 0x22 :: rest)
    (hs : scanString? rest = some (w, after)) :
    readValue? stack bytes = finish? stack (.string w) after := by
  rw [readValue?]
  split <;> simp_all
  split <;> simp_all

theorem readValue?_emptyArray (hb : skipBlanks bytes = 0x5B :: rest)
    (hr : skipBlanks rest = 0x5D :: after) :
    readValue? stack bytes = finish? stack (.array []) after := by
  rw [readValue?]
  split <;> simp_all
  split <;> simp_all

theorem readValue?_array (hb : skipBlanks bytes = 0x5B :: rest)
    (hr : ∀ after, skipBlanks rest ≠ 0x5D :: after) :
    readValue? stack bytes = readValue? (.inArray [] :: stack) rest := by
  rw [readValue?]
  split <;> simp_all

theorem readValue?_emptyObject (hb : skipBlanks bytes = 0x7B :: rest)
    (hr : skipBlanks rest = 0x7D :: after) :
    readValue? stack bytes = finish? stack (.object []) after := by
  rw [readValue?]
  split <;> simp_all
  split <;> simp_all

theorem readValue?_object (hb : skipBlanks bytes = 0x7B :: rest)
    (hr : ∀ after, skipBlanks rest ≠ 0x7D :: after) (hn : scanName? rest = some (name, after)) :
    readValue? stack bytes = readValue? (.inObject [] name :: stack) after := by
  rw [readValue?]
  split <;> simp_all
  split <;> simp_all

theorem readValue?_scalar {b : UInt8} (hb : skipBlanks bytes = b :: rest)
    (h : b ≠ 0x22 ∧ b ≠ 0x5B ∧ b ≠ 0x7B) (hs : scanScalar? (b :: rest) = some (v, after)) :
    readValue? stack bytes = finish? stack v after := by
  rw [readValue?]
  split <;> simp_all
  split <;> simp_all

theorem finish?_inArray_comma {done : List Document} (hb : skipBlanks bytes = 0x2C :: rest) :
    finish? (.inArray done :: stack) v bytes = readValue? (.inArray (v :: done) :: stack) rest := by
  rw [finish?]
  split <;> simp_all

theorem finish?_inArray_bracket {done : List Document} (hb : skipBlanks bytes = 0x5D :: rest) :
    finish? (.inArray done :: stack) v bytes = finish? stack (.array (v :: done).reverse) rest := by
  rw [finish?]
  split <;> simp_all

theorem finish?_inObject_comma {done : List (Octets × Document)} {next : Octets}
    (hb : skipBlanks bytes = 0x2C :: rest) (hn : scanName? rest = some (next, after)) :
    finish? (.inObject done name :: stack) v bytes
      = readValue? (.inObject ((name, v) :: done) next :: stack) after := by
  rw [finish?]
  split <;> simp_all
  split <;> simp_all

theorem finish?_inObject_brace {done : List (Octets × Document)}
    (hb : skipBlanks bytes = 0x7D :: rest) :
    finish? (.inObject done name :: stack) v bytes
      = finish? stack (.object ((name, v) :: done).reverse) rest := by
  rw [finish?]
  split <;> simp_all

end

/-! ## Written values -/

theorem ofChars_cons_ascii {c : Char} (h : c.toNat < 0x80) (cs : List Char) :
    ofChars (c :: cs) = UInt8.ofNat c.toNat :: ofChars cs := by
  rw [ofChars_cons, ofChars_ascii h, List.singleton_append]

theorem ofChars_renderText (s : String) : ofChars (renderText s) = 0x22 :: (written s ++ [0x22]) := by
  rw [renderText, List.cons_append, ofChars_cons_ascii (by decide), ofChars_append, written]
  rfl

theorem ofChars_renderArray (items : List Value) :
    ofChars (Value.array items).render = 0x5B :: (ofChars (renderItems items) ++ [0x5D]) := by
  rw [Value.render, List.cons_append, ofChars_cons_ascii (by decide), ofChars_append]
  rfl

theorem ofChars_renderObject (members : List (String × Value)) :
    ofChars (Value.object members).render = 0x7B :: (ofChars (renderMembers members) ++ [0x7D]) := by
  rw [Value.render, List.cons_append, ofChars_cons_ascii (by decide), ofChars_append]
  rfl

theorem ofChars_renderItems_cons (v w : Value) (rest : List Value) :
    ofChars (renderItems (v :: w :: rest))
      = ofChars v.render ++ 0x2C :: ofChars (renderItems (w :: rest)) := by
  rw [renderItems, ofChars_append, ofChars_cons_ascii (by decide)]
  rfl

theorem ofChars_renderMembers_one (name : String) (v : Value) :
    ofChars (renderMembers [(name, v)])
      = 0x22 :: (written name ++ 0x22 :: 0x3A :: ofChars v.render) := by
  rw [renderMembers, ofChars_append, ofChars_renderText, ofChars_cons_ascii (by decide),
    List.cons_append, List.append_assoc]
  rfl

theorem ofChars_renderMembers_cons (name : String) (v : Value) (m : String × Value)
    (rest : List (String × Value)) :
    ofChars (renderMembers ((name, v) :: m :: rest))
      = 0x22 :: (written name ++ 0x22 :: 0x3A
          :: (ofChars v.render ++ 0x2C :: ofChars (renderMembers (m :: rest)))) := by
  rw [renderMembers, List.append_assoc, ofChars_append, ofChars_renderText, List.cons_append,
    List.cons_append, ofChars_cons_ascii (by decide), ofChars_append, ofChars_cons_ascii (by decide),
    List.append_assoc]
  rfl

theorem ne_of_numeral {b : UInt8} (h : b = 0x2D ∨ isDigit b = true) {k : UInt8} (hm : k ≠ 0x2D)
    (hd : isDigit k = false) : b ≠ k := by
  rintro rfl
  rcases h with h | h
  · exact hm h
  · rw [hd] at h
    exact Bool.noConfusion h

theorem isBlank_numeral {b : UInt8} (h : b = 0x2D ∨ isDigit b = true) : isBlank b = false := by
  have h1 : b ≠ 0x20 := ne_of_numeral h (by decide) (by decide)
  have h2 : b ≠ 0x0A := ne_of_numeral h (by decide) (by decide)
  have h3 : b ≠ 0x0D := ne_of_numeral h (by decide) (by decide)
  have h4 : b ≠ 0x09 := ne_of_numeral h (by decide) (by decide)
  simp [isBlank, h1, h2, h3, h4]

/-- A value begins with an octet that is neither a blank nor a closing bracket. -/
theorem ofChars_render_head (v : Value) :
    ∃ b tail, ofChars v.render = b :: tail ∧ isBlank b = false ∧ b ≠ 0x5D := by
  cases v with
  | null => exact ⟨0x6E, _, by rw [Value.render, ofChars_cons_ascii (by decide)]; rfl, by decide⟩
  | bool b =>
    cases b with
    | true => exact ⟨0x74, _, by rw [Value.render, ofChars_cons_ascii (by decide)]; rfl, by decide⟩
    | false => exact ⟨0x66, _, by rw [Value.render, ofChars_cons_ascii (by decide)]; rfl, by decide⟩
  | integer n =>
    obtain ⟨b, tail, he, hb, _⟩ := scanScalar?_integer n ends_nil
    exact ⟨b, tail, by rw [Value.render, ← he, List.append_nil], isBlank_numeral hb,
      ne_of_numeral hb (by decide) (by decide)⟩
  | text s => exact ⟨0x22, _, ofChars_renderText s, by decide⟩
  | array items => exact ⟨0x5B, _, ofChars_renderArray items, by decide⟩
  | object members => exact ⟨0x7B, _, ofChars_renderObject members, by decide⟩

theorem ofChars_renderItems_head (v : Value) (items : List Value) (rest after : Octets) :
    skipBlanks (ofChars (renderItems (v :: items)) ++ rest) ≠ 0x5D :: after := by
  obtain ⟨b, tail, he, hb, hne⟩ := ofChars_render_head v
  have hitems : ∃ more, ofChars (renderItems (v :: items)) = b :: more := by
    cases items with
    | nil => exact ⟨tail, he⟩
    | cons w items => exact ⟨_, by rw [ofChars_renderItems_cons, he, List.cons_append]⟩
  obtain ⟨more, hmore⟩ := hitems
  rw [hmore, List.cons_append, skipBlanks_of_not_blank hb]
  exact fun h => hne (List.cons.inj h).1

theorem scanName?_written (name : String) (rest : Octets) :
    scanName? (0x22 :: (written name ++ 0x22 :: 0x3A :: rest)) = some (written name, rest) := by
  rw [scanName?, skipBlanks_of_not_blank (by decide)]
  simp [scanString?_written, skipBlanks_of_not_blank (show isBlank 0x3A = false by decide)]

/-! ## Reading them -/

mutual

theorem readValue?_render (v : Value) (stack : List Frame) {rest : Octets} (h : Ends rest) :
    readValue? stack (ofChars v.render ++ rest) = finish? stack v.document rest := by
  match v with
  | .null =>
    exact readValue?_scalar (b := 0x6E) (skipBlanks_of_not_blank (by decide) _) (by decide) rfl
  | .bool true =>
    exact readValue?_scalar (b := 0x74) (skipBlanks_of_not_blank (by decide) _) (by decide) rfl
  | .bool false =>
    exact readValue?_scalar (b := 0x66) (skipBlanks_of_not_blank (by decide) _) (by decide) rfl
  | .integer n =>
    obtain ⟨b, tail, he, hb, hs⟩ := scanScalar?_integer n h
    rw [Value.render, he]
    have hne : ∀ k, k ≠ 0x2D → isDigit k = false → b ≠ k := fun k => ne_of_numeral hb
    exact readValue?_scalar (skipBlanks_of_not_blank (isBlank_numeral hb) _)
      ⟨hne _ (by decide) (by decide), hne _ (by decide) (by decide), hne _ (by decide) (by decide)⟩ hs
  | .text s =>
    rw [Value.render, ofChars_renderText, List.cons_append, List.append_assoc]
    exact readValue?_string (skipBlanks_of_not_blank (by decide) _) (scanString?_written s rest)
  | .array [] =>
    exact readValue?_emptyArray (skipBlanks_of_not_blank (by decide) _)
      (skipBlanks_of_not_blank (by decide) _)
  | .array (v :: items) =>
    rw [ofChars_renderArray, List.cons_append, List.append_assoc,
      readValue?_array (skipBlanks_of_not_blank (by decide) _)
        fun after => ofChars_renderItems_head v items _ after]
    exact readValue?_renderItems v items stack [] rest
  | .object [] =>
    exact readValue?_emptyObject (skipBlanks_of_not_blank (by decide) _)
      (skipBlanks_of_not_blank (by decide) _)
  | .object ((name, v) :: members) =>
    obtain ⟨tail, hn, hr⟩ := readValue?_renderMembers name v members stack [] rest
    rw [ofChars_renderObject, List.cons_append, List.append_assoc]
    have hne : ∀ after, skipBlanks (ofChars (renderMembers ((name, v) :: members)) ++ ([0x7D] ++ rest))
        ≠ 0x7D :: after := by
      intro after he
      cases members with
      | nil =>
        rw [ofChars_renderMembers_one, List.cons_append, skipBlanks_of_not_blank (by decide)] at he
        exact absurd (List.cons.inj he).1 (by decide)
      | cons m members =>
        rw [ofChars_renderMembers_cons, List.cons_append, skipBlanks_of_not_blank (by decide)] at he
        exact absurd (List.cons.inj he).1 (by decide)
    rw [readValue?_object (skipBlanks_of_not_blank (by decide) _) hne hn]
    exact hr
termination_by sizeOf v

theorem readValue?_renderItems (v : Value) (items : List Value) (stack : List Frame)
    (done : List Document) (rest : Octets) :
    readValue? (.inArray done :: stack) (ofChars (renderItems (v :: items)) ++ 0x5D :: rest)
      = finish? stack (.array (done.reverse ++ documentItems (v :: items))) rest := by
  match items with
  | [] =>
    rw [renderItems, readValue?_render v _ (ends_bracket rest),
      finish?_inArray_bracket (skipBlanks_of_not_blank (by decide) _), List.reverse_cons]
    rfl
  | w :: items =>
    rw [ofChars_renderItems_cons, List.append_assoc, List.cons_append,
      readValue?_render v _ (ends_comma _),
      finish?_inArray_comma (skipBlanks_of_not_blank (by decide) _),
      readValue?_renderItems w items stack (v.document :: done) rest, List.reverse_cons,
      List.append_assoc]
    rfl
termination_by sizeOf (v :: items)

theorem readValue?_renderMembers (name : String) (v : Value) (members : List (String × Value))
    (stack : List Frame) (done : List (Octets × Document)) (rest : Octets) :
    ∃ tail, scanName? (ofChars (renderMembers ((name, v) :: members)) ++ 0x7D :: rest)
        = some (written name, tail)
      ∧ readValue? (.inObject done (written name) :: stack) tail
        = finish? stack (.object (done.reverse ++ documentMembers ((name, v) :: members))) rest := by
  match members with
  | [] =>
    refine ⟨ofChars v.render ++ 0x7D :: rest, ?_, ?_⟩
    · rw [ofChars_renderMembers_one, List.cons_append, List.append_assoc]
      exact scanName?_written name _
    · rw [readValue?_render v _ (ends_brace rest),
        finish?_inObject_brace (skipBlanks_of_not_blank (by decide) _), List.reverse_cons]
      rfl
  | (next, w) :: members =>
    obtain ⟨tail, hn, hr⟩ :=
      readValue?_renderMembers next w members stack ((written name, v.document) :: done) rest
    refine ⟨ofChars v.render
      ++ 0x2C :: (ofChars (renderMembers ((next, w) :: members)) ++ 0x7D :: rest), ?_, ?_⟩
    · rw [ofChars_renderMembers_cons, List.cons_append, List.append_assoc, List.cons_append,
        List.cons_append, List.append_assoc, List.cons_append]
      exact scanName?_written name _
    · rw [readValue?_render v _ (ends_comma _),
        finish?_inObject_comma (skipBlanks_of_not_blank (by decide) _) hn, hr, List.reverse_cons,
        List.append_assoc]
      rfl
termination_by sizeOf ((name, v) :: members)

end

theorem parse?_toOctets (v : Value) : Document.parse? v.toOctets = some v.document := by
  have h := readValue?_render v [] ends_nil
  rw [List.append_nil] at h
  rw [Document.parse?, Value.toOctets, h, finish?]
  rfl

/-! ## Records -/

theorem fields?_of_scanScalar? {names : List String} {bytes rest : Octets} {v : Document}
    (h : scanScalar? bytes = some (v, rest)) : v.fields? names = none := by
  rw [scanScalar?.eq_def] at h
  split at h
  · cases h
    rfl
  · cases h
    rfl
  · cases h
    rfl
  · obtain ⟨_, _, he⟩ := Option.map_eq_some_iff.1 h
    cases he
    rfl

/-- Only a text in braces or brackets is read as a record. -/
theorem skipBlanks_of_fields? {names : List String} {bytes : Octets} {v : Document}
    (hparse : Document.parse? bytes = some v) (hfields : v.fields? names ≠ none) :
    ∃ rest, skipBlanks bytes = 0x7B :: rest ∨ skipBlanks bytes = 0x5B :: rest := by
  have hread : ∃ rest, readValue? [] bytes = some (v, rest) := by
    rw [Document.parse?] at hparse
    split at hparse
    · rename_i rest hread
      split at hparse
      · cases hparse
        exact ⟨rest, hread⟩
      · cases hparse
    · cases hparse
  obtain ⟨after, hread⟩ := hread
  rw [readValue?] at hread
  split at hread
  · cases hread
  · split at hread
    · cases hread
    · rw [finish?] at hread
      cases hread
      exact absurd rfl hfields
  · exact ⟨_, .inr ‹_›⟩
  · exact ⟨_, .inl ‹_›⟩
  · split at hread
    · cases hread
    · rename_i hscan
      rw [finish?] at hread
      cases hread
      exact absurd (fields?_of_scanScalar? hscan) hfields

/-! ## Their parts -/

@[simp]
theorem text?_document (s : String) : (Value.text s).document.text? = some s := by
  rw [Value.document, Document.text?, decodeText?_written]

theorem mapM_decodeText? (members : List (String × Value)) :
    ((documentMembers members).mapM fun m => (decodeText? m.1).map fun n => (n, m.2))
      = some (members.map fun m => (m.1, m.2.document)) := by
  induction members with
  | nil => rfl
  | cons m members ih =>
    rw [documentMembers, List.mapM_cons, decodeText?_written, ih]
    rfl

/-- The fields of an object are picked by the names of its members. -/
theorem fields?_document (names : List String) (members : List (String × Value)) :
    (Value.object members).document.fields? names
      = names.mapM (Document.pick? (members.map fun m => (m.1, m.2.document))) := by
  rw [Value.document, Document.fields?]
  exact congrArg (fun o => o.bind fun named => names.mapM (Document.pick? named))
    (mapM_decodeText? members)

end Acme.Json
