import Acme.Octets

/-!
# JSON documents

Reading JSON texts. A document keeps its strings and numbers as they are written, so that parts
nobody asks for need not be understood: a string may hold any octets from 0x20 on there, and a
number may be of any size. `text?` and `natural?` make sense of the parts that are asked for, and
`fields?` picks the fields of a record.

Main definitions: `Document`, `Document.parse?`, `decodeText?` and `Document.fields?`.
-/

namespace Acme.Json

/-- A well-formed JSON text. Strings hold what stands between their quotation marks. -/
inductive Document
  | null
  | bool (b : Bool)
  | number (written : Octets)
  | string (written : Octets)
  | array (items : List Document)
  | object (members : List (Octets × Document))

/-! ## Tokens -/

def isBlank (b : UInt8) : Bool :=
  b == 0x20 || b == 0x0A || b == 0x0D || b == 0x09

def skipBlanks (bytes : Octets) : Octets :=
  bytes.dropWhile isBlank

def isDigit (b : UInt8) : Bool :=
  0x30 ≤ b && b ≤ 0x39

/-- The value of a digit to base 16. -/
def hexValue? (b : UInt8) : Option Nat :=
  if 0x30 ≤ b ∧ b ≤ 0x39 then some (b.toNat - 0x30)
  else if 0x61 ≤ b ∧ b ≤ 0x66 then some (b.toNat - 0x57)
  else if 0x41 ≤ b ∧ b ≤ 0x46 then some (b.toNat - 0x37)
  else none

/-- The value of four digits to base 16. -/
def hexQuad? (a b c d : UInt8) : Option Nat := do
  return (← hexValue? a) * 4096 + (← hexValue? b) * 256 + (← hexValue? c) * 16 + (← hexValue? d)

/-- The character that a one-letter escape stands for. -/
def simpleEscape? (b : UInt8) : Option UInt8 :=
  if b = 0x22 ∨ b = 0x5C ∨ b = 0x2F then some b
  else if b = 0x62 then some 0x08
  else if b = 0x66 then some 0x0C
  else if b = 0x6E then some 0x0A
  else if b = 0x72 then some 0x0D
  else if b = 0x74 then some 0x09
  else none

/-- Reads a string after its opening quotation mark: what is written up to the closing one, and
what follows that. -/
def scanString? : Octets → Option (Octets × Octets)
  | [] => none
  | 0x22 :: rest => some ([], rest)
  | 0x5C :: 0x75 :: a :: b :: c :: d :: rest =>
    if (hexQuad? a b c d).isSome then
      (scanString? rest).map fun (written, after) =>
        (0x5C :: 0x75 :: a :: b :: c :: d :: written, after)
    else none
  | 0x5C :: e :: rest =>
    if (simpleEscape? e).isSome then
      (scanString? rest).map fun (written, after) => (0x5C :: e :: written, after)
    else none
  | b :: rest =>
    if b < 0x20 ∨ b = 0x5C then none
    else (scanString? rest).map fun (written, after) => (b :: written, after)

def scanDigits? (bytes : Octets) : Option (Octets × Octets) :=
  let digits := bytes.takeWhile isDigit
  if digits.isEmpty then none else some (digits, bytes.dropWhile isDigit)

/-- Reads digits of which the first is zero only if it is the only one. -/
def scanWhole? (bytes : Octets) : Option (Octets × Octets) :=
  match scanDigits? bytes with
  | some (0x30 :: _ :: _, _) => none
  | found => found

/-- Reads a point and digits, if there is a point. -/
def scanFraction? : Octets → Option (Octets × Octets)
  | 0x2E :: rest => (scanDigits? rest).map fun (digits, after) => (0x2E :: digits, after)
  | bytes => some ([], bytes)

def scanSign : Octets → Octets × Octets
  | 0x2B :: rest => ([0x2B], rest)
  | 0x2D :: rest => ([0x2D], rest)
  | bytes => ([], bytes)

/-- Reads an exponent, if there is one. -/
def scanExponent? : Octets → Option (Octets × Octets)
  | e :: rest =>
    if e = 0x65 ∨ e = 0x45 then
      (scanDigits? (scanSign rest).2).map fun (digits, after) =>
        (e :: (scanSign rest).1 ++ digits, after)
    else some ([], e :: rest)
  | [] => some ([], [])

def scanMinus : Octets → Octets × Octets
  | 0x2D :: rest => ([0x2D], rest)
  | bytes => ([], bytes)

def scanNumber? (bytes : Octets) : Option (Octets × Octets) := do
  let (whole, rest) ← scanWhole? (scanMinus bytes).2
  let (fraction, rest) ← scanFraction? rest
  let (exponent, rest) ← scanExponent? rest
  return ((scanMinus bytes).1 ++ whole ++ fraction ++ exponent, rest)

/-- Reads one of the three names and numbers. -/
def scanScalar? (bytes : Octets) : Option (Document × Octets) :=
  match bytes with
  | 0x6E :: 0x75 :: 0x6C :: 0x6C :: rest => some (.null, rest)
  | 0x74 :: 0x72 :: 0x75 :: 0x65 :: rest => some (.bool true, rest)
  | 0x66 :: 0x61 :: 0x6C :: 0x73 :: 0x65 :: rest => some (.bool false, rest)
  | _ => (scanNumber? bytes).map fun (written, rest) => (.number written, rest)

/-- Reads a member name in quotation marks and the colon after it. -/
def scanName? (bytes : Octets) : Option (Octets × Octets) :=
  match skipBlanks bytes with
  | 0x22 :: rest => do
    let (name, rest) ← scanString? rest
    match skipBlanks rest with
    | 0x3A :: rest => some (name, rest)
    | _ => none
  | _ => none

/-! ## What a token leaves is shorter -/

theorem length_skipBlanks (bytes : Octets) : (skipBlanks bytes).length ≤ bytes.length :=
  (List.dropWhile_sublist _).length_le

theorem length_scanString? {bytes written rest : Octets}
    (h : scanString? bytes = some (written, rest)) : rest.length < bytes.length := by
  fun_induction scanString? bytes generalizing written rest with
  | case1 => simp at h
  | case2 => simp_all
  | case3 a b c d tail _ ih =>
    obtain ⟨⟨w, r⟩, hr, he⟩ := Option.map_eq_some_iff.1 h
    cases he
    have := ih hr
    simp only [List.length_cons]; omega
  | case4 => simp at h
  | case5 e tail _ _ ih =>
    obtain ⟨⟨w, r⟩, hr, he⟩ := Option.map_eq_some_iff.1 h
    cases he
    have := ih hr
    simp only [List.length_cons]; omega
  | case6 => simp at h
  | case7 => simp at h
  | case8 b tail _ _ _ _ ih =>
    obtain ⟨⟨w, r⟩, hr, he⟩ := Option.map_eq_some_iff.1 h
    cases he
    have := ih hr
    simp only [List.length_cons]; omega

theorem length_scanDigits? {bytes digits rest : Octets}
    (h : scanDigits? bytes = some (digits, rest)) : rest.length < bytes.length := by
  unfold scanDigits? at h
  simp only [] at h
  split at h
  · simp at h
  · rename_i hne
    cases h
    have hsum := congrArg List.length (List.takeWhile_append_dropWhile (p := isDigit) (l := bytes))
    rw [List.length_append] at hsum
    have : 0 < (bytes.takeWhile isDigit).length := by
      cases hd : bytes.takeWhile isDigit <;> simp_all
    omega

theorem length_scanWhole? {bytes digits rest : Octets}
    (h : scanWhole? bytes = some (digits, rest)) : rest.length < bytes.length := by
  unfold scanWhole? at h
  split at h
  · simp at h
  · exact length_scanDigits? h

theorem length_scanFraction? {bytes written rest : Octets}
    (h : scanFraction? bytes = some (written, rest)) : rest.length ≤ bytes.length := by
  unfold scanFraction? at h
  split at h
  · obtain ⟨⟨w, r⟩, hr, he⟩ := Option.map_eq_some_iff.1 h
    cases he
    have := length_scanDigits? hr
    simp only [List.length_cons]; omega
  · cases h; omega

theorem length_scanSign (bytes : Octets) : (scanSign bytes).2.length ≤ bytes.length := by
  unfold scanSign
  split <;> simp

theorem length_scanMinus (bytes : Octets) : (scanMinus bytes).2.length ≤ bytes.length := by
  unfold scanMinus
  split <;> simp

theorem length_scanExponent? {bytes written rest : Octets}
    (h : scanExponent? bytes = some (written, rest)) : rest.length ≤ bytes.length := by
  unfold scanExponent? at h
  split at h
  · rename_i e tail
    split at h
    · obtain ⟨⟨w, r⟩, hr, he⟩ := Option.map_eq_some_iff.1 h
      cases he
      have h1 := length_scanDigits? hr
      have h2 := length_scanSign tail
      simp only [List.length_cons]; omega
    · cases h; omega
  · cases h; omega

theorem length_scanNumber? {bytes written rest : Octets}
    (h : scanNumber? bytes = some (written, rest)) : rest.length < bytes.length := by
  unfold scanNumber? at h
  simp only [Option.bind_eq_bind, Option.bind_eq_some_iff, Prod.exists] at h
  obtain ⟨w, r, hw, f, r', hf, e, r'', he, hr⟩ := h
  cases hr
  have h1 := length_scanWhole? hw
  have h2 := length_scanFraction? hf
  have h3 := length_scanExponent? he
  have h4 := length_scanMinus bytes
  omega

theorem length_scanScalar? {bytes rest : Octets} {v : Document}
    (h : scanScalar? bytes = some (v, rest)) : rest.length < bytes.length := by
  unfold scanScalar? at h
  split at h
  · cases h; simp only [List.length_cons]; omega
  · cases h; simp only [List.length_cons]; omega
  · cases h; simp only [List.length_cons]; omega
  · obtain ⟨⟨w, r⟩, hr, he⟩ := Option.map_eq_some_iff.1 h
    cases he
    exact length_scanNumber? hr

theorem length_scanName? {bytes name rest : Octets}
    (h : scanName? bytes = some (name, rest)) : rest.length < bytes.length := by
  unfold scanName? at h
  split at h
  · rename_i tail hb
    simp only [Option.bind_eq_bind, Option.bind_eq_some_iff, Prod.exists] at h
    obtain ⟨n, r, hn, hm⟩ := h
    split at hm
    · rename_i after ha
      cases hm
      have h1 := length_scanString? hn
      have h2 := length_skipBlanks bytes
      have h3 := length_skipBlanks r
      rw [hb] at h2
      rw [ha] at h3
      simp only [List.length_cons] at *
      omega
    · simp at hm
  · simp at h

/-! ## Documents -/

/-- An array or object that is being read: the finished items, newest first, and for an object the
name that the next value belongs to. -/
inductive Frame
  | inArray (done : List Document)
  | inObject (done : List (Octets × Document)) (name : Octets)

mutual

/-- Reads a value inside the open arrays and objects of `stack`, and finishes those. -/
def readValue? (stack : List Frame) (bytes : Octets) : Option (Document × Octets) :=
  match _hb : skipBlanks bytes with
  | [] => none
  | 0x22 :: rest =>
    match _hs : scanString? rest with
    | none => none
    | some (written, rest) => finish? stack (.string written) rest
  | 0x5B :: rest =>
    match _hr : skipBlanks rest with
    | 0x5D :: rest => finish? stack (.array []) rest
    | _ => readValue? (.inArray [] :: stack) rest
  | 0x7B :: rest =>
    match _hr : skipBlanks rest with
    | 0x7D :: rest => finish? stack (.object []) rest
    | _ =>
      match _hn : scanName? rest with
      | none => none
      | some (name, rest) => readValue? (.inObject [] name :: stack) rest
  | b :: rest =>
    match _hs : scanScalar? (b :: rest) with
    | none => none
    | some (v, rest) => finish? stack v rest
termination_by bytes.length
decreasing_by
  all_goals have h1 := length_skipBlanks bytes
  · have h2 := length_scanString? _hs
    rw [_hb] at h1; simp only [List.length_cons] at *; omega
  · rename_i tail
    have h2 := length_skipBlanks tail
    rw [_hb] at h1; rw [_hr] at h2; simp only [List.length_cons] at *; omega
  · rw [_hb] at h1; simp only [List.length_cons] at *; omega
  · rename_i tail
    have h2 := length_skipBlanks tail
    rw [_hb] at h1; rw [_hr] at h2; simp only [List.length_cons] at *; omega
  · have h2 := length_scanName? _hn
    rw [_hb] at h1; simp only [List.length_cons] at *; omega
  · have h2 := length_scanScalar? _hs
    rw [_hb] at h1; simp only [List.length_cons] at *; omega

/-- Puts a value that was read into the innermost open array or object and goes on. -/
def finish? (stack : List Frame) (v : Document) (bytes : Octets) : Option (Document × Octets) :=
  match stack with
  | [] => some (v, bytes)
  | .inArray done :: stack =>
    match _hb : skipBlanks bytes with
    | 0x2C :: rest => readValue? (.inArray (v :: done) :: stack) rest
    | 0x5D :: rest => finish? stack (.array (v :: done).reverse) rest
    | _ => none
  | .inObject done name :: stack =>
    match _hb : skipBlanks bytes with
    | 0x2C :: rest =>
      match _hn : scanName? rest with
      | none => none
      | some (next, rest) => readValue? (.inObject ((name, v) :: done) next :: stack) rest
    | 0x7D :: rest => finish? stack (.object ((name, v) :: done).reverse) rest
    | _ => none
termination_by bytes.length
decreasing_by
  all_goals have h1 := length_skipBlanks bytes
  · rw [_hb] at h1; simp only [List.length_cons] at *; omega
  · rw [_hb] at h1; simp only [List.length_cons] at *; omega
  · have h2 := length_scanName? _hn
    rw [_hb] at h1; simp only [List.length_cons] at *; omega
  · rw [_hb] at h1; simp only [List.length_cons] at *; omega

end

/-- The document that a text consists of; only blanks may stand around it. -/
def Document.parse? (bytes : Octets) : Option Document :=
  match readValue? [] bytes with
  | some (v, rest) => if (skipBlanks rest).isEmpty then some v else none
  | none => none

/-! ## Making sense of a part -/

def utf8 (n : Nat) : Octets :=
  Octets.ofChars [Char.ofNat n]

/-- Replaces the escapes of a string by the UTF-8 octets of what they stand for; a surrogate must
be one of a pair. -/
def unescape? : Octets → Option Octets
  | [] => some []
  | 0x5C :: 0x75 :: a :: b :: c :: d :: rest => do
    let n ← hexQuad? a b c d
    if 0xD800 ≤ n ∧ n < 0xDC00 then
      match rest with
      | 0x5C :: 0x75 :: a :: b :: c :: d :: rest => do
        let m ← hexQuad? a b c d
        guard (0xDC00 ≤ m ∧ m < 0xE000)
        return utf8 (0x10000 + (n - 0xD800) * 0x400 + (m - 0xDC00)) ++ (← unescape? rest)
      | _ => none
    else if 0xDC00 ≤ n ∧ n < 0xE000 then none
    else return utf8 n ++ (← unescape? rest)
  | 0x5C :: e :: rest => do
    return (← simpleEscape? e) :: (← unescape? rest)
  | b :: rest => do
    return b :: (← unescape? rest)

def decodeText? (written : Octets) : Option String := do
  Octets.text? (← unescape? written)

namespace Document

def text? : Document → Option String
  | .string written => decodeText? written
  | _ => none

def natural? : Document → Option Nat
  | .number written =>
    if written.all isDigit then
      some (written.foldl (fun n b => n * 10 + (b.toNat - 0x30)) 0)
    else none
  | _ => none

/-- Reads a part that may be missing or null. -/
def optional? {α : Type} (read : Document → Option α) : Option Document → Option (Option α)
  | none => some none
  | some .null => some none
  | some v => (read v).map some

/-- Reads a part that may be missing, and then is `default`. -/
def withDefault? {α : Type} (default : α) (read : Document → Option α) :
    Option Document → Option α
  | none => some default
  | some v => read v

/-- The value of the only member with this name, if there is one; two of them are refused. -/
def pick? (members : List (String × Document)) (name : String) : Option (Option Document) :=
  match members.filter fun m => m.1 = name with
  | [] => some none
  | [(_, v)] => some (some v)
  | _ => none

/-- The fields of a record with these names. A record is an object, whose other members do not
matter as long as their names are text, or an array of the fields from the first one on. -/
def fields? (names : List String) : Document → Option (List (Option Document))
  | .object members => do
    let named ← members.mapM fun (name, v) => (decodeText? name).map fun n => (n, v)
    names.mapM (pick? named)
  | .array items =>
    if items.length ≤ names.length then
      some (items.map some ++ List.replicate (names.length - items.length) none)
    else none
  | _ => none

end Document

end Acme.Json
