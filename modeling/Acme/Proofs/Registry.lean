import Acme.Challenge
import Acme.Registry
import Mathlib.Data.List.TakeWhile
import Mathlib.Data.Option.Basic

/-!
# Paths of challenges

The path of a challenge leads to its token, also as the target of a request, and whoever reads it
finds what is registered for the token.
-/

namespace Acme

/-! ## Paths -/

/-- A path below the challenge path, of one more segment: the token. -/
structure AsksFor (path token : String) : Prop where
  path : path = challengePath ++ token
  nonempty : token ≠ ""
  segment : '/' ∉ token.toList

theorem dropFirst?_append {α : Type} [DecidableEq α] (first rest : List α) :
    dropFirst? first (first ++ rest) = some rest := by
  induction first with
  | nil => rfl
  | cons a first ih => simpa [dropFirst?] using ih

theorem dropFirst?_eq_some_iff {α : Type} [DecidableEq α] {first whole rest : List α} :
    dropFirst? first whole = some rest ↔ whole = first ++ rest := by
  constructor
  · intro h
    induction first generalizing whole with
    | nil => simpa [dropFirst?] using h
    | cons a first ih =>
      cases whole with
      | nil => simp [dropFirst?] at h
      | cons b whole =>
        unfold dropFirst? at h
        by_cases hab : a = b
        · rw [if_pos hab] at h
          rw [hab, ih h, List.cons_append]
        · simp [hab] at h
  · rintro rfl
    exact dropFirst?_append first rest

theorem toList_challengeTarget (token : String) :
    (challengePath ++ token).toList = challengePath.toList ++ token.toList :=
  String.toList_append

theorem tokenOfPath?_eq_some_iff {path token : String} :
    tokenOfPath? path = some token ↔ AsksFor path token := by
  unfold tokenOfPath?
  constructor
  · intro h
    simp only [Option.bind_eq_bind, Option.bind_eq_some_iff, Option.pure_def] at h
    obtain ⟨cs, hcs, _, hguard, htoken⟩ := h
    rw [dropFirst?_eq_some_iff] at hcs
    by_cases hone : cs ≠ [] ∧ '/' ∉ cs
    · cases htoken
      refine ⟨?_, ?_, ?_⟩
      · rw [← String.ofList_toList (s := path), hcs, String.ofList_append, String.ofList_toList]
      · intro hempty
        exact hone.1 (by simpa using congrArg String.toList hempty)
      · simpa using hone.2
    · simp [guard, hone] at hguard
  · rintro ⟨rfl, hne, hslash⟩
    have hnonempty : token.toList ≠ [] := by simpa using hne
    rw [toList_challengeTarget, dropFirst?_append]
    simp [guard, hnonempty, hslash]

theorem AsksFor.unique {path token token' : String} (h : AsksFor path token)
    (h' : AsksFor path token') : token = token' := by
  have hsome := tokenOfPath?_eq_some_iff.2 h
  rw [tokenOfPath?_eq_some_iff.2 h'] at hsome
  exact (Option.some.inj hsome).symm

/-! ## Tokens in paths -/

variable {token : String}

theorem isToken_iff : isToken token = true ↔ token ≠ ""
    ∧ ∀ c ∈ token.toList, c.isAlphanum = true ∨ c = '-' ∨ c = '_' := by
  unfold isToken
  simp [Text.isAlphanumeric, or_assoc]

theorem mem_of_isToken (h : isToken token = true) {c : Char} (hc : c ∈ token.toList) :
    c.isAlphanum = true ∨ c = '-' ∨ c = '_' :=
  (isToken_iff.1 h).2 c hc

theorem ne_of_isToken (h : isToken token = true) {c : Char} (hc : c ∈ token.toList) :
    c ≠ '/' ∧ c ≠ '#' ∧ c ≠ '?' := by
  refine ⟨?_, ?_, ?_⟩
  all_goals
    rintro rfl
    exact absurd (mem_of_isToken h hc) (by decide)

theorem tokenOfPath?_challengePath (h : isToken token = true) :
    tokenOfPath? (challengePath ++ token) = some token := by
  have hslash : '/' ∉ token.toList := fun hc => (ne_of_isToken h hc).1 rfl
  exact tokenOfPath?_eq_some_iff.2 ⟨rfl, (isToken_iff.1 h).1, hslash⟩

theorem pathOfTarget_challengePath (h : isToken token = true) :
    pathOfTarget (challengePath ++ token) = challengePath ++ token := by
  have hkeep (p : Char → Bool) (hp : ∀ c ∈ challengePath.toList ++ token.toList, p c = true) :
      (challengePath.toList ++ token.toList).takeWhile p
        = challengePath.toList ++ token.toList :=
    List.takeWhile_eq_self_iff.2 hp
  have hplain (d : Char) (hd : d = '#' ∨ d = '?') :
      ∀ c ∈ challengePath.toList ++ token.toList, (c != d) = true := by
    intro c hc
    rw [bne_iff_ne]
    rcases List.mem_append.1 hc with hc | hc
    · rintro rfl
      rcases hd with rfl | rfl
      · exact absurd hc (by decide)
      · exact absurd hc (by decide)
    · obtain ⟨_, hhash, hmark⟩ := ne_of_isToken h hc
      rcases hd with rfl | rfl
      · exact hhash
      · exact hmark
  have hrelative : afterAuthority? (challengePath.toList ++ token.toList) = none := rfl
  have hpath : (challengePath.toList ++ token.toList).isEmpty = false := rfl
  rw [pathOfTarget, toList_challengeTarget, hkeep _ (hplain '#' (.inl rfl)), hrelative,
    Option.getD_none, hkeep _ (hplain '?' (.inr rfl)), hpath, ← toList_challengeTarget]
  exact String.ofList_toList

/-! ## What visitors find -/

def Http.Method.Reads (method : Http.Method) : Prop :=
  method = .get ∨ method = .head

/-- The answer to a visitor who finds a key authorization. -/
def found (authorization : String) : Response where
  status := 200
  contentType := some "text/html"
  body := authorization

section Respond

variable {registry : Registry} {method : Http.Method} {path token : String}

theorem respond_of_no_token (h : ∀ token, ¬ AsksFor path token) :
    registry.respond method path = { status := 404 } := by
  have hnone : tokenOfPath? path = none := by
    cases htoken : tokenOfPath? path with
    | none => rfl
    | some token => exact absurd (tokenOfPath?_eq_some_iff.1 htoken) (h token)
  rw [Registry.respond, hnone]

theorem respond_of_not_reads (hpath : AsksFor path token) (hmethod : ¬ method.Reads) :
    registry.respond method path = { status := 405 } := by
  unfold Http.Method.Reads at hmethod
  rw [not_or] at hmethod
  rw [Registry.respond, tokenOfPath?_eq_some_iff.2 hpath]
  exact if_pos hmethod

theorem respond_of_reads (hpath : AsksFor path token) (hmethod : method.Reads) :
    registry.respond method path =
      match registry.get? token with
      | some authorization => found authorization
      | none => { status := 404 } := by
  have hreads : ¬ (method ≠ .get ∧ method ≠ .head) := by
    rintro ⟨hget, hhead⟩
    exact hmethod.elim hget hhead
  rw [Registry.respond, tokenOfPath?_eq_some_iff.2 hpath]
  dsimp only
  rw [if_neg hreads]
  cases registry.get? token <;> rfl

theorem respond_of_get? (h : tokenOfPath? path = some token) : registry.respond .get path =
      match registry.get? token with
      | some authorization => found authorization
      | none => { status := 404 } :=
  respond_of_reads (tokenOfPath?_eq_some_iff.1 h) (.inl rfl)

end Respond

end Acme
