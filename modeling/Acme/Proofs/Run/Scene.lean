import Acme.Proofs.Client.Deed
import Acme.Proofs.Session.Responder

/-!
# Scenes

The scene of a turn tells what is served when it begins, the phase, and the latest request for an
authorization. It follows from the deeds before the turn, and what is served follows from their
events in the same way (`registry_foldl`).
-/

namespace Acme

/-! ## Scenes -/

/-- An authorization is asked for. -/
def Ask.isAuthorization : Ask → Bool
  | .signed _ (.newAuthorization _) => true
  | _ => false

def Phase.isChallenge : Phase → Bool
  | .challenge _ => true
  | _ => false

/-- A challenge is activated, or polled: what is not signed is a poll in these phases. -/
def Ask.isValidation (phase : Phase) : Ask → Bool
  | .signed _ (.challengeResponse _) => true
  | .plain _ => phase.isChallenge
  | _ => false

/-- What is served, the phase, and the latest request for an authorization. -/
structure Scene where
  registry : Registry := []
  phase : Phase := .init
  latest : Option Turn := none

namespace Scene

def next (σ : Scene) : Deed → Scene
  | .asked t => if t.ask.isAuthorization then { σ with latest := some t } else σ
  | .other (.entered phase) => { σ with phase := phase }
  | .other (.offered token authorization) =>
    { σ with registry := σ.registry.add token authorization }
  | .other (.withdrawn token) => { σ with registry := σ.registry.remove token }
  | .other _ => σ

/-- The scene after some deeds. -/
def after (ds : List Deed) : Scene :=
  ds.foldl next {}

end Scene

/-- What is registered follows from the events in the same way. -/
theorem registry_foldl (ds : List Deed) {σ : Scene} {e : Exposure}
    (h : e.registry = σ.registry) :
    ((ds.flatMap Deed.events).foldl Exposure.next e).registry
      = (ds.foldl Scene.next σ).registry := by
  induction ds generalizing σ e with
  | nil => exact h
  | cons d ds ih =>
    rw [List.flatMap_cons, List.foldl_append, List.foldl_cons]
    refine ih ?_
    cases d with
    | asked t =>
      have hkeep (xs : List Exchange) : (xs.map Exchange.event).foldl Exposure.next e = e := by
        induction xs with
        | nil => rfl
        | cons x xs ih => exact ih
      have hsame : (σ.next (.asked t)).registry = σ.registry := by
        rw [Scene.next]
        split <;> rfl
      rw [Deed.events, hkeep, hsame, h]
    | other event =>
      cases event with
      | offered token authorization => exact congrArg (Registry.add · token authorization) h
      | withdrawn token => exact congrArg (Registry.remove · token) h
      | _ => exact h

/-- Every turn among the deeds is such that `P` holds in its scene. -/
inductive Seen (P : Scene → Turn → Prop) : Scene → List Deed → Scene → Prop
  | nil (σ : Scene) : Seen P σ [] σ
  | asked {σ τ : Scene} {t : Turn} {ds : List Deed} (h : P σ t)
    (rest : Seen P (σ.next (.asked t)) ds τ) : Seen P σ (.asked t :: ds) τ
  | other {σ τ : Scene} {event : Event} {ds : List Deed}
    (rest : Seen P (σ.next (.other event)) ds τ) : Seen P σ (.other event :: ds) τ

namespace Seen

variable {P : Scene → Turn → Prop} {σ τ υ : Scene} {ds es : List Deed}

theorem append (h : Seen P σ ds τ) (h' : Seen P τ es υ) : Seen P σ (ds ++ es) υ := by
  induction h with
  | nil => exact h'
  | asked h _ ih => exact .asked h (ih h')
  | other _ ih => exact .other (ih h')

theorem eq_foldl (h : Seen P σ ds τ) : τ = ds.foldl Scene.next σ := by
  induction h with
  | nil => rfl
  | asked _ _ ih => exact ih
  | other _ ih => exact ih

/-- What is seen in the scene of one of the turns. -/
theorem seen_at {before after : List Deed} {t : Turn}
    (h : Seen P σ (before ++ .asked t :: after) τ) : P (before.foldl Scene.next σ) t := by
  induction before generalizing σ with
  | nil =>
    cases h with
    | asked h _ => exact h
  | cons d before ih =>
    cases h with
    | asked _ rest => exact ih rest
    | other rest => exact ih rest

end Seen

end Acme
