import Acme.Proofs.Client.Deed
import Acme.Proofs.Session.Steady

/-!
# What visitors of the responder see

What the responder answers depends on what is registered and on whether it listens (`Exposure`), and
both follow from the events before. Every session answers its visitors in that way, and offers a
challenge only when it listens (`run_attends`).
-/

namespace Acme

/-! ## Exposures -/

/-- What visitors can find. -/
structure Exposure where
  registry : Registry := []
  listening : Bool := false

namespace Exposure

def next (e : Exposure) : Event → Exposure
  | .listened _ => { e with listening := true }
  | .offered token authorization => { e with registry := e.registry.add token authorization }
  | .withdrawn token => { e with registry := e.registry.remove token }
  | _ => e

/-- The answer to a visitor; there is none when nobody listens or the responder is out of reach. -/
def answer (e : Exposure) (reachable : Bool) (visit : Visit) : Option Response :=
  if e.listening && reachable then
    some (e.registry.respond visit.method (pathOfTarget visit.target))
  else none

/-- A challenge is registered only when the responder listens. -/
def IsSound (e : Exposure) : Prop :=
  e.registry ≠ [] → e.listening = true

theorem next_of_isAside {event : Event} (h : event.IsAside) (e : Exposure) : e.next event = e := by
  cases event with
  | exchanged => rfl
  | listened => exact h.elim
  | offered => exact h.elim
  | withdrawn => exact h.elim
  | _ => rfl

end Exposure

/-- The event agrees with what visitors can find. -/
def Event.Fits (reachable : Bool) (e : Exposure) : Event → Prop
  | .exchanged _ visits _ => ∀ v ∈ visits, v.2 = e.answer reachable v.1
  | .offered .. => e.listening = true
  | _ => True

/-- Events lead from what visitors can find to what they can find afterwards. -/
inductive Attended (reachable : Bool) : Exposure → List Event → Exposure → Prop
  | nil (e : Exposure) : Attended reachable e [] e
  | cons {e e' : Exposure} {event : Event} {events : List Event} (fits : event.Fits reachable e)
    (rest : Attended reachable (e.next event) events e') : Attended reachable e (event :: events) e'

namespace Attended

variable {reachable : Bool} {e e' e'' : Exposure} {event : Event} {events more : List Event}

theorem single (h : event.Fits reachable e) : Attended reachable e [event] (e.next event) :=
  .cons h (.nil _)

theorem append (h : Attended reachable e events e') (h' : Attended reachable e' more e'') :
    Attended reachable e (events ++ more) e'' := by
  induction h with
  | nil => exact h'
  | cons fits _ ih => exact .cons fits (ih h')

theorem split (h : Attended reachable e (events ++ more) e'') :
    ∃ e', Attended reachable e events e' ∧ Attended reachable e' more e'' := by
  induction events generalizing e with
  | nil => exact ⟨e, .nil e, h⟩
  | cons event events ih =>
    cases h with
    | cons fits rest =>
      obtain ⟨e', hevents, hmore⟩ := ih rest
      exact ⟨e', .cons fits hevents, hmore⟩

/-- What visitors can find is a function of the events. -/
theorem eq_foldl (h : Attended reachable e events e') : e' = events.foldl Exposure.next e := by
  induction h with
  | nil => rfl
  | cons _ _ ih => exact ih

theorem isSound (h : Attended reachable e events e') (he : e.IsSound) : e'.IsSound := by
  induction h with
  | nil => exact he
  | @cons e _ event _ fits _ ih =>
    refine ih ?_
    intro hne
    cases event with
    | listened => rfl
    | offered token authorization => exact fits
    | withdrawn token =>
      refine he ?_
      intro hnil
      apply hne
      show e.registry.remove token = []
      rw [hnil]
      rfl
    | _ => exact he hne

/-- The log does not matter. -/
theorem filter (h : Attended reachable e events e') :
    Attended reachable e (events.filter Event.isDone) e' := by
  induction h with
  | nil => exact .nil _
  | @cons e _ event _ fits _ ih =>
    cases event with
    | logged entry => exact ih
    | _ => exact .cons fits ih

/-- Where events change nothing for visitors, all visitors find the same. -/
theorem fits_of_still (h : Attended reachable e events e')
    (hstill : ∀ event ∈ events, e.next event = e) :
    ∀ event ∈ events, event.Fits reachable e := by
  induction h with
  | nil => exact fun event hevent => absurd hevent List.not_mem_nil
  | @cons e _ event events fits _ ih =>
    have hsame : e.next event = e := hstill event List.mem_cons_self
    rw [hsame] at ih
    intro other hother
    rcases List.mem_cons.1 hother with rfl | hother
    · exact fits
    · exact ih (fun event hevent => hstill event (List.mem_cons_of_mem _ hevent)) other hother

end Attended

/-! ## Sessions -/

namespace Session

def exposure (s : Session) : Exposure :=
  ⟨s.registry, s.listening⟩

/-- Between two sessions visitors were answered as the events have it. -/
def Attends (s s' : Session) : Prop :=
  s'.reachable = s.reachable
    ∧ ∃ events, s'.history = s.history ++ events
      ∧ Attended s.reachable s.exposure events s'.exposure

theorem Attends.refl (s : Session) : Attends s s :=
  ⟨rfl, [], (List.append_nil _).symm, .nil _⟩

theorem Attends.trans {s s' s'' : Session} (h : Attends s s') (h' : Attends s' s'') :
    Attends s s'' := by
  obtain ⟨hreachable, events, hevents, hattended⟩ := h
  obtain ⟨hreachable', more, hmore, hattended'⟩ := h'
  refine ⟨hreachable'.trans hreachable, events ++ more, ?_, ?_⟩
  · rw [hmore, hevents, List.append_assoc]
  · rw [hreachable] at hattended'
    exact hattended.append hattended'

theorem history_recorded (s : Session) (event : Event) :
    (s.recorded event).history = s.history ++ [event] :=
  List.reverse_cons

/-- An event is recorded, with what it changes. -/
theorem attends_recorded {s s' : Session} {event : Event} (hreachable : s'.reachable = s.reachable)
    (htrace : s'.trace = s.trace) (hexposure : s'.exposure = s.exposure.next event)
    (hfits : event.Fits s.reachable s.exposure) : Attends s (s'.recorded event) := by
  refine ⟨hreachable, [event], ?_, ?_⟩
  · rw [history_recorded, history, htrace]
    rfl
  · show Attended _ _ _ s'.exposure
    rw [hexposure]
    exact .single hfits

theorem attends_logged (s : Session) (entry : Log.Entry) :
    Attends s (s.recorded (.logged entry)) :=
  attends_recorded rfl rfl rfl trivial

/-! ## Visitors -/

/-- A visitor is answered, and at most noticed and logged. -/
structure Receives (s : Session) (s' : Session) : Prop where
  attends : Attends s s'
  exposure : s'.exposure = s.exposure

theorem Receives.trans {s s' s'' : Session} (h : Receives s s') (h' : Receives s' s'') :
    Receives s s'' :=
  ⟨h.attends.trans h'.attends, h'.exposure.trans h.exposure⟩

theorem visited_spec (s : Session) (visit : Visit) :
    (s.visited visit).1 = s.exposure.answer s.reachable visit
      ∧ Receives s (s.visited visit).2 := by
  have hself : Receives s s := ⟨.refl s, rfl⟩
  have hlogged (entry : Log.Entry) : Receives s (s.recorded (.logged entry)) :=
    ⟨attends_logged s entry, rfl⟩
  have hserved (served : List Served) (entry : Log.Entry) :
      Receives s ({ s with served := served }.recorded (.logged entry)) :=
    ⟨attends_recorded rfl rfl rfl trivial, rfl⟩
  have hanswer : s.exposure.answer s.reachable visit =
      if s.listening && s.reachable then
        some (s.registry.respond visit.method (pathOfTarget visit.target))
      else none := rfl
  rw [visited, hanswer]
  split
  · dsimp only
    split
    · exact ⟨rfl, hself⟩
    · split
      · exact ⟨rfl, hserved _ _⟩
      · split
        · exact ⟨rfl, hlogged _⟩
        · exact ⟨rfl, hself⟩
  · exact ⟨rfl, hself⟩

theorem visitedBy_spec (s : Session) (visits : List Visit) :
    (∀ v ∈ (s.visitedBy visits).1, v.2 = s.exposure.answer s.reachable v.1)
      ∧ Receives s (s.visitedBy visits).2 := by
  induction visits generalizing s with
  | nil => exact ⟨fun v hv => absurd hv List.not_mem_nil, .refl s, rfl⟩
  | cons visit visits ih =>
    obtain ⟨hanswer, hreceives⟩ := visited_spec s visit
    obtain ⟨hanswers, hrest⟩ := ih (s.visited visit).2
    rw [hreceives.exposure, hreceives.attends.1] at hanswers
    refine ⟨?_, hreceives.trans hrest⟩
    intro v hv
    rcases List.mem_cons.1 hv with rfl | hv
    · exact hanswer
    · exact hanswers v hv

/-! ## Steps -/

theorem attends_exchange (s : Session) (request : Http.Request) :
    Attends s (s.after (exchange request)) := by
  let answer := (s.nextAnswer request).1
  let taken := (s.nextAnswer request).2
  let visited := taken.visitedBy answer.visits
  have htaken : Receives s taken := by
    show Receives s (s.nextAnswer request).2
    rw [nextAnswer]
    split
    · exact ⟨.refl s, rfl⟩
    · exact ⟨⟨rfl, [], (List.append_nil _).symm, .nil _⟩, rfl⟩
  obtain ⟨hanswers, hvisits⟩ := visitedBy_spec taken answer.visits
  rw [after_exchange]
  refine (htaken.trans hvisits).attends.trans (attends_recorded rfl rfl rfl ?_)
  intro v hv
  rw [hvisits.exposure, hvisits.attends.1]
  exact hanswers v hv

theorem steady_attends : Steady Attends where
  refl := Attends.refl
  trans := Attends.trans
  aside := by
    rintro s s' ⟨hregistry, hlistening, hreachable, _, htrace⟩
    refine ⟨hreachable, [], ?_, ?_⟩
    · rw [history, htrace, List.append_nil]
      rfl
    · have hexposure : s'.exposure = s.exposure := by
        rw [exposure, hregistry, hlistening]
        rfl
      rw [hexposure]
      exact .nil _
  recorded := by
    intro s event haside
    refine attends_recorded rfl rfl (Exposure.next_of_isAside haside _).symm ?_
    cases event with
    | exchanged => exact haside.elim
    | listened => exact haside.elim
    | offered => exact haside.elim
    | withdrawn => exact haside.elim
    | _ => trivial
  exchanged := attends_exchange
  listened _ _ := attends_recorded rfl rfl rfl trivial
  offered _ _ _ hlistening := attends_recorded rfl rfl rfl hlistening
  withdrawn _ _ := attends_recorded rfl rfl rfl trivial

/-- In every run visitors are answered as the events have it. -/
theorem run_attends (config : Config) (keys : KeySupply) (s : Session) :
    Attends s (s.after (run config keys)) :=
  steady_attends.respects (.run config keys)
    (fun _ _ _ => ⟨rfl, [], (List.append_nil _).symm, .nil _⟩) s

/-- The deeds between two sessions are what visitors could follow. -/
theorem Attends.deeds {s s' : Session} {deeds : List Deed} (h : Attends s s')
    (hd : s'.course = s.course ++ deeds.flatMap Deed.events) :
    Attended s.reachable s.exposure (deeds.flatMap Deed.events) s'.exposure := by
  obtain ⟨_, events, hevents, hattended⟩ := h
  have hcourse : s'.course = s.course ++ events.filter Event.isDone := by
    rw [course, hevents, List.filter_append]
    rfl
  have hsame := List.append_cancel_left (hcourse.symm.trans hd)
  rw [← hsame]
  exact hattended.filter

end Session

end Acme
