import Acme.Proofs.Run.Success

/-!
# What a run does not rest on

A run begins with nothing remembered, so that it rests on the world alone (`RunsAlike.of_world`).
Visitors of the responder have no part in it, whether they come during the run or came before
(`run_ignores_visitors`). Nor has anything that earlier runs left in the session
(`run_starts_afresh`).
-/

namespace Acme

open Session

/-- A run has the same result in both sessions. It sends the same requests and enters the same
phases, in the same order, and leaves the same phase, guards, domains with their cursor, and
files. -/
structure RunsAlike (config : Config) (keys : KeySupply) (s s' : Session) : Prop where
  outcome : s.outcome (run config keys) = s'.outcome (run config keys)
  requests : ∃ sent, (s.after (run config keys)).requests = s.requests ++ sent
    ∧ (s'.after (run config keys)).requests = s'.requests ++ sent
  phases : ∃ entered, (s.after (run config keys)).phases = s.phases ++ entered
    ∧ (s'.after (run config keys)).phases = s'.phases ++ entered
  phase : (s.after (run config keys)).phase = (s'.after (run config keys)).phase
  guards : (s.after (run config keys)).guards = (s'.after (run config keys)).guards
  domains : (s.after (run config keys)).domains = (s'.after (run config keys)).domains
  files : (s.after (run config keys)).files = (s'.after (run config keys)).files

/-! ## A run rests on the world -/

/-- At its beginning a run forgets what is remembered. -/
theorem inStep_begin (config : Config) {s s' : Session} (h : s.world = s'.world) :
    InStep (begin config) s s' := by
  have hbasis (t : Session) : (t.after (begin config)).basis
      = ⟨t.world, none, .init, {}, ⟨config.domains, 0⟩⟩ := rfl
  have hdealings (t : Session) : (t.after (begin config)).dealings
      = t.dealings ++ [.entered .init] :=
    dealings_recorded rfl rfl
  refine ⟨rfl, ?_, [.entered .init], hdealings s, hdealings s'⟩
  rw [hbasis, hbasis, h]

theorem inStep_run (config : Config) (keys : KeySupply) {s s' : Session} (h : s.world = s'.world) :
    InStep (run config keys) s s' :=
  (inStep_begin config h).bind fun _ =>
    (Composed.afterBegin config keys).inStep (inStep_begin config h).basis

theorem RunsAlike.of_world (config : Config) (keys : KeySupply) {s s' : Session}
    (h : s.world = s'.world) : RunsAlike config keys s s' := by
  obtain ⟨houtcome, hbasis, added, hs, hs'⟩ := inStep_run config keys h
  refine ⟨houtcome, ?_, ?_, congrArg Basis.phase hbasis, congrArg Basis.guards hbasis,
    congrArg Basis.domains hbasis, congrArg (fun b : Basis => b.world.files) hbasis⟩
  · refine ⟨(added.filterMap Event.exchange?).map Exchange.request, ?_, ?_⟩
    · rw [requests_of_dealings, requests_of_dealings, hs, List.filterMap_append, List.map_append]
    · rw [requests_of_dealings, requests_of_dealings, hs', List.filterMap_append, List.map_append]
  · refine ⟨added.filterMap Event.phase?, ?_, ?_⟩
    · rw [phases_of_dealings, phases_of_dealings, hs, List.filterMap_append]
    · rw [phases_of_dealings, phases_of_dealings, hs', List.filterMap_append]

/-! ## Visitors -/

/-- Runs in which the CA replies in the same way go alike, whoever visits the responder, before
which reply and how often, whether visitors can connect at all, and whatever visits earlier runs
have left unnoticed. -/
theorem run_ignores_visitors (config : Config) (keys : KeySupply) (s : Session)
    (answers : List Answer) (served : List Served) (reachable : Bool)
    (h : answers.map Answer.outcome = s.answers.map Answer.outcome) :
    RunsAlike config keys s
      { s with answers := answers, served := served, reachable := reachable } := by
  refine .of_world config keys ?_
  rw [world, world, h]

/-- A stranger is served both challenges of a run that nobody else visits, and another visit was
left over. -/
theorem run_ignores_visitors_of_stranger :
    let stranger : Endpoint := ⟨.v4 192 0 2 1, 40000⟩
    let visits : List Visit := [{ peer := stranger, target := challengePath ++ "t0" },
      { peer := stranger, target := challengePath ++ "t1" }]
    let s := Run.obliging []
    (Run.obliging visits).answers.map Answer.outcome = s.answers.map Answer.outcome
      ∧ s.outcome (run Run.twoDomains Run.prothKeys) = .ok (Run.files Run.twoDomains)
      ∧ RunsAlike Run.twoDomains Run.prothKeys s
        { s with answers := (Run.obliging visits).answers, served := [⟨"t0", stranger⟩] } :=
  ⟨rfl, Run.run_twoDomains_succeeds [], run_ignores_visitors _ _ _ _ _ _ rfl⟩

/-! ## Earlier runs -/

/-- A new session in the same world: nothing is remembered, nothing is served, and the responder
does not listen. It can be made to, unless the old one is refused that. -/
def Session.renewed (s : Session) (config : Config) : Session where
  answers := s.answers
  afterwards := s.afterwards
  files := s.files
  refusal := s.refusal
  listenFault := if s.listening then none else s.listenFault
  reachable := s.reachable
  domains := ⟨config.domains, 0⟩

/-- Whatever earlier runs have left in a session, the next run goes as in a new one. -/
theorem run_starts_afresh (config : Config) (keys : KeySupply) (s : Session) :
    RunsAlike config keys s (s.renewed config) :=
  .of_world config keys rfl

end Acme
