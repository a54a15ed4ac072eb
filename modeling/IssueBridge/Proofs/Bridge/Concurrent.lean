import IssueBridge.Bridge.Concurrent
import IssueBridge.Proofs.Bridge.Pass
import IssueBridge.Proofs.Step.Fiber

/-! # A pass without interleaving

Where the repositories and their issues have their turns one after the other, a pass by a schedule is the pass that
works through them in order.
-/

namespace IssueBridge

open Step Tracker

namespace Bridge.Fibers

variable {b : Bridge} {name : String} {repo : Repo} {since : Time.Timestamp} {i : GitHub.Issue} {r : TicketRef}

theorem run_transitions (r : TicketRef) (repo : Repo) (name : String) :
    (transitions r repo name).run = runTransitions r repo name := by
  unfold transitions runTransitions
  rw [Fiber.run_forM]
  simp only [Fiber.run_lift]

theorem run_opened (b : Bridge) (i : GitHub.Issue) (repo : Repo) : (opened b i repo).run = b.opened i repo := by
  unfold opened firstAttempt Bridge.opened createTicket
  rw [Fiber.run_bind, Fiber.run_lift, bind_assoc]
  refine bind_congr fun fs => ?_
  rw [bind_assoc]
  refine bind_congr fun o => ?_
  rw [pure_bind]
  cases o with
  | ok r => rfl
  | error f => exact Fiber.run_lift _

theorem run_closeNew (r : TicketRef) (i : GitHub.Issue) (repo : Repo) :
    (closeNew r i repo).run = Bridge.closeNew r i repo := by
  unfold closeNew Bridge.closeNew
  split
  · rw [Fiber.run_contain, run_transitions]
  · rfl

theorem run_settleNew (r : TicketRef) (i : GitHub.Issue) (repo : Repo) :
    (settleNew r i repo).run = Bridge.settleNew r i repo := by
  unfold settleNew Bridge.settleNew
  rw [Fiber.run_bind, run_closeNew, Fiber.run_forM]
  simp only [Fiber.run_lift]

theorem run_createFromSource (b : Bridge) (i : GitHub.Issue) (repo : Repo) :
    (createFromSource b i repo).run = b.createFromSource i repo := by
  unfold createFromSource Bridge.createFromSource
  simp only [Fiber.run_bind, Fiber.run_lift, run_opened, run_settleNew, Fiber.run_pure]

theorem run_ensureTicket (b : Bridge) (name : String) (repo : Repo) (i : GitHub.Issue) :
    discard (ensureTicket b name repo i).run = b.ensureTicket name repo i := by
  unfold ensureTicket Bridge.ensureTicket
  rw [discard_eq, Fiber.run_bind, Fiber.run_observe, Fiber.run_lift, bind_assoc]
  refine bind_congr fun o => ?_
  split
  · rfl
  · rw [Fiber.run_bind, Fiber.run_observe, run_createFromSource, bind_assoc]
    refine bind_congr fun o => ?_
    split <;> simp only [Fiber.run_bind, Fiber.run_lift, Fiber.run_pure, bind_assoc, pure_bind, bind_pure_unit]
  · simp only [Fiber.run_bind, Fiber.run_lift, Fiber.run_pure, bind_assoc, pure_bind, bind_pure_unit]

theorem run_ensureAll (b : Bridge) (name : String) (repo : Repo) : ∀ issues : List GitHub.Issue,
    discard (ensureAll b name repo issues).run = issues.forM (b.ensureTicket name repo)
  | [] => rfl
  | i :: issues => by
    show _ = b.ensureTicket name repo i >>= fun _ => issues.forM (b.ensureTicket name repo)
    rw [← run_ensureTicket, ← run_ensureAll b name repo issues, ensureAll]
    simp only [Fiber.run_bind, Fiber.run_pure, discard_eq, bind_assoc, pure_bind]

theorem run_pushStatus (r : TicketRef) (i : GitHub.Issue) (repo : Repo) :
    (pushStatus r i repo).run = Bridge.pushStatus r i repo := by
  unfold pushStatus Bridge.pushStatus
  rw [Fiber.run_bind, Fiber.run_lift]
  refine bind_congr fun t => ?_
  cases wantedTransition i.state t.statusCategory with
  | none => rfl
  | some name =>
    dsimp only
    rw [Fiber.run_contain, run_transitions]

theorem run_updateFromSource (b : Bridge) (r : TicketRef) (i : GitHub.Issue) (repo : Repo) :
    (updateFromSource b r i repo).run = b.updateFromSource r i repo := by
  unfold updateFromSource Bridge.updateFromSource
  simp only [Fiber.run_bind, Fiber.run_lift, run_pushStatus, Fiber.run_forM]

theorem run_syncComments (b : Bridge) (r : TicketRef) (i : GitHub.Issue) (name : String) (repo : Repo)
    (since : Time.Timestamp) : (syncComments b r i name repo since).run = b.syncComments r i name repo since := by
  unfold syncComments Bridge.syncComments
  rw [Fiber.run_bind, Fiber.run_lift, bind_assoc]
  refine bind_congr fun thread => bind_congr fun existing => ?_
  split
  · simp only [Fiber.run_forM, Fiber.run_lift]
  · simp only [Fiber.run_bind, Fiber.run_forM, Fiber.run_lift]

theorem run_syncIssue (b : Bridge) (name : String) (repo : Repo) (since : Time.Timestamp) (i : GitHub.Issue) :
    (syncIssue b name repo since i).run = b.syncIssue name repo since i := by
  unfold syncIssue Bridge.syncIssue bringUpToDate Bridge.bringUpToDate
  simp only [Fiber.run_bind, Fiber.run_observe, Fiber.run_lift, run_updateFromSource, run_syncComments]
  refine bind_congr fun o => ?_
  split <;> exact Fiber.run_lift _

theorem run_updateAll (b : Bridge) (name : String) (repo : Repo) (since : Time.Timestamp)
    (issues : List GitHub.Issue) :
    (updateAll b [] name repo since issues).run = b.updateAll name repo since issues := by
  unfold updateAll Bridge.updateAll
  split
  · rw [Fiber.run_bind, Fiber.run_lift]
    refine bind_congr fun _ => ?_
    rw [← Fiber.run_inTurn_map (run_syncIssue b name repo since) (outcome_syncIssue b name repo since), discard_eq,
      Fiber.run_bind]
    rfl
  · rfl

theorem run_syncRepository (b : Bridge) (since : Time.Timestamp) (name : String) (repo : Repo) :
    ((syncRepository b [] since name repo).run >>= fun report => Step.ofExcept report.ending) =
      b.syncRepository since name repo := by
  unfold syncRepository Bridge.syncRepository
  rw [Fiber.run_bind, Fiber.run_lift, bind_assoc]
  refine bind_congr fun _ => ?_
  rw [Fiber.run_bind, Fiber.run_observe, Fiber.run_lift, bind_assoc]
  refine bind_congr fun o => ?_
  cases o with
  | error f =>
    simp only [Fiber.run_bind, Fiber.run_observe, Fiber.run_lift, Fiber.run_pure, bind_assoc, pure_bind]
    exact observe_bind_ofExcept _
  | ok issues =>
    unfold syncIssues Bridge.syncIssues
    simp only [Fiber.run_bind, Fiber.run_observe, Fiber.run_lift, Fiber.run_pure, bind_assoc, pure_bind,
      observe_bind_ofExcept, run_updateAll, ← run_ensureAll, discard_eq]

theorem crash?_eq (o : Except Failure Report) :
    crash? o = match o.bind Report.ending with
      | .ok () => none
      | .error f => some f := by
  match o with
  | .error f => rfl
  | .ok ⟨_, .error f⟩ => rfl
  | .ok ⟨_, .ok ()⟩ => rfl

theorem observe_syncRepository (b : Bridge) (since : Time.Timestamp) (name : String) (repo : Repo) :
    Step.observe (b.syncRepository since name repo) = do
      let o ← Step.observe (syncRepository b [] since name repo).run
      return o.bind Report.ending := by
  rw [← run_syncRepository]
  refine Step.ext (fun w => ?_) fun w => ?_
  · rw [outcome_observe, outcome_bind, outcome_bind_ok (outcome_observe ..), outcome_pure]
    cases outcome (syncRepository b [] since name repo).run w with
    | error f => rfl
    | ok report => exact congrArg Except.ok (outcome_ofExcept ..)
  · rw [after_observe, after_bind_pure, after_observe, after_bind]
    cases outcome (syncRepository b [] since name repo).run w with
    | error f => rfl
    | ok report => exact after_ofExcept ..

theorem run_syncRepositories (b : Bridge) (since : Time.Timestamp) : ∀ repos : Table Repo,
    (do
      let outcomes ← (syncRepositories b {} since repos).run
      return outcomes.filterMap crash?) = b.syncRepositories since repos
  | [] => rfl
  | (name, repo) :: repos => by
    rw [Bridge.syncRepositories, observe_syncRepository, ← run_syncRepositories b since repos]
    unfold syncRepositories Fiber.scheduled
    rw [List.map_cons, Fiber.run_inTurn_cons]
    simp only [bind_assoc, pure_bind]
    refine bind_congr fun o => ?_
    have ho := crash?_eq o
    split <;> rename_i h <;> rw [h] at ho <;> simp only [List.filterMap_cons, ho]

end Bridge.Fibers

namespace Bridge

theorem discard_syncConfiguredBy (b : Bridge) (since : Time.Timestamp) :
    discard (b.syncConfiguredBy {} since) = b.syncConfigured since := by
  unfold syncConfiguredBy syncConfigured
  dsimp only
  cases b.settings.repos.isEmpty with
  | true => rfl
  | false =>
    rw [if_neg (by decide), if_pos (by decide), discard_eq, ← Fibers.run_syncRepositories]
    simp only [bind_assoc, pure_bind, bind_pure_unit]

/-- A pass without interleaving is the pass that works through the repositories in order. -/
theorem syncAllBy_nil (b : Bridge) : b.syncAllBy {} = b.syncAll := by
  have hpass : b.passBy {} = b.pass := by
    unfold passBy pass
    refine bind_congr fun since => ?_
    rw [← discard_syncConfiguredBy, discard_eq, bind_assoc]
    rfl
  unfold syncAllBy syncAll
  rw [hpass]

end Bridge

end IssueBridge
