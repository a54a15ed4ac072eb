import IssueBridge.Proofs.Bridge.Interleaved

/-! # No issue is carried twice

The workers of a pass look for an issue and create what is missing without a lock. So an issue that several
repositories of one project list may come to be carried by as many tickets. Where that cannot happen, no pass makes a
second carrier, whatever fails on the way.
-/

namespace IssueBridge

open Step Tracker Correlation

namespace Bridge

variable {b : Bridge} {v w : World} {project : String} {id : Int} {s : Schedule} {n : Nat}

/-- The tickets that carry an issue. -/
def carriers (b : Bridge) (w : World) (project : String) (id : Int) : List TicketRef :=
  w.store.search (query b.fieldIds project id)

def lists (src : Source) (project : String) (id : Int) (p : String × Repo) : Bool :=
  p.2.project == project && (src.listing p.2.owner p.1).any (·.id == id)

/-- The repositories of a project that list an issue. -/
def listers (b : Bridge) (src : Source) (project : String) (id : Int) : Table Repo :=
  b.settings.repos.filter (lists src project id)

/-- What a pass by a schedule comes to before its end, if no other pass is running. -/
def searched (b : Bridge) (s : Schedule) (w : World) : Except Failure (List Fibers.Finding) :=
  outcome (b.startPass >>= b.syncConfiguredBy s) { w with busy := true }

/-- What became of the issues that a pass by a schedule looked for. -/
def findings (b : Bridge) (s : Schedule) (w : World) : List Fibers.Finding :=
  if w.busy then []
  else
    match b.searched s w with
    | .ok l => l
    | .error _ => []

section Workers

/-- The workers add no more than they are allowed, and their reports are true. -/
def WorkersMeet (b : Bridge) (s : Schedule) (project : String) (id : Int) (n : Nat) (w : World) : Prop :=
  ∀ since, (Fibers.syncRepositories b s since b.settings.repos).Adds (query b.fieldIds project id)
    (fun _ => Fiber.AllEnd b.settings.repos (Fibers.Reports b w.source w.faults project id)) n w

theorem reports_later {src : Source} {faults : Faults} (p : String × Repo) (o : Except Failure Fibers.Report)
    (v w : World) (hw : (Frame.grows (query b.fieldIds project id)).rel v w)
    (h : Fibers.Reports b src faults project id p o v) : Fibers.Reports b src faults project id p o w :=
  ⟨h.1.later hw, h.2⟩

theorem lists_of_exists {src : Source} {name : String} {repo : Repo}
    (h : repo.project = project ∧ ∃ i ∈ src.listing repo.owner name, i.id = id) :
    lists src project id (name, repo) = true := by
  unfold lists
  simpa [h.1] using h.2

theorem affords_one (q : Query) (w : World) : Fibers.Affords q (1 - w.answering q) w := fun he => by
  unfold World.answering
  rw [he]
  exact Nat.le_refl 1

/-- Each repository that lists the issue may create one carrier if there is none. -/
theorem workersMeet_by_listers (hb : b.Searchable) (ht : w.faults.Truthful) (s : Schedule) (project : String)
    (id : Int) : b.WorkersMeet s project id ((b.listers w.source project id).length *
      (1 - w.answering (query b.fieldIds project id))) w := by
  intro since
  have hshare : ∀ repos : Table Repo, repos ⊆ b.settings.repos →
      Fiber.Share (.grows (query b.fieldIds project id)) (World.answering (query b.fieldIds project id))
        (Fibers.Reports b w.source w.faults project id) repos
        (repos.map fun p => Fibers.syncRepository b (s.issues p.1) since p.1 p.2)
        ((repos.filter (lists w.source project id)).length * (1 - w.answering (query b.fieldIds project id))) w := by
    intro repos
    induction repos with
    | nil => exact fun _ => trivial
    | cons p repos ih =>
      intro hsub
      have hrest := ih fun p hp => hsub (List.mem_cons_of_mem _ hp)
      have hworker : ∀ m, (lists w.source project id p → Fibers.Affords (query b.fieldIds project id) m w) →
          (Fibers.syncRepository b (s.issues p.1) since p.1 p.2).Adds (query b.fieldIds project id)
            (fun _ => Fibers.Reports b w.source w.faults project id p) m w := fun m hm =>
        (Fibers.adds_syncRepository hb (hsub List.mem_cons_self) ht _ since
          fun h => hm (lists_of_exists h)).imp fun _ _ _ h => h.2
      rw [List.filter_cons]
      split
      · refine ⟨_, _, Nat.le_of_eq ?_, hworker _ fun _ => affords_one _ w, hrest⟩
        rw [List.length_cons, Nat.succ_mul, Nat.add_comm]
      · rename_i hp
        exact ⟨0, _, Nat.le_of_eq (Nat.zero_add _), hworker 0 fun h => absurd h hp, hrest⟩
  exact .scheduled reports_later s.repositories (hshare _ (List.Subset.refl _))

/-- Repositories that have their turns one after the other create one carrier between them if there is none. -/
theorem workersMeet_in_turn (hb : b.Searchable) (ht : w.faults.Truthful) (hs : s.repositories = []) (project : String)
    (id : Int) : b.WorkersMeet s project id (1 - w.answering (query b.fieldIds project id)) w := by
  intro since
  unfold Fibers.syncRepositories
  rw [hs]
  refine Fiber.Meets.inTurn_of reports_later (fun p hp n v hwv hn => ?_) (affords_one _ w)
  refine (Fibers.adds_syncRepository hb hp (hwv.1.2.1 ▸ ht) _ since fun _ => hn).imp fun m o u h => ⟨h.1 hn, ?_⟩
  exact hwv.1.1 ▸ hwv.1.2.1 ▸ h.2

theorem WorkersMeet.later (h : b.WorkersMeet s project id n w) (hv : w.Agrees v) :
    b.WorkersMeet s project id n v := fun since => by
  have hlater := (h since).later ((Frame.grows _).noted hv)
  rwa [← hv.source, ← hv.faults] at hlater

end Workers

section Pass

/-- There is a finding for every issue of every repository that can be listed. -/
def Complete (src : Source) (faults : Faults) (repos : Table Repo) (l : List Fibers.Finding) : Prop :=
  ∀ p ∈ repos, faults.Lists (GitHub.fullName p.2.owner p.1) →
    ∀ i ∈ src.listing p.2.owner p.1, ∃ x ∈ l, x.project = p.2.project ∧ x.issue = i

theorem complete_of_reports {src : Source} {faults : Faults} {repos : Table Repo}
    {os : List (Except Failure Fibers.Report)}
    (h : List.Forall₂ (fun p o => Fibers.Reports b src faults project id p o w) repos os) :
    Fibers.Carried b project id (os.flatMap Fibers.foundBy) w ∧
      Complete src faults repos (os.flatMap Fibers.foundBy) := by
  induction h with
  | nil => exact ⟨Fibers.carried_nil _ _ _ _, fun p hp => by cases hp⟩
  | @cons p o repos os hp _ ih =>
    rw [List.flatMap_cons]
    refine ⟨fun x hx => ?_, fun p' hp' hl i hi => ?_⟩
    · obtain hx | hx := List.mem_append.mp hx
      · exact hp.1 x hx
      · exact ih.1 x hx
    · obtain rfl | hp' := List.mem_cons.mp hp'
      · have hmem : (p'.2.project, i) ∈ (Fibers.foundBy o).map fun x => (x.project, x.issue) := by
          rw [hp.2 hl]
          exact List.mem_map_of_mem hi
        obtain ⟨x, hx, heq⟩ := List.mem_map.mp hmem
        exact ⟨x, List.mem_append_left _ hx, Prod.mk.inj heq⟩
      · obtain ⟨x, hx, h⟩ := ih.2 p' hp' hl i hi
        exact ⟨x, List.mem_append_right _ hx, h⟩

/-- The step adds no more than is allowed. What it found, if it has a result, is true and complete. -/
def StepMeets (b : Bridge) (project : String) (id : Int) (n : Nat) (x : Step (List Fibers.Finding)) (w : World) :
    Prop :=
  (after x w).answering (query b.fieldIds project id) ≤ w.answering (query b.fieldIds project id) + n ∧
    ∀ l, outcome x w = .ok l → Fibers.Carried b project id l (after x w) ∧
      Complete w.source w.faults b.settings.repos l

theorem stepMeets_bind {α : Type} {x : Step α} {f : α → Step (List Fibers.Finding)} (hx : Silent x)
    (hf : ∀ a, outcome x w = .ok a → b.StepMeets project id n (f a) (after x w)) :
    b.StepMeets project id n (x >>= f) w := by
  have hw : w.Agrees (after x w) := hx w
  unfold StepMeets
  cases ho : outcome x w with
  | error e =>
    rw [after_bind_error ho, outcome_bind_error ho, hw.answering_eq]
    exact ⟨Nat.le_add_right .., fun l hl => by cases hl⟩
  | ok a =>
    rw [after_bind_ok ho, outcome_bind_ok ho, ← hw.answering_eq, ← hw.source, ← hw.faults]
    exact hf a ho

theorem stepMeets_syncConfiguredBy (h : b.WorkersMeet s project id n w) (since : Time.Timestamp) :
    b.StepMeets project id n (b.syncConfiguredBy s since) w := by
  unfold syncConfiguredBy
  dsimp only
  split
  · rename_i hempty
    refine ⟨Nat.le_add_right .., fun l hl => ?_⟩
    cases hl
    refine ⟨Fibers.carried_nil _ _ _ _, fun p hp => ?_⟩
    rw [List.isEmpty_iff.mp hempty] at hp
    cases hp
  · refine stepMeets_bind (Keeps.place _) fun _ _ => ?_
    have hv : w.Agrees (after (place (.pool b.settings.repos.length "sync-repo")) w) :=
      Keeps.place (F := .agreement) _ w
    generalize after (place (.pool b.settings.repos.length "sync-repo")) w = v at hv
    obtain ⟨m, hm, os, hos, hall⟩ := ((h.later hv) since).run
    have hreport : Silent ((os.filterMap Fibers.crash?).forM reportCrash) :=
      .forM fun f _ => (silent_reportCrash f).keeps
    have hagree := hreport (after (Fibers.syncRepositories b s since b.settings.repos).run v)
    have hdone : outcome ((os.filterMap Fibers.crash?).forM reportCrash)
        (after (Fibers.syncRepositories b s since b.settings.repos).run v) = .ok () :=
      outcome_forM (fun _ _ _ => rfl) _
    unfold StepMeets
    rw [after_bind_ok hos, outcome_bind_ok hos, after_bind_pure, outcome_bind_ok hdone, outcome_pure]
    refine ⟨?_, fun l hl => ?_⟩
    · rw [World.Agrees.answering_eq hagree]
      omega
    · cases hl
      obtain ⟨hcarried, hcomplete⟩ := complete_of_reports hall
      exact ⟨hcarried.later ((Frame.grows _).noted hagree), hcomplete⟩

/-- A whole pass serves each issue as its workers do. -/
theorem WorkersMeet.syncAllBy (h : b.WorkersMeet s project id n w) :
    (after (b.syncAllBy s) w).answering (query b.fieldIds project id) ≤
        w.answering (query b.fieldIds project id) + n ∧
      Fibers.Carried b project id (b.findings s w) (after (b.syncAllBy s) w) ∧
      ∀ l, b.searched s w = .ok l → Complete w.source w.faults b.settings.repos l := by
  have heq : b.syncAllBy s = exclusively (b.passBy s) := rfl
  have hstart : w.Agrees { w with busy := true } := silent_modifyBusy true w
  have hserve : b.StepMeets project id n (b.startPass >>= b.syncConfiguredBy s) { w with busy := true } :=
    stepMeets_bind (silent_startPass b) fun since _ =>
      stepMeets_syncConfiguredBy (h.later (hstart.trans (silent_startPass b _))) since
  have hcomplete : ∀ l, b.searched s w = .ok l → Complete w.source w.faults b.settings.repos l := fun l hl =>
    (hserve.2 l hl).2
  rw [heq]
  unfold findings
  by_cases hbusy : w.busy = true
  · obtain ⟨-, ha⟩ := exclusively_of_busy hbusy (b.passBy s)
    rw [if_pos hbusy, ha.answering_eq]
    exact ⟨Nat.le_add_right .., Fibers.carried_nil _ _ _ _, hcomplete⟩
  · obtain ⟨-, ha⟩ := exclusively_of_not_busy (by simpa using hbusy) (b.passBy s)
    rw [if_neg hbusy, ha]
    unfold searched at hcomplete ⊢
    generalize { w with busy := true } = v at hstart hserve hcomplete
    have hsplit : b.passBy s = (b.startPass >>= b.syncConfiguredBy s) >>= fun _ => endPass := (bind_assoc ..).symm
    have hend : (after (b.startPass >>= b.syncConfiguredBy s) v).Agrees
        { after (b.passBy s) v with busy := false } := by
      rw [hsplit]
      exact World.Agrees.trans (rel_after (F := .agreement) _ (fun _ => silent_endPass) v) (silent_modifyBusy false _)
    refine ⟨Nat.le_trans (Nat.le_of_eq (hend.answering_eq _)) ?_, ?_, hcomplete⟩
    · rw [← hstart.answering_eq]
      exact hserve.1
    · split
      · rename_i l hl
        exact (hserve.2 l hl).1.later ((Frame.grows _).noted hend)
      · exact Fibers.carried_nil _ _ _ _

end Pass

theorem eq_singleton {α : Type} {a : α} : ∀ {l : List α}, a ∈ l → l.length ≤ 1 → l = [a]
  | [c], h, _ => by rw [List.mem_singleton.mp h]

theorem add_mul_sub_le_max (k m : Nat) : k + m * (1 - k) ≤ max k m := by
  cases k with
  | zero => simp
  | succ k =>
    rw [Nat.sub_eq_zero_of_le (Nat.le_add_left 1 k), Nat.mul_zero]
    exact Nat.le_max_left ..

/-- Whatever fails in a pass and whatever the schedule of its workers is, an issue has at most as many carriers as it
had, or as there are repositories of the project that list it. If it had at most one, it has at most one after the
pass, and exactly one where it was found or created, unless two repositories list it and their workers interleave.
Every issue that can be listed is looked for if the workers are started, and a pass without interleaving is
`syncAll`. -/
theorem passes_duplicate_only_rivals (hb : b.Searchable) (ht : w.faults.Truthful) (s : Schedule) :
    (∀ project id,
      (b.carriers (after (b.syncAllBy s) w) project id).length ≤
        max (b.carriers w project id).length (b.listers w.source project id).length ∧
      ((b.carriers w project id).length ≤ 1 →
        s.repositories = [] ∨ (b.listers w.source project id).length ≤ 1 →
        (b.carriers (after (b.syncAllBy s) w) project id).length ≤ 1 ∧
        ∀ x ∈ b.findings s w, x.project = project → x.issue.id = id → ∀ r, x.result = .ok r →
          b.carriers (after (b.syncAllBy s) w) project id = [r])) ∧
    (∀ l, b.searched s w = .ok l → Complete w.source w.faults b.settings.repos l) ∧
    b.syncAllBy {} = b.syncAll := by
  refine ⟨fun project id => ?_, fun l hl => ?_, syncAllBy_nil b⟩
  · obtain ⟨hcount, hcarried, -⟩ := (workersMeet_by_listers hb ht s project id).syncAllBy
    have hbound := Nat.le_trans hcount (add_mul_sub_le_max _ _)
    refine ⟨hbound, fun hbefore hturns => ?_⟩
    have hafter : (b.carriers (after (b.syncAllBy s) w) project id).length ≤ 1 := by
      obtain hs | hone := hturns
      · obtain ⟨hturn, -⟩ := (workersMeet_in_turn hb ht hs project id).syncAllBy
        exact Nat.le_trans hturn (by have : w.answering (query b.fieldIds project id) ≤ 1 := hbefore; omega)
      · exact Nat.le_trans hbound (Nat.max_le.mpr ⟨hbefore, hone⟩)
    exact ⟨hafter, fun x hx hp hi r hr => eq_singleton (hcarried x hx hp hi r hr) hafter⟩
  · obtain ⟨-, -, hcomplete⟩ := (workersMeet_by_listers hb ht s "" 0).syncAllBy
    exact hcomplete l hl

def small : Bridge where
  settings := { repos := [("app", { owner := "acme", project := "AB", issueType := "Task" })] }
  fieldIds := ⟨"10", some "11"⟩
  zone := .fixed 0
  programs _ _ _ := .refused .missing

theorem searchable_small : small.Searchable := ⟨by decide, by decide, by decide⟩

/-- A world in which the repository lists one issue and the tracker is empty. -/
def smallWorld : World where
  clock := ⟨⟨63113904000000000, by decide⟩, none⟩
  source := { issues := [("acme/app", [.obj [("id", .int 7), ("number", .int 1)]])] }

def shared : Bridge := { small with
  settings := { repos := [
    ("app", { owner := "acme", project := "AB", issueType := "Task" }),
    ("web", { owner := "acme", project := "AB", issueType := "Task" })] } }

theorem searchable_shared : shared.Searchable := ⟨by decide, by decide, by decide⟩

/-- Both repositories look for their first issue before one of them creates a ticket. -/
def rivals : Schedule where
  repositories := [0, 0, 0, 0, 1, 1, 1, 1]

/-- A world in which the two repositories list an issue each. -/
def sharedWorld (first second : Int) : World := { smallWorld with
  source := { issues := [
    ("acme/app", [.obj [("id", .int first), ("number", .int 1)]]),
    ("acme/web", [.obj [("id", .int second), ("number", .int 1)]])] } }

theorem passes_duplicate_only_rivals_apart :
    shared.carriers (after (shared.syncAllBy rivals) (sharedWorld 7 8)) "AB" 7 = [0] ∧
      shared.carriers (after (shared.syncAllBy rivals) (sharedWorld 7 8)) "AB" 8 = [1] := by
  have ht : (sharedWorld 7 8).faults.Truthful := fun _ _ => trivial
  have h := fun id => (passes_duplicate_only_rivals searchable_shared ht rivals).1 "AB" id
  have hx : ∃ x ∈ shared.findings rivals (sharedWorld 7 8), x.project = "AB" ∧ x.issue.id = 7 ∧
      x.result.toOption = some 0 := by decide +kernel
  have hy : ∃ x ∈ shared.findings rivals (sharedWorld 7 8), x.project = "AB" ∧ x.issue.id = 8 ∧
      x.result.toOption = some 1 := by decide +kernel
  obtain ⟨x, hx, hxp, hxi, hxr⟩ := hx
  obtain ⟨y, hy, hyp, hyi, hyr⟩ := hy
  exact ⟨((h 7).2 (Nat.zero_le 1) (.inr (by decide +kernel))).2 x hx hxp hxi 0 (eq_ok_of_toOption hxr),
    ((h 8).2 (Nat.zero_le 1) (.inr (by decide +kernel))).2 y hy hyp hyi 1 (eq_ok_of_toOption hyr)⟩

/-- Two repositories that list the same issue give it a carrier each, although nothing fails. -/
theorem passes_duplicate_rivals : shared.Searchable ∧ (sharedWorld 7 7).faults.Truthful ∧
    (∀ project id, (shared.carriers (sharedWorld 7 7) project id).length ≤ 1) ∧
    shared.carriers (after (shared.syncAllBy rivals) (sharedWorld 7 7)) "AB" 7 = [0, 1] :=
  ⟨searchable_shared, fun _ _ => trivial, fun _ _ => Nat.zero_le 1, by decide +kernel⟩

end Bridge

end IssueBridge
