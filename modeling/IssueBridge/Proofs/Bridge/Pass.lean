import IssueBridge.Proofs.Bridge.Creation
import IssueBridge.Proofs.Bridge.Thread

/-! # A pass, issue by issue

Whatever a pass changes in the tracker is changed where it looks for the counterpart of a listed issue
or brings one up to date. What these two steps preserve is therefore preserved by a whole pass.
-/

namespace IssueBridge

open Step Tracker

theorem silent_modifyTables (g : World → Tables) :
    Silent (modify fun w => { w with tables := g w }) := fun _ => ⟨rfl, rfl, rfl, rfl⟩

theorem silent_modifyBusy (busy : Bool) : Silent (modify fun w => { w with busy }) := fun _ =>
  ⟨rfl, rfl, rfl, rfl⟩

theorem silent_insertRow (e : JournalEntry) : Silent (insertRow e) :=
  (Keeps.place _).bind fun _ => (silent_modifyTables _).bind fun _ =>
    Keeps.get.bind fun _ => (Keeps.ofExcept _).bind fun row =>
      silent_modifyTables (·.tables.append row)

theorem silent_journal (e : JournalEntry) : Silent (journal e) :=
  (Keeps.place _).bind fun _ => (silent_insertRow e).contain _ _

namespace Watermark

theorem silent_read : Silent read :=
  (Keeps.place _).bind fun _ => Keeps.get.bind fun w => by
    split
    · exact .pure _
    · split
      · exact .pure _
      · exact (Keeps.say _ _).bind fun _ => .pure _

theorem silent_since (enabled : Bool) : Silent (since enabled) :=
  Keeps.get.bind fun _ => (Keeps.ofExcept _).bind fun _ => by
    split
    · exact .pure _
    · refine silent_read.bind fun last => ?_
      cases last with
      | none => exact .pure _
      | some t => exact (Keeps.ofExcept _).bind fun _ => .ofExcept _

section Same

variable {v w : World}

theorem outcome_read (htables : w.tables = v.tables)
    (hopen : w.faults w.history .openSession = v.faults v.history .openSession) :
    outcome read w = outcome read v := by
  have hplace : outcome (place .openSession) w = outcome (place .openSession) v := by
    rw [outcome_place, outcome_place, hopen]
  unfold read
  cases h : outcome (place .openSession) v with
  | error f => rw [outcome_bind_error (hplace.trans h), outcome_bind_error h]
  | ok served =>
    rw [outcome_bind_ok (hplace.trans h), outcome_bind_ok h, outcome_bind_ok (outcome_get _),
      outcome_bind_ok (outcome_get _), after_get, after_get, after_place, after_place, htables]
    dsimp only
    split
    · rfl
    · split <;> rfl

/-- The start of the window depends on the clock and on what is read from the table. -/
theorem outcome_since (hclock : w.clock = v.clock) (htables : w.tables = v.tables)
    (hopen : w.faults w.history .openSession = v.faults v.history .openSession) (enabled : Bool) :
    outcome (since enabled) w = outcome (since enabled) v := by
  unfold since
  rw [outcome_bind_ok (outcome_get _), outcome_bind_ok (outcome_get _), after_get, after_get, hclock]
  cases hd : before v.clock defaultWindow with
  | error f => rfl
  | ok default =>
    rw [outcome_bind_ok (outcome_ofExcept ..), outcome_bind_ok (outcome_ofExcept ..), after_ofExcept,
      after_ofExcept]
    cases enabled with
    | false => rfl
    | true =>
      rw [if_neg (by decide), outcome_bind, outcome_bind, outcome_read htables hopen]
      cases outcome read v with
      | error f => rfl
      | ok last =>
        cases last with
        | none => rfl
        | some last =>
          dsimp only
          cases hlast : format last with
          | error f => rfl
          | ok text =>
            rw [outcome_bind_ok (outcome_ofExcept ..), outcome_bind_ok (outcome_ofExcept ..), outcome_ofExcept,
              outcome_ofExcept]

end Same

theorem silent_write (t : Time.Timestamp) : Silent (write t) := by
  have hstore : Silent (store t) :=
    (Keeps.ofExcept _).bind fun _ => (Keeps.place _).bind fun _ => silent_modifyTables _
  exact (Keeps.place _).bind fun _ => hstore.contain _ _

end Watermark

namespace Bridge

variable {b : Bridge} {name : String} {repo : Repo} {since : Time.Timestamp} {F : Frame}

theorem silent_journalEntry (b : Bridge) (e : JournalEntry) : Silent (b.journal e) := by
  unfold Bridge.journal
  split
  · exact IssueBridge.silent_journal e
  · exact .pure _

theorem silent_startPass (b : Bridge) : Silent b.startPass :=
  (Keeps.modifyTally _).bind fun _ => (Watermark.silent_since _).bind fun _ =>
    (Keeps.say _ _).bind fun _ => .pure _

theorem outcome_startPass (b : Bridge) (w : World) :
    outcome b.startPass w = outcome (Watermark.since b.settings.useWatermark) { w with tally := {} } := by
  unfold startPass
  rw [outcome_bind_ok rfl]
  change outcome (_ >>= _) { w with tally := {} } = _
  rw [outcome_bind]
  cases outcome (Watermark.since b.settings.useWatermark) { w with tally := {} } <;> rfl

theorem silent_endPass : Silent endPass :=
  Keeps.get.bind fun _ => (Watermark.silent_write _).bind fun _ => Keeps.get.bind fun _ =>
    (Keeps.say _ _).bind fun _ => .pure _

theorem silent_reportCrash (f : Failure) : Silent (reportCrash f) :=
  (Keeps.say _ _).bind fun _ => .modifyTally _

theorem silent_recordError (repository : String) (issue : Option Int) (f : Failure) :
    Silent (recordError repository issue f) :=
  .modifyTally _

theorem silent_reportRepository (b : Bridge) (name : String) (issues : Nat) :
    Silent (b.reportRepository name issues) :=
  Keeps.get.bind fun w => by
    dsimp only
    split
    · exact silent_journalEntry b _
    · exact silent_journalEntry b _

section Steps

variable {i : GitHub.Issue} {w : World}

theorem silent_countCreated : Silent (count "created" 1) := .modifyTally _

theorem agrees_afterCreation (b : Bridge) (name : String) (repo : Repo) (i : GitHub.Issue) (w : World) :
    (after (b.createFromSource i repo) w).Agrees (after (do
      match ← observe (b.createFromSource i repo) with
      | .ok _ => count "created" 1
      | .error f => do
        Step.error ("Failed to create JIRA issue for " ++ i.url ++ ": " ++ f.message)
        recordError name (some i.number) f) w) := by
  rw [after_bind_ok (outcome_observe ..), after_observe]
  cases outcome (b.createFromSource i repo) w with
  | ok r => exact silent_countCreated _
  | error f => exact ((Keeps.say _ _).bind fun _ => silent_recordError name (some i.number) f : Silent _) _

/-- Nothing is created for an issue that was found or could not be looked for. -/
theorem ensureTicket_of_found (name : String)
    (h : ∀ p n, outcome (b.findIssue repo.project i.id) w ≠ .error (.issueNotFound p n)) :
    w.Agrees (after (b.ensureTicket name repo i) w) := by
  have hfind := silent_findIssue b repo.project i.id
  unfold ensureTicket
  rw [after_bind_ok (outcome_observe ..), after_observe]
  refine (hfind w).trans ?_
  cases ho : outcome (b.findIssue repo.project i.id) w with
  | ok r => exact .refl _
  | error f =>
    split
    · cases ‹Except.error f = .ok _›
    · rename_i p n heq
      exact absurd (ho.trans heq) (h p n)
    · exact ((Keeps.say _ _).bind fun _ => silent_recordError name (some i.number) _ : Silent _) _

/-- For an issue that was not found one ticket is created, or none if that fails. -/
theorem ensureTicket_of_notFound (name : String) {p : String} {n : Int}
    (h : outcome (b.findIssue repo.project i.id) w = .error (.issueNotFound p n)) :
    (∃ fs, b.Drafts i repo fs ∧
      (Frame.alters mirrored (· = w.store.tickets.length) fun _ => False).rel
        { w with store := (w.store.create fs).2 } (after (b.ensureTicket name repo i) w)) ∨
    ((∃ f, outcome (b.createFromSource i repo) (after (b.findIssue repo.project i.id) w) = .error f) ∧
      w.Agrees (after (b.ensureTicket name repo i) w)) := by
  have hs : w.Agrees (after (b.findIssue repo.project i.id) w) := silent_findIssue b _ _ w
  unfold ensureTicket
  rw [after_bind_ok (outcome_observe ..), after_observe, h]
  generalize after (b.findIssue repo.project i.id) w = v at hs
  have hu := agrees_afterCreation b name repo i v
  rcases createFromSource_cases b i repo v with ⟨fs, hfs, -, hc⟩ | ⟨ho, hc⟩
  · rw [hs.store] at hc
    refine .inl ⟨fs, hfs, (Frame.alters ..).trans ?_ ((Frame.alters ..).trans hc ((Frame.alters ..).noted hu))⟩
    exact (Frame.alters ..).noted ⟨rfl, hs.source, hs.faults, hs.clock⟩
  · exact .inr ⟨ho, hs.trans (hc.trans hu)⟩

/-- Bringing a ticket up to date changes mirrored fields of this ticket and the comments in its thread. -/
theorem rel_refresh (b : Bridge) (r : TicketRef) (i : GitHub.Issue) (name : String) (repo : Repo)
    (since : Time.Timestamp) (w : World) :
    (Frame.alters mirrored (· = r) fun thread => ∃ x, w.store.ticket? r = some x ∧
      x.thread? = some thread).rel w (after (do
        b.updateFromSource r i repo
        b.syncComments r i name repo since) w) := by
  have hupdate : ∀ D, (Frame.alters mirrored (· = r) D).rel w (after (b.updateFromSource r i repo) w) :=
    fun _ => (editing_updateFromSource b r i repo).alters w
  refine rel_bind (hupdate _) fun _ _ => ?_
  have hkeeps : Keeps (.comments r fun thread => ∃ x, w.store.ticket? r = some x ∧
      x.thread? = some thread) (b.syncComments r i name repo since) := keeps_syncComments
  have hcomments := hkeeps (after (b.updateFromSource r i repo) w) fun y thread hy ht => by
      obtain ⟨x, hx, hxy⟩ := (hupdate fun _ => False).1.ticket?_of_some hy
      exact ⟨x, hx, hxy.thread? ▸ ht⟩
  exact ⟨hcomments.2.1.mono (List.nil_subset _) (fun _ => False.elim) fun _ => id, hcomments.2.2⟩

theorem syncIssue_cases (b : Bridge) (name : String) (repo : Repo) (since : Time.Timestamp)
    (i : GitHub.Issue) (w : World) :
    w.Agrees (after (b.syncIssue name repo since i) w) ∨
      ∃ r, b.finds w.store repo.project i.id = [r] ∧
        (Frame.alters mirrored (· = r) fun thread => ∃ x, w.store.ticket? r = some x ∧
          x.thread? = some thread).rel w (after (b.syncIssue name repo since i) w) := by
  have hreport : (after (b.bringUpToDate name repo since i) w).Agrees
      (after (b.syncIssue name repo since i) w) := by
    unfold syncIssue
    rw [after_bind_ok (outcome_observe ..), after_observe]
    cases outcome (b.bringUpToDate name repo since i) w with
    | ok u => exact Keeps.modifyTally (F := .agreement) _ _
    | error f =>
      exact ((Keeps.say _ _).bind fun _ => silent_recordError name (some i.number) f : Silent _) _
  have hfind := silent_findIssue b repo.project i.id
  rcases bind_cases hfind (fun r => do
    b.updateFromSource r i repo
    b.syncComments r i name repo since) w with ⟨r, hr, hs, ha⟩ | hs
  · have hv := rel_refresh b r i name repo since (after (b.findIssue repo.project i.id) w)
    rw [← ha] at hv
    rw [World.Agrees.store hs] at hv
    refine .inr ⟨r, findIssue_eq_ok hr, (Frame.alters ..).trans ((Frame.alters ..).noted hs) ?_⟩
    exact (Frame.alters ..).trans hv ((Frame.alters ..).noted hreport)
  · exact .inl (World.Agrees.trans hs hreport)

theorem outcome_ensureTicket (b : Bridge) (name : String) (repo : Repo) (i : GitHub.Issue) (w : World) :
    outcome (b.ensureTicket name repo i) w = .ok () := by
  unfold ensureTicket
  rw [outcome_bind_ok (outcome_observe ..)]
  cases outcome (b.findIssue repo.project i.id) w with
  | ok r => rfl
  | error f =>
    split
    · rfl
    · rw [outcome_bind_ok (outcome_observe ..)]
      split <;> rfl
    · rfl

theorem outcome_syncIssue (b : Bridge) (name : String) (repo : Repo) (since : Time.Timestamp) (i : GitHub.Issue)
    (w : World) : outcome (b.syncIssue name repo since i) w = .ok () := by
  unfold syncIssue
  rw [outcome_bind_ok (outcome_observe ..)]
  cases outcome (b.bringUpToDate name repo since i) w <;> rfl

end Steps

theorem keeps_ensureTicket (hcreate : ∀ (w : World) fs, F.rel w { w with store := (w.store.create fs).2 })
    (hF : ∀ r, F.Admits mirrored r) (name : String) (repo : Repo) (i : GitHub.Issue) :
    Keeps F (b.ensureTicket name repo i) := by
  refine (silent_findIssue b repo.project i.id).keeps.observe.bind fun o => ?_
  split
  · exact .pure _
  · refine ((making_createFromSource b i repo).keeps hcreate hF).observe.bind fun o => ?_
    cases o with
    | ok r => exact silent_countCreated.keeps
    | error f => exact (Keeps.say _ _).bind fun _ => (silent_recordError name (some i.number) f).keeps
  · exact (Keeps.say _ _).bind fun _ => (silent_recordError name (some i.number) _).keeps

theorem keeps_syncIssue (hF : ∀ r, F.Admits mirrored r)
    (hcomments : ∀ r, Keeps F (b.syncComments r i name repo since)) :
    Keeps F (b.syncIssue name repo since i) := by
  have hbring : Keeps F (b.bringUpToDate name repo since i) :=
    (silent_findIssue b repo.project i.id).keeps.bind fun r =>
      ((editing_updateFromSource b r i repo).keeps (hF r)).bind fun _ => hcomments r
  refine hbring.observe.bind fun o => ?_
  cases o with
  | ok u => exact .modifyTally _
  | error f => exact (Keeps.say _ _).bind fun _ => (silent_recordError name (some i.number) f).keeps

/-- What is preserved where a pass looks for the counterpart of a listed issue and where it brings one
up to date. -/
structure Stepwise (b : Bridge) (F : Frame) : Prop where
  source : ∀ {v w}, F.rel v w → w.source = v.source
  ensure : ∀ {name repo i} (w : World), (name, repo) ∈ b.settings.repos →
    i ∈ w.source.listing repo.owner name → F.rel w (after (b.ensureTicket name repo i) w)
  sync : ∀ {name repo i} (since : Time.Timestamp) (w : World), (name, repo) ∈ b.settings.repos →
    i ∈ w.source.listing repo.owner name → F.rel w (after (b.syncIssue name repo since i) w)

namespace Stepwise

variable {src : Source} {i : GitHub.Issue}

theorem ensure' (h : b.Stepwise F) (hr : (name, repo) ∈ b.settings.repos)
    (hi : i ∈ src.listing repo.owner name) : Keeps (F.within src) (b.ensureTicket name repo i) :=
  fun w hw => by
    have hrel := h.ensure w hr (hw ▸ hi)
    exact ⟨(h.source hrel).trans hw, hrel⟩

theorem sync' (h : b.Stepwise F) (hr : (name, repo) ∈ b.settings.repos)
    (hi : i ∈ src.listing repo.owner name) :
    Keeps (F.within src) (b.syncIssue name repo since i) := fun w hw => by
  have hrel := h.sync since w hr (hw ▸ hi)
  exact ⟨(h.source hrel).trans hw, hrel⟩

theorem updateAll (h : b.Stepwise F) (hr : (name, repo) ∈ b.settings.repos) :
    Keeps (F.within src) (b.updateAll name repo since (src.listing repo.owner name)) := by
  unfold Bridge.updateAll
  split
  · exact (Keeps.place _).bind fun _ => .forM fun _ hi => h.sync' hr hi
  · exact .pure _

theorem syncIssues (h : b.Stepwise F) (hr : (name, repo) ∈ b.settings.repos) :
    Keeps (F.within src) (b.syncIssues name repo since (src.listing repo.owner name)) :=
  (Keeps.modifyTally _).bind fun _ => (Keeps.forM fun _ hi => h.ensure' hr hi).bind fun _ =>
    (h.updateAll hr).bind fun _ => (silent_reportRepository b name _).keeps

theorem syncRepository (h : b.Stepwise F) (hr : (name, repo) ∈ b.settings.repos) :
    Keeps (F.within src) (b.syncRepository since name repo) := by
  have hlist : Silent (observe (GitHub.issues repo.owner name (some since))) :=
    (GitHub.silent_issues _ _ _).observe
  refine (Keeps.modifyTally _).bind fun _ w => rel_bind (hlist.keeps w) fun o ho => ?_
  rw [outcome_observe, Except.ok.injEq] at ho
  match o with
  | .error f =>
    exact ((Keeps.say _ _).bind fun _ => (silent_recordError _ _ _).keeps.bind fun _ =>
      (silent_journalEntry b _).keeps) _
  | .ok issues =>
    intro hv
    have hw : w.source = src := (World.Agrees.source (hlist w)).symm.trans hv
    rw [GitHub.issues_eq_ok ho, hw]
    exact h.syncIssues hr _ hv

theorem syncRepositories (h : b.Stepwise F) : ∀ {repos : Table Repo}, repos ⊆ b.settings.repos →
    Keeps (F.within src) (b.syncRepositories since repos)
  | [], _ => .pure _
  | (name, repo) :: repos, hr => by
    have hrest : Keeps (F.within src) (b.syncRepositories since repos) :=
      h.syncRepositories fun _ hp => hr (List.mem_cons_of_mem _ hp)
    refine (h.syncRepository (hr List.mem_cons_self)).observe.bind fun o => ?_
    match o with
    | .ok () => exact hrest
    | .error f => exact hrest.bind fun _ => .pure _

theorem syncConfigured (h : b.Stepwise F) : Keeps (F.within src) (b.syncConfigured since) := by
  unfold Bridge.syncConfigured
  dsimp only
  split
  · exact (Keeps.place _).bind fun _ => (h.syncRepositories (List.Subset.refl _)).bind fun fs =>
      .forM fun f _ => (silent_reportCrash f).keeps
  · exact .pure _

theorem pass (h : b.Stepwise F) : Keeps (F.within src) b.pass :=
  (silent_startPass b).keeps.bind fun _ => h.syncConfigured.bind fun _ => silent_endPass.keeps

/-- A whole pass preserves what its steps preserve, also if it is refused or fails. -/
theorem syncAll (h : b.Stepwise F) : Keeps F b.syncAll := by
  intro w
  have hpass : Keeps (F.within w.source) b.syncAll := Keeps.get.bind fun _ => by
    split
    · exact (Keeps.say _ _).bind fun _ => .pure _
    · exact (silent_modifyBusy true).keeps.bind fun _ => h.pass.observe.bind fun _ =>
        (silent_modifyBusy false).keeps.bind fun _ => .ofExcept _
  exact (hpass w rfl).2

end Stepwise

section Exclusive

variable {w : World}

def exclusively (x : Step Tally) : Step Tally := do
  if (← get).busy then
    Step.info "Reconciliation already running, skipping"
    return { skipped := true }
  else
    modify fun w => { w with busy := true }
    let outcome ← Step.observe x
    modify fun w => { w with busy := false }
    Step.ofExcept outcome

theorem exclusively_of_busy (h : w.busy = true) (x : Step Tally) :
    outcome (exclusively x) w = .ok { skipped := true } ∧ w.Agrees (after (exclusively x) w) := by
  unfold exclusively
  rw [outcome_bind_ok (outcome_get w), after_bind_ok (outcome_get w), after_get, if_pos h]
  exact ⟨rfl, rfl, rfl, rfl, rfl⟩

theorem exclusively_of_not_busy (h : w.busy = false) (x : Step Tally) :
    outcome (exclusively x) w = outcome x { w with busy := true } ∧
      after (exclusively x) w = { after x { w with busy := true } with busy := false } := by
  unfold exclusively
  have hb : ¬ w.busy = true := by simp [h]
  rw [outcome_bind_ok (outcome_get w), after_bind_ok (outcome_get w), after_get, if_neg hb,
    outcome_bind_ok (outcome_modify ..), after_bind_ok (outcome_modify ..), after_modify,
    outcome_bind_ok (outcome_observe ..), after_bind_ok (outcome_observe ..), after_observe,
    outcome_bind_ok (outcome_modify ..), after_bind_ok (outcome_modify ..), after_modify,
    outcome_ofExcept, after_ofExcept]
  exact ⟨rfl, rfl⟩

theorem syncAll_eq_exclusively (b : Bridge) : b.syncAll = exclusively b.pass := rfl

theorem syncAll_of_busy (h : w.busy = true) (b : Bridge) :
    outcome b.syncAll w = .ok { skipped := true } ∧ w.Agrees (after b.syncAll w) :=
  exclusively_of_busy h b.pass

theorem syncAll_of_not_busy (h : w.busy = false) (b : Bridge) :
    outcome b.syncAll w = outcome b.pass { w with busy := true } ∧
      after b.syncAll w = { after b.pass { w with busy := true } with busy := false } :=
  exclusively_of_not_busy h b.pass

end Exclusive

end Bridge

end IssueBridge
