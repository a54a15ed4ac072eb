import IssueBridge.Proofs.Bridge.Comments
import IssueBridge.Proofs.Bridge.Pass
import IssueBridge.Proofs.Tracker.Numbered

/-! # A whole pass as a function of the scene

When no call fails, a pass that is run leads from one scene to another: for every repository first the
missing counterparts are created and then all are brought up to date.
-/

namespace IssueBridge

open Step Tracker

namespace Bridge

variable {b : Bridge} {v : Scene} {name : String} {repo : Repo} {i : GitHub.Issue} {r : TicketRef}
  {src : Source}

section Syncing

/-- The scene after a ticket and its comments were brought up to date. -/
def broughtUp (b : Bridge) (r : TicketRef) (i : GitHub.Issue) (name : String) (repo : Repo) (v : Scene) :
    Scene :=
  match v.store.ticket? r, Logged.result (b.description i) with
  | some x, .ok d =>
    b.commented x.id.get? i name repo (v.put r (b.refreshed v.store.workflow repo i d x))
  | _, _ => v

def synced (b : Bridge) (name : String) (repo : Repo) (i : GitHub.Issue) (v : Scene) : Scene :=
  match b.finds v.store repo.project i.id with
  | [r] => b.broughtUp r i name repo v
  | _ => v

theorem ticket?_of_mem_finds {s : Store} {project : String} {id : Int}
    (h : r ∈ b.finds s project id) : ∃ x, s.ticket? r = some x := by
  unfold finds at h
  cases hq : Correlation.Query.read? (query b.fieldIds project id).text with
  | none =>
    rw [hq] at h
    cases h
  | some q =>
    rw [hq] at h
    obtain ⟨x, hx, -⟩ := Store.mem_search.mp h
    exact ⟨x, hx⟩

def refreshOutcome (b : Bridge) (r : TicketRef) (i : GitHub.Issue) (name : String) (repo : Repo) (v : Scene) :
    Except Failure Unit :=
  match v.store.ticket? r with
  | some x => (Logged.result (b.description i)).bind fun _ =>
    b.commentOutcome v.source i name repo (v.store.comments x.id.get?).1
  | none => .error .missingPart

def syncOutcome (b : Bridge) (name : String) (repo : Repo) (i : GitHub.Issue) (v : Scene) :
    Except Failure Unit :=
  match b.finds v.store repo.project i.id with
  | [] => .error (.issueNotFound repo.project i.id)
  | [r] => b.refreshOutcome r i name repo v
  | refs => .error (ambiguity repo.project i.id (keys v.store refs))

theorem does_refresh (hk : v.store.Keyed) {x : Ticket} (hx : v.store.ticket? r = some x)
    (since : Time.Timestamp) :
    Does v (do b.updateFromSource r i repo; b.syncComments r i name repo since)
      (b.refreshOutcome r i name repo v) (b.broughtUp r i name repo v) := by
  obtain ⟨⟨k, hkey⟩, n, hid⟩ := hk x (Store.mem_of_ticket? hx)
  unfold broughtUp refreshOutcome
  rw [hx]
  cases hd : Logged.result (b.description i) with
  | error f =>
    have htext : Does v (b.updateFromSource r i repo) (.error f) v :=
      (does_pushText_of_error hd).bind_error
    exact htext.bind_error
  | ok d =>
    refine (does_updateFromSource hx hkey hd).bind ?_
    have hrefreshed := Scene.ticket?_put_self hx (b.refreshed v.store.workflow repo i d x)
    have hid' : (b.refreshed v.store.workflow repo i d x).id = .given n :=
      (follows_refreshed ..).same.id.trans hid
    dsimp only
    rw [hid]
    exact does_syncComments hrefreshed hid' since

theorem does_bringUpToDate (hk : v.store.Keyed) (since : Time.Timestamp) :
    Does v (b.bringUpToDate name repo since i) (b.syncOutcome name repo i v) (b.synced name repo i v) := by
  unfold synced syncOutcome
  match hf : b.finds v.store repo.project i.id with
  | [] => exact (does_findIssue_of_nil hf).bind_error
  | [r] =>
    obtain ⟨x, hx⟩ := ticket?_of_mem_finds (by rw [hf]; exact List.mem_singleton_self r)
    exact (does_findIssue_of_sole hf).bind (does_refresh hk hx since)
  | r :: r' :: refs => exact (does_findIssue_of_several hf).bind_error

theorem does_syncIssue (hk : v.store.Keyed) (since : Time.Timestamp) :
    Does v (b.syncIssue name repo since i) (.ok ()) (b.synced name repo i v) := by
  refine (does_bringUpToDate hk since).leaves.observe_bind fun o => ?_
  cases o with
  | ok u => exact .modifyTally _
  | error f => exact (Does.say _ _).bind (does_recordError _ _ _)

section Durable

/-- The property of scenes survives everything that a pass does. -/
structure Durable (P : Scene → Prop) : Prop where
  create : ∀ {v} fs, P v → P (v.create fs)
  put : ∀ {v r} {x y : Ticket}, v.store.ticket? r = some x → x.SameBut mirrored y → P v → P (v.put r y)
  discuss : ∀ thread, Survives thread P

namespace Durable

variable {P Q : Scene → Prop}

theorem ensured (h : Durable P) (hv : P v) : P (b.ensured repo i v) := by
  unfold Bridge.ensured
  split
  · exact h.put (Store.ticket?_create ..) ((sameBut_settled ..).mono (by simp [mirrored])) (h.create _ hv)
  · exact hv

theorem synced (h : Durable P) (hv : P v) : P (b.synced name repo i v) := by
  unfold Bridge.synced
  split
  · unfold broughtUp
    split
    · rename_i hx _
      exact (h.discuss _).commented (h.put hx (follows_refreshed ..).same hv)
    · exact hv
  · exact hv

theorem and (h : Durable P) (h' : Durable Q) : Durable fun v => P v ∧ Q v where
  create fs hv := ⟨h.create fs hv.1, h'.create fs hv.2⟩
  put hx hsame hv := ⟨h.put hx hsame hv.1, h'.put hx hsame hv.2⟩
  discuss thread :=
    { openThread := fun hv => ⟨(h.discuss thread).openThread hv.1, (h'.discuss thread).openThread hv.2⟩
      addComment := fun body hv =>
        ⟨(h.discuss thread).addComment body hv.1, (h'.discuss thread).addComment body hv.2⟩
      updateComment := fun body hc hv =>
        ⟨(h.discuss thread).updateComment body hc hv.1, (h'.discuss thread).updateComment body hc hv.2⟩
      deleteComment := fun hc hv =>
        ⟨(h.discuss thread).deleteComment hc hv.1, (h'.discuss thread).deleteComment hc hv.2⟩ }

end Durable

theorem durable_source (src : Source) : Durable fun v => v.source = src where
  create _ hv := hv
  put _ _ hv := hv
  discuss thread := survives_source thread src

theorem durable_keyed : Durable fun v => v.store.Keyed where
  create fs hv := hv.create fs
  put hx hsame hv := hv.put hx hsame.key hsame.id
  discuss _ := survives_of_inThread fun h hs => hs.of_tickets_eq h.tickets

theorem durable_numbered : Durable fun v => v.store.Numbered where
  create fs hv := hv.create fs
  put hx hsame hv := hv.put hx hsame.key hsame.id
  discuss _ := survives_of_inThread fun h hs => hs.of_tickets_eq h.tickets

theorem durable_threaded : Durable fun v => v.store.Threaded where
  create _ hv := hv
  put _ _ hv := hv
  discuss := survives_threaded

/-- The scene has the source `src`, and every ticket has a key and an id. -/
def Ready (src : Source) (v : Scene) : Prop := v.source = src ∧ v.store.Keyed

theorem durable_ready (src : Source) : Durable (Ready src) := (durable_source src).and durable_keyed

end Durable

end Syncing

section Passing

def visited (b : Bridge) (src : Source) (name : String) (repo : Repo) (v : Scene) : Scene :=
  let issues := src.listing repo.owner name
  issues.foldl (fun v i => b.synced name repo i v) (issues.foldl (fun v i => b.ensured repo i v) v)

def passed (b : Bridge) (src : Source) (v : Scene) : Scene :=
  b.settings.repos.foldl (fun v p => b.visited src p.1 p.2 v) v

theorem does_foldl {α : Type} {f : α → Step Unit} {next : Scene → α → Scene} {P : Scene → Prop} :
    ∀ {l : List α}, (∀ a ∈ l, ∀ v, P v → Does v (f a) (.ok ()) (next v a) ∧ P (next v a)) →
      ∀ {v}, P v → Does v (l.forM f) (.ok ()) (l.foldl next v) ∧ P (l.foldl next v)
  | [], _, _, hv => ⟨.pure _, hv⟩
  | a :: l, h, v, hv => by
    obtain ⟨hfirst, hnext⟩ := h a List.mem_cons_self v hv
    obtain ⟨hrest, hlast⟩ := does_foldl (fun c hc => h c (List.mem_cons_of_mem _ hc)) hnext
    exact ⟨hfirst.bind hrest, hlast⟩

theorem does_issues (v : Scene) (owner name : String) (since : Option Time.Timestamp) :
    ∃ o, Does v (GitHub.issues owner name since) o v ∧
      v.source.listing owner name = o.toOption.getD [] := by
  have hread := Does.ofExcept (v := v) (GitHub.readAll GitHub.Issue.listed
    ((v.source.issues.lookup (GitHub.fullName owner name)).getD []))
  have hissues : ∀ o, Does v (do
      let all ← Step.ofExcept (GitHub.readAll GitHub.Issue.listed
        ((v.source.issues.lookup (GitHub.fullName owner name)).getD []))
      return all.filter fun i => !i.isPullRequest) o v → Does v (GitHub.issues owner name since) o v := by
    intro o ho
    refine .logging ?_ _ _
    refine (does_place rfl).bind ((does_place rfl).bind ?_)
    refine .get_bind fun w hw => ?_
    rw [hw.source]
    exact ho
  unfold Source.listing
  cases h : GitHub.readAll GitHub.Issue.listed
      ((v.source.issues.lookup (GitHub.fullName owner name)).getD []) with
  | error f =>
    rw [h] at hread hissues
    exact ⟨.error f, hissues _ hread.bind_error, rfl⟩
  | ok all =>
    rw [h] at hread hissues
    exact ⟨_, hissues _ (hread.bind (.pure _)), rfl⟩

theorem idle_insertRow (e : JournalEntry) : Idle (insertRow e) :=
  (Idle.place rfl).bind fun _ => (Idle.modifyTables _).bind fun _ => Idle.get.bind fun _ =>
    (Idle.ofExcept _).bind fun row => .modifyTables (·.tables.append row)

theorem does_journal (v : Scene) (b : Bridge) (e : JournalEntry) : Does v (b.journal e) (.ok ()) v := by
  unfold Bridge.journal
  split
  · exact (does_place rfl).bind ((idle_insertRow e).contain _ _ v)
  · exact .pure _

theorem does_reportRepository (v : Scene) (b : Bridge) (name : String) (issues : Nat) :
    Does v (b.reportRepository name issues) (.ok ()) v := by
  refine .get_bind fun w hw => ?_
  dsimp only
  split
  · exact does_journal v b _
  · exact does_journal v b _

theorem does_ensureAll (hv : Ready src v) (name : String) (repo : Repo) (issues : List GitHub.Issue) :
    Does v (issues.forM (b.ensureTicket name repo)) (.ok ())
        (issues.foldl (fun v i => b.ensured repo i v) v) ∧
      Ready src (issues.foldl (fun v i => b.ensured repo i v) v) :=
  does_foldl (fun i _ v hv => ⟨does_ensureTicket v name repo i, (durable_ready src).ensured hv⟩) hv

theorem does_syncEach (hv : Ready src v) (since : Time.Timestamp) (issues : List GitHub.Issue) :
    Does v (issues.forM (b.syncIssue name repo since)) (.ok ())
        (issues.foldl (fun v i => b.synced name repo i v) v) ∧
      Ready src (issues.foldl (fun v i => b.synced name repo i v) v) :=
  does_foldl (fun _ _ _ hv => ⟨does_syncIssue hv.2 since, (durable_ready src).synced hv⟩) hv

theorem does_updateAll (hv : Ready src v) (since : Time.Timestamp) (issues : List GitHub.Issue) :
    Does v (b.updateAll name repo since issues) (.ok ())
      (issues.foldl (fun v i => b.synced name repo i v) v) := by
  unfold updateAll
  cases issues with
  | nil => exact .pure _
  | cons i issues => exact (does_place rfl).bind (does_syncEach hv since _).1

theorem does_syncRepository (hv : Ready src v) (since : Time.Timestamp) (name : String) (repo : Repo) :
    Does v (b.syncRepository since name repo) (.ok ()) (b.visited src name repo v) ∧
      Ready src (b.visited src name repo v) := by
  obtain ⟨hensure, hready⟩ := does_ensureAll (b := b) hv name repo
    (src.listing repo.owner name)
  refine ⟨(Does.modifyTally _).bind ?_, (does_syncEach hready since _).2⟩
  obtain ⟨o, ho, hlisting⟩ := does_issues v repo.owner name (some since)
  refine ho.observe.bind ?_
  rw [hv.1] at hlisting
  cases o with
  | error f =>
    have hnone : b.visited src name repo v = v := by
      unfold visited
      rw [hlisting]
      rfl
    rw [hnone]
    exact (Does.say _ _).bind ((does_recordError _ _ _).bind (does_journal v b _))
  | ok issues =>
    have hissues : src.listing repo.owner name = issues := hlisting
    rw [hissues] at hensure hready
    unfold visited
    rw [hissues]
    exact (Does.modifyTally _).bind (hensure.bind
      ((does_updateAll hready since issues).bind (does_reportRepository _ b name _)))

theorem does_syncRepositories (since : Time.Timestamp) : ∀ (repos : Table Repo) {v : Scene},
    Ready src v → Does v (b.syncRepositories since repos) (.ok [])
      (repos.foldl (fun v p => b.visited src p.1 p.2 v) v)
  | [], _, _ => .pure _
  | (name, repo) :: repos, v, hv => by
    obtain ⟨hfirst, hready⟩ := does_syncRepository (b := b) hv since name repo
    exact hfirst.observe.bind (does_syncRepositories since repos hready)

theorem does_syncConfigured (hv : Ready src v) (since : Time.Timestamp) :
    Does v (b.syncConfigured since) (.ok ()) (b.passed src v) := by
  unfold syncConfigured passed
  dsimp only
  split
  · exact (does_place rfl).bind ((does_syncRepositories since _ hv).bind (.pure _))
  · rename_i hrepos
    have hnil : b.settings.repos = [] := by simpa using hrepos
    rw [hnil]
    exact .pure _

theorem idle_read : Idle Watermark.read :=
  (Idle.place rfl).bind fun _ => Idle.get.bind fun w => by
    split
    · exact .pure _
    · split
      · exact .pure _
      · exact (Idle.say _ _).bind fun _ => .pure _

theorem idle_startPass (b : Bridge) : Idle b.startPass := by
  have hsince : Idle (Watermark.since b.settings.useWatermark) :=
    Idle.get.bind fun _ => (Idle.ofExcept _).bind fun _ => by
      split
      · exact .pure _
      · refine idle_read.bind fun last => ?_
        cases last with
        | none => exact .pure _
        | some t => exact (Idle.ofExcept _).bind fun _ => .ofExcept _
  exact (Idle.modifyTally _).bind fun _ => hsince.bind fun _ => (Idle.say _ _).bind fun _ => .pure _

theorem idle_endPass : Idle endPass := by
  have hstore : ∀ t, Idle (Watermark.store t) := fun t =>
    (Idle.ofExcept _).bind fun _ => (Idle.place rfl).bind fun _ => .modifyTables _
  refine Idle.get.bind fun w => ?_
  refine Idle.bind (fun v => ?_) fun _ => Idle.get.bind fun _ => (Idle.say _ _).bind fun _ => .pure _
  exact ((does_place rfl).bind ((hstore w.clock).contain _ _ v)).leaves

/-- The pass was neither skipped nor given up before it began. -/
def Ran (b : Bridge) (w : World) : Prop := ∃ t, outcome b.syncAll w = .ok t ∧ t.skipped = false

variable {w : World}

theorem ran_of_toOption (h : (outcome b.syncAll w).toOption.map (·.skipped) = some false) : b.Ran w := by
  obtain ⟨t, ht, hskipped⟩ := Option.map_eq_some_iff.mp h
  exact ⟨t, eq_ok_of_toOption ht, hskipped⟩

/-- A pass leads to the scene after it, or it fails before it changes anything. -/
theorem shows_pass (hw : w.Shows v) (hv : Ready src v) :
    (after b.pass w).Shows (b.passed src v) ∨
      (after b.pass w).Shows v ∧ ∃ e, outcome b.pass w = .error e := by
  have hstart := idle_startPass b v w hw
  unfold pass
  cases hs : outcome b.startPass w with
  | error e =>
    rw [after_bind_error hs, outcome_bind_error hs]
    exact .inr ⟨hstart, e, rfl⟩
  | ok since =>
    rw [after_bind_ok hs]
    exact .inl (Leaves.bind (does_syncConfigured hv since) (idle_endPass _) _ hstart)

theorem ready_scene (hk : w.store.Keyed) : Ready w.source w.scene := ⟨rfl, hk⟩

theorem shows_syncAll (hw : w.Calm) (hk : w.store.Keyed) :
    (after b.syncAll w).Shows (b.passed w.source w.scene) ∨
      (after b.syncAll w).Shows w.scene ∧ ¬ b.Ran w := by
  have hshows : World.Shows { w with busy := true } w.scene := ⟨hw, rfl⟩
  cases hb : w.busy with
  | true =>
    obtain ⟨ho, hs⟩ := syncAll_of_busy hb b
    have hskipped : ¬ b.Ran w := by
      rintro ⟨t, ht, hrun⟩
      rw [ho, Except.ok.injEq] at ht
      rw [← ht] at hrun
      cases hrun
    have hafter : after b.syncAll w = after (Step.info "Reconciliation already running, skipping") w := by
      unfold syncAll
      rw [after_bind_ok (outcome_get w), after_get, if_pos hb]
      exact after_bind_pure ..
    rw [hafter]
    exact .inr ⟨⟨hw, rfl⟩, hskipped⟩
  | false =>
    obtain ⟨ho, ha⟩ := syncAll_of_not_busy hb b
    rw [ha]
    rcases shows_pass (b := b) hshows (ready_scene hk) with hpass | ⟨hpass, e, he⟩
    · exact .inl ⟨hpass.calm, hpass.scene⟩
    · refine .inr ⟨⟨hpass.calm, hpass.scene⟩, ?_⟩
      rintro ⟨t, ht, -⟩
      rw [ho, he] at ht
      cases ht

theorem shows_of_ran (hw : w.Calm) (hk : w.store.Keyed) (hran : b.Ran w) :
    (after b.syncAll w).Shows (b.passed w.source w.scene) :=
  (shows_syncAll hw hk).resolve_right fun h => h.2 hran

end Passing

end Bridge

end IssueBridge
