import IssueBridge.Proofs.Bridge.Event
import IssueBridge.Proofs.Tracker.Work

/-! # What the trackers are asked

The handlers ask the tracker alone. A pass asks both sides, and lists nothing but what changed since the start of
its window; besides it keeps its books.
-/

namespace IssueBridge

open Step Tracker

namespace Call

def Discusses (since : Time.Timestamp) : Call → Prop
  | .repository _ lazy => lazy = true
  | .issue _ => True
  | .listComments _ start => start = some since.withZone
  | c => c.isWork = true

/-- A pass whose window starts at the given time may ask for this. The database is left to its books. -/
def Within (since : Time.Timestamp) : Call → Prop
  | .listIssues _ start => start = some since.withZone
  | .listComments _ start => start = some since.withZone
  | c => c.isInternal = false

variable {since : Time.Timestamp} {c : Call}

theorem discusses_of_isWork (h : c.isWork = true) : c.Discusses since := by
  cases c <;> first | exact h | cases h

theorem Discusses.within (h : c.Discusses since) : c.Within since := by
  cases c <;> first | exact h | rfl | cases h

theorem within_of_isTrackers (h : c.isTrackers = true) : c.Within since := by
  cases c <;> first | rfl | cases h

theorem Within.ne_commit (h : c.Within since) : c ≠ .commit := by
  rintro rfl
  cases h

end Call

section Tickets

variable {α : Type} {r : TicketRef} {x : Step α}

theorem labours_view (r : TicketRef) : Labours (Bridge.view r) :=
  Works.look (fun s _ => (s.ticket? r).getD ⟨.missing, .missing, .missing, []⟩) pure .pure

theorem Edits.labours {names : List String} (h : Edits names r α x) : Labours x := by
  cases h with
  | view => exact labours_view r
  | update _ => exact labours_update r _
  | transition step _ => exact labours_transition r step

theorem Editing.labours {names : List String} (h : Editing names r x) : Labours x :=
  Composed.flatten h fun _ _ => Edits.labours

theorem Making.labours (h : Making x) : Labours x := by
  refine Composed.flatten h fun α x hx => ?_
  cases hx with
  | create fs => exact labours_create fs
  | edit h => exact h.labours

end Tickets

namespace Bridge

variable {b : Bridge} {name : String} {repo : Repo} {since : Time.Timestamp} {i : GitHub.Issue}

section Comments

theorem labours_threadOf (r : TicketRef) : Labours (threadOf r) :=
  (labours_ticket r).seq fun _ => labours_part _

theorem labours_findComment (thread : ThreadId) (id : Int) : Labours (findComment thread id) :=
  (labours_comments thread).seq fun comments => .seq (.ofExcept _) fun found => by
    cases found with
    | none => exact .throw _
    | some c => exact .pure c

theorem labours_putComment (r : TicketRef) (body : String) : ∀ old : Option CommentRef,
    Labours (putComment r body old)
  | some old => labours_updateComment old body
  | none => (labours_threadOf r).seq fun thread => (labours_addComment thread body).discard

theorem labours_writeComment (b : Bridge) (r : TicketRef) (existing : List CommentRef) (c : GitHub.Comment) :
    Labours (b.writeComment r existing c) :=
  .seq (.ofLogged (b.blind_commentBody c)) fun body => .seq (.ofExcept _) fun old =>
    (labours_putComment r body old).contain _ _

theorem labours_deleteIfSynced (c : CommentRef) : Labours (deleteIfSynced c) := by
  refine .seq (.ofExcept _) fun token => ?_
  split
  · exact (labours_deleteComment c).contain _ _
  · exact .pure _

theorem works_githubComments (owner name : String) (number : Int) (since : Time.Timestamp) :
    Works (Call.Discusses since) (GitHub.comments owner name number (some since)) := by
  have hplace : ∀ {c : Call}, c.Discusses since → Works (Call.Discusses since) (place c) := Works.place
  refine .logging (.seq (hplace (c := .repository ..) rfl) fun _ => .seq (hplace (c := .issue _) trivial) fun _ =>
    .seq (hplace (c := .listComments ..) rfl) fun _ => ?_) _ _
  exact Works.look
    (fun _ src => (src.comments.lookup (GitHub.fullName owner name ++ "#" ++ toString number)).getD [])
    (fun records => Step.ofExcept (GitHub.readAll GitHub.Comment.listed records)) fun _ => .ofExcept _

theorem works_syncComments (b : Bridge) (r : TicketRef) (i : GitHub.Issue) (name : String) (repo : Repo)
    (since : Time.Timestamp) : Works (Call.Discusses since) (b.syncComments r i name repo since) := by
  have hlabours : ∀ {α : Type} {x : Step α}, Labours x → Works (Call.Discusses since) x :=
    fun h => Works.mono h fun _ => Call.discusses_of_isWork
  refine .seq (hlabours (labours_threadOf r)) fun thread =>
    .seq (hlabours (labours_comments thread)) fun existing => ?_
  split
  · exact .forM fun c _ => hlabours (labours_deleteIfSynced c)
  · exact (works_githubComments ..).seq fun comments =>
      .forM fun c _ => hlabours (labours_writeComment b r existing c)

end Comments

section Handlers

theorem tracks_findIssue (b : Bridge) (project : String) (id : Int) : Tracks (b.findIssue project id) :=
  (tracks_search _).seq fun refs => by
    match refs with
    | [] => exact .throw _
    | [r] => exact .pure r
    | r :: r' :: refs =>
      exact Works.look (fun s _ => keys s (r :: r' :: refs)) (fun names => do
        Step.error (s!"Data integrity: GitHub issue {id} maps to several JIRA issues: " ++
          (Value.arr (names.map fun k => (k.map Value.str).getD .null)).shown)
        throw (ambiguity project id names)) fun names => .seq (.say _ _) fun _ => .throw _

theorem tracks_findAfter (b : Bridge) (project : String) (id : Int) : ∀ left k : Nat,
    Tracks (b.findAfter project id k left)
  | 0, _ => tracks_findIssue b project id
  | left + 1, k => by
    refine .seq (.observe (tracks_findIssue b project id)) fun o => ?_
    split
    · exact .pure _
    · exact .seq (.ofExcept _) fun _ => .seq (tracks_place rfl) fun _ => tracks_findAfter b project id left (k + 1)
    · exact .throw _

theorem tracks_finder (b : Bridge) (a : IssueAction) (i : GitHub.Issue) (repo : Repo) :
    Tracks (b.finder a i repo) := by
  unfold finder
  split
  · exact tracks_findAfter b _ _ _ 0
  · exact tracks_findIssue b _ _

theorem tracks_handleIssue (b : Bridge) (a : IssueAction) (e : GitHub.IssueEvent) (repo : Repo) :
    Tracks (b.handleIssue a e repo) := by
  by_cases ha : a = .opened
  · subst ha
    exact ((making_opened b e.issue repo).labours.tracks).map _
  · obtain ⟨f, hf, hedits⟩ := editsFound_handleIssue (b := b) ha e
    rw [hf]
    exact (tracks_finder b a e.issue repo).seq fun r => (hedits r).labours.tracks

theorem tracks_handleComment (b : Bridge) (a : CommentAction) (e : GitHub.CommentEvent) (repo : Repo) :
    Tracks (b.handleComment a e repo) := by
  have hfind := tracks_findIssue b repo.project e.issue.id
  have hthread := fun r => (labours_threadOf r).tracks
  have hcomment := fun thread => (labours_findComment thread e.comment.id).tracks
  have hbody : Tracks (Step.ofLogged (b.commentBody e.comment)) := .ofLogged (b.blind_commentBody _)
  cases a with
  | created =>
    exact Composed.map (hfind.seq fun r => hbody.seq fun body => (hthread r).seq fun thread =>
      (labours_addComment thread body).tracks) _
  | edited =>
    exact Composed.map (hfind.seq fun r => (hthread r).seq fun thread => (hcomment thread).seq fun c =>
      hbody.seq fun body => (labours_updateComment c body).tracks.seq fun _ => .pure c) _
  | deleted =>
    exact Composed.seq (hfind.seq fun r => (hthread r).seq fun thread => (hcomment thread).seq fun c =>
      (labours_deleteComment c).tracks) fun _ => .pure _

/-- Whatever handles an event works on the tracker and does nothing else. -/
theorem tracks_handler {e : Event} {handler : Repo → Step Unit} (h : e.handler? b = some handler) (repo : Repo) :
    Tracks (handler repo) := by
  cases e with
  | issue e =>
    obtain ⟨a, -, rfl⟩ := Option.map_eq_some_iff.mp h
    exact (tracks_handleIssue b a e repo).discard
  | comment e =>
    obtain ⟨a, -, rfl⟩ := Option.map_eq_some_iff.mp h
    exact (tracks_handleComment b a e repo).discard

end Handlers

section Passes

/-- The step is part of a pass whose window starts at the given time. -/
abbrev PassStep (since : Time.Timestamp) {α : Type} (x : Step α) : Prop := Keeping (Call.Within since) x

theorem passStep_of_tracks {α : Type} {x : Step α} (h : Tracks x) : PassStep since x :=
  Works.keeping (Works.mono h fun _ => Call.within_of_isTrackers)

theorem passStep_pool (workers : Int) (name : String) : PassStep since (place (.pool workers name)) :=
  Works.keeping (Works.place rfl)

theorem passStep_count (key : String) (n : Int) : PassStep since (count key n) := Keeping.modifyTally _

theorem passStep_recordError (repository : String) (issue : Option Int) (f : Failure) :
    PassStep since (recordError repository issue f) :=
  Keeping.modifyTally _

theorem passStep_journal (b : Bridge) (e : JournalEntry) : PassStep since (b.journal e) := by
  unfold Bridge.journal
  split
  · exact Keeping.journal e
  · exact .pure _

theorem passStep_githubIssues (owner name : String) (since : Time.Timestamp) :
    PassStep since (GitHub.issues owner name (some since)) := by
  have hplace : ∀ {c : Call}, c.Within since → Works (Call.Within since) (place c) := Works.place
  refine Works.keeping (.logging (.seq (hplace (c := .repository ..) rfl) fun _ =>
    .seq (hplace (c := .listIssues ..) rfl) fun _ => ?_) _ _)
  exact Works.look (fun _ src => (src.issues.lookup (GitHub.fullName owner name)).getD [])
    (fun records => do
      let all ← Step.ofExcept (GitHub.readAll GitHub.Issue.listed records)
      return all.filter fun i => !i.isPullRequest) fun _ => .seq (.ofExcept _) fun _ => .pure _

theorem passStep_fail (text : String) (name : String) (issue : Option Int) (f : Failure) :
    PassStep since (do
      Step.error text
      recordError name issue f) :=
  .seq (.say _ _) fun _ => passStep_recordError name issue f

theorem passStep_ensureTicket (b : Bridge) (since : Time.Timestamp) (name : String) (repo : Repo)
    (i : GitHub.Issue) : PassStep since (b.ensureTicket name repo i) := by
  refine .seq (.observe (passStep_of_tracks (tracks_findIssue b repo.project i.id))) fun o => ?_
  split
  · exact .pure _
  · refine .seq (.observe (passStep_of_tracks (making_createFromSource b i repo).labours.tracks)) fun o => ?_
    cases o with
    | ok r => exact passStep_count "created" 1
    | error f => exact passStep_fail _ name (some i.number) f
  · exact passStep_fail _ name (some i.number) _

theorem passStep_bringUpToDate (b : Bridge) (name : String) (repo : Repo) (since : Time.Timestamp)
    (i : GitHub.Issue) : PassStep since (b.bringUpToDate name repo since i) :=
  (passStep_of_tracks (tracks_findIssue b repo.project i.id)).seq fun r =>
    (passStep_of_tracks (editing_updateFromSource b r i repo).labours.tracks).seq fun _ =>
      Works.keeping (Works.mono (works_syncComments b r i name repo since) fun _ => Call.Discusses.within)

theorem passStep_syncIssue (b : Bridge) (name : String) (repo : Repo) (since : Time.Timestamp)
    (i : GitHub.Issue) : PassStep since (b.syncIssue name repo since i) := by
  refine .seq (.observe (passStep_bringUpToDate b name repo since i)) fun o => ?_
  cases o with
  | ok u => exact passStep_count "updated" 1
  | error f => exact passStep_fail _ name (some i.number) f

theorem passStep_updateAll (b : Bridge) (name : String) (repo : Repo) (since : Time.Timestamp)
    (issues : List GitHub.Issue) : PassStep since (b.updateAll name repo since issues) := by
  unfold updateAll
  split
  · exact (passStep_pool _ _).seq fun _ => .forM fun i _ => passStep_syncIssue b name repo since i
  · exact .pure _

theorem passStep_reportRepository (b : Bridge) (name : String) (issues : Nat) :
    PassStep since (b.reportRepository name issues) :=
  Keeping.count (·.errorsOf name) (fun errors =>
    if errors.isEmpty then b.journalPass name .success s!"{issues} issues synced"
    else b.journalPass name .failed s!"{errors.length} of {issues} issues failed") fun errors => by
      split
      · exact passStep_journal b _
      · exact passStep_journal b _

theorem passStep_syncRepository (b : Bridge) (since : Time.Timestamp) (name : String) (repo : Repo) :
    PassStep since (b.syncRepository since name repo) := by
  refine (passStep_count _ _).seq fun _ => .seq (.observe (passStep_githubIssues repo.owner name since)) fun o => ?_
  cases o with
  | error f =>
    exact .seq (.say _ _) fun _ => (passStep_recordError name none f).seq fun _ => passStep_journal b _
  | ok issues =>
    exact (passStep_count _ _).seq fun _ => .seq (.forM fun i _ => passStep_ensureTicket b since name repo i) fun _ =>
      (passStep_updateAll b name repo since issues).seq fun _ => passStep_reportRepository b name issues.length

theorem passStep_syncRepositories (b : Bridge) (since : Time.Timestamp) : ∀ repos : Table Repo,
    PassStep since (b.syncRepositories since repos)
  | [] => .pure _
  | (name, repo) :: repos => by
    refine .seq (.observe (passStep_syncRepository b since name repo)) fun o => ?_
    cases o with
    | ok u => exact passStep_syncRepositories b since repos
    | error f => exact (passStep_syncRepositories b since repos).seq fun _ => .pure _

theorem passStep_syncConfigured (b : Bridge) (since : Time.Timestamp) : PassStep since (b.syncConfigured since) := by
  unfold syncConfigured
  dsimp only
  split
  · exact (passStep_pool _ _).seq fun _ => (passStep_syncRepositories b since _).seq fun fs =>
      .forM fun f _ => .seq (.say _ _) fun _ => passStep_recordError "?" none f
  · exact .pure _

end Passes

end Bridge

end IssueBridge
