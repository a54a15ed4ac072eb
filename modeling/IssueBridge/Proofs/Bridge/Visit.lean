import IssueBridge.Proofs.Bridge.Books

/-! # Visits to repositories

A pass visits every repository. A visit consists of what listing the issues came to, what looking for each
counterpart and bringing each up to date came to, and what writing to the journal came to. These determine the
entries of the visit in the books, whatever failed.
-/

namespace IssueBridge

open Step Tracker

/-- What became of the issues of a repository. -/
structure Visit where
  name : String
  repo : Repo
  /-- The issues that are listed, or why they are not. -/
  listed : Except Failure (List GitHub.Issue)
  /-- For each issue in turn, whether a ticket was made. -/
  ensured : List (GitHub.Issue × Except Failure Bool) := []
  /-- For each issue in turn, whether its ticket was brought up to date. -/
  updated : List (GitHub.Issue × Except Failure Unit) := []
  /-- What writing the row to the journal came to. -/
  journalled : Except Failure Unit

namespace Visit

def issues (v : Visit) : List GitHub.Issue := v.listed.toOption.getD []

def failures {α : Type} (name : String) (l : List (GitHub.Issue × Except Failure α)) : List TallyError :=
  l.filterMap fun p =>
    match p.2 with
    | .ok _ => none
    | .error f => some ⟨name, some p.1.number, f⟩

def errors (v : Visit) : List TallyError :=
  match v.listed with
  | .ok _ => failures v.name v.ensured ++ failures v.name v.updated
  | .error f => [⟨v.name, none, f⟩]

def reportEntry (name : String) (issues errors : Nat) : JournalEntry :=
  if errors = 0 then
    { status := .success, origin := .reconcile, message := s!"{issues} issues synced", repository := name }
  else
    { status := .failed, origin := .reconcile, message := s!"{errors} of {issues} issues failed"
      repository := name }

def listingEntry (name : String) (f : Failure) : JournalEntry where
  status := .failed
  origin := .reconcile
  message := "Listing issues failed: " ++ f.message
  repository := name

/-- The row that the visit is to write. -/
def entry (v : Visit) : JournalEntry :=
  match v.listed with
  | .ok issues => reportEntry v.name issues.length v.errors.length
  | .error f => listingEntry v.name f

theorem entry_status (v : Visit) : v.entry.status = if v.errors = [] then .success else .failed := by
  unfold entry
  split
  · unfold reportEntry
    by_cases h : v.errors = []
    · rw [if_pos (by rw [h]; rfl), if_pos h]
    · rw [if_neg (by simpa using h), if_neg h]
  · rename_i f hf
    have h : v.errors ≠ [] := by
      unfold errors
      rw [hf]
      exact List.cons_ne_nil _ _
    rw [if_neg h]
    rfl

def lookDeed (b : Bridge) (repo : Repo) (i : GitHub.Issue) : Deed :=
  .call (.search (Bridge.query b.fieldIds repo.project i.id).text)

def failDeed (name : String) (i : GitHub.Issue) (f : Failure) : Deed := .error ⟨name, some i.number, f⟩

/-- What a task for an issue enters in the books at its end: a count, an error or nothing. -/
def endDeeds {α : Type} (name : String) (credit : α → Option String) (i : GitHub.Issue) :
    Except Failure α → List Deed
  | .ok a => (credit a).toList.map (.count · 1)
  | .error f => [failDeed name i f]

/-- What a task for an issue enters in the books. It starts with a search. -/
def taskDeeds {α : Type} (b : Bridge) (name : String) (repo : Repo) (credit : α → Option String)
    (p : GitHub.Issue × Except Failure α) : List Deed :=
  lookDeed b repo p.1 :: endDeeds name credit p.1 p.2

def ensuredCredit (made : Bool) : Option String := if made then some "created" else none

def updatedCredit (_ : Unit) : Option String := some "updated"

def deeds (b : Bridge) (v : Visit) : List Deed :=
  .count "repositories" 1 :: .call (.repository (GitHub.fullName v.repo.owner v.name) false) ::
    ((match v.listed with
      | .ok issues =>
        .count "issues" issues.length ::
          (v.ensured.flatMap (taskDeeds b v.name v.repo ensuredCredit) ++
            v.updated.flatMap (taskDeeds b v.name v.repo updatedCredit))
      | .error f => [.error ⟨v.name, none, f⟩]) ++ Bridge.rowDeeds v.entry v.journalled)

variable {b : Bridge} {v : Visit}

theorem deeds_of_listed {issues : List GitHub.Issue} (h : v.listed = .ok issues) : v.deeds b =
    .count "repositories" 1 :: .call (.repository (GitHub.fullName v.repo.owner v.name) false) ::
      (.count "issues" issues.length ::
        (v.ensured.flatMap (taskDeeds b v.name v.repo ensuredCredit) ++
            v.updated.flatMap (taskDeeds b v.name v.repo updatedCredit)) ++
          Bridge.rowDeeds v.entry v.journalled) := by
  unfold deeds
  rw [h]

theorem deeds_of_unlisted {f : Failure} (h : v.listed = .error f) : v.deeds b =
    .count "repositories" 1 :: .call (.repository (GitHub.fullName v.repo.owner v.name) false) ::
      .error ⟨v.name, none, f⟩ :: Bridge.rowDeeds v.entry v.journalled := by
  unfold deeds
  rw [h]
  rfl

theorem errors_of_listed {issues : List GitHub.Issue} (h : v.listed = .ok issues) :
    v.errors = failures v.name v.ensured ++ failures v.name v.updated := by
  unfold errors
  rw [h]

theorem errors_of_unlisted {f : Failure} (h : v.listed = .error f) : v.errors = [⟨v.name, none, f⟩] := by
  unfold errors
  rw [h]

/-- Every issue that is listed was looked for and brought up to date once, and a row was written unless its commit
failed or the calendar ends before the time of the last of so many rows. -/
structure Thorough (faults : Faults) (clock : Time.Timestamp) (rows : Nat) (v : Visit) : Prop where
  ensured : v.ensured.map (·.1) = v.issues
  updated : v.updated.map (·.1) = v.issues
  journalled : ∀ f, v.journalled = .error f →
    (∃ history, faults history .commit = .failed f) ∨ f = .dateOutOfRange ∧ ¬ clock.Lasts rows

theorem Thorough.mono {faults : Faults} {clock : Time.Timestamp} {m n : Nat} (h : v.Thorough faults clock m)
    (hmn : m ≤ n) : v.Thorough faults clock n where
  ensured := h.ensured
  updated := h.updated
  journalled f hf := (h.journalled f hf).imp id fun hlate => ⟨hlate.1, fun hlasts => hlate.2 (hlasts.anti hmn)⟩

theorem issues_of_listed {issues : List GitHub.Issue} (h : v.listed = .ok issues) : v.issues = issues := by
  unfold Visit.issues
  rw [h]
  rfl

theorem issues_of_unlisted {f : Failure} (h : v.listed = .error f) : v.issues = [] := by
  unfold Visit.issues
  rw [h]
  rfl

end Visit

namespace Bridge

variable {b : Bridge} {name : String} {repo : Repo} {since : Time.Timestamp} {i : GitHub.Issue} {w : World}

/-- What looking for the counterpart of an issue comes to: whether a ticket was made. -/
def ensureOutcome (b : Bridge) (repo : Repo) (i : GitHub.Issue) (w : World) : Except Failure Bool :=
  match outcome (b.findIssue repo.project i.id) w with
  | .ok _ => .ok false
  | .error (.issueNotFound ..) =>
    (outcome (b.createFromSource i repo) (after (b.findIssue repo.project i.id) w)).map fun _ => true
  | .error f => .error f

def worked (b : Bridge) (since : Time.Timestamp) (name : String) (repo : Repo) (issues : List GitHub.Issue)
    (w : World) : World :=
  after (b.updateAll name repo since issues)
    (after (issues.forM (b.ensureTicket name repo)) (after (count "issues" issues.length) w))

def visitListed (b : Bridge) (since : Time.Timestamp) (name : String) (repo : Repo) (issues : List GitHub.Issue)
    (w : World) : Visit :=
  let start := after (count "issues" issues.length) w
  let ensured := after (issues.forM (b.ensureTicket name repo)) start
  let hired := after (place (.pool (b.workers issues.length) ("sync-" ++ name))) ensured
  let last := b.worked since name repo issues w
  { name, repo, listed := .ok issues
    ensured := (starts (b.ensureTicket name repo) issues start).map fun p => (p.1, b.ensureOutcome repo p.1 p.2)
    updated := (starts (b.syncIssue name repo since) issues hired).map fun p =>
      (p.1, outcome (b.bringUpToDate name repo since p.1) p.2)
    journalled := rowOutcome (Visit.reportEntry name issues.length (last.tally.errorsOf name).length) last }

/-- The visit to a repository. -/
def visit (b : Bridge) (since : Time.Timestamp) (name : String) (repo : Repo) (w : World) : Visit :=
  let list := GitHub.issues repo.owner name (some since)
  let counted := after (count "repositories" 1) w
  match outcome list counted with
  | .ok issues => b.visitListed since name repo issues (after list counted)
  | .error f =>
    { name, repo, listed := .error f
      journalled := rowOutcome (Visit.listingEntry name f) (after (recordError name none f)
        (after (Step.error ("getGithubIssuesByRepo error occur of " ++ name ++ ": " ++ f.message))
          (after list counted))) }

theorem visit_of_listed {issues : List GitHub.Issue} (h : outcome (GitHub.issues repo.owner name (some since))
    (after (count "repositories" 1) w) = .ok issues) :
    b.visit since name repo w = b.visitListed since name repo issues
      (after (GitHub.issues repo.owner name (some since)) (after (count "repositories" 1) w)) := by
  unfold visit
  dsimp only
  rw [h]

theorem visit_of_unlisted {f : Failure} (h : outcome (GitHub.issues repo.owner name (some since))
    (after (count "repositories" 1) w) = .error f) :
    b.visit since name repo w =
      { name, repo, listed := .error f
        journalled := rowOutcome (Visit.listingEntry name f) (after (recordError name none f)
          (after (Step.error ("getGithubIssuesByRepo error occur of " ++ name ++ ": " ++ f.message))
            (after (GitHub.issues repo.owner name (some since)) (after (count "repositories" 1) w)))) } := by
  unfold visit
  dsimp only
  rw [h]

def visitsOf (b : Bridge) (since : Time.Timestamp) : Table Repo → World → List Visit
  | [], _ => []
  | (name, repo) :: rest, w =>
    b.visit since name repo w :: b.visitsOf since rest (after (b.syncRepository since name repo) w)

section Steps

theorem enters_ensureTicket (b : Bridge) (name : String) (repo : Repo) (i : GitHub.Issue) (w : World) :
    Enters (b.ensureTicket name repo i) w
      (Visit.taskDeeds b name repo Visit.ensuredCredit (i, b.ensureOutcome repo i w)) := by
  unfold ensureTicket
  show Enters _ w ([Visit.lookDeed b repo i] ++ Visit.endDeeds name Visit.ensuredCredit i (b.ensureOutcome repo i w))
  refine (enters_findIssue b repo.project i.id w).observe_bind ?_
  unfold ensureOutcome
  cases outcome (b.findIssue repo.project i.id) w with
  | ok r => exact Plain.pure () _
  | error f =>
    cases f with
    | issueNotFound project id =>
      refine (making_createFromSource b i repo).plain.seq_observe ?_
      dsimp only
      cases outcome (b.createFromSource i repo) (after (b.findIssue repo.project i.id) w) with
      | ok r => exact .count "created" 1 _
      | error f => exact .recordError name (some i.number) f _
    | _ => exact .recordError name (some i.number) _ _

theorem enters_syncIssue (b : Bridge) (name : String) (repo : Repo) (since : Time.Timestamp) (i : GitHub.Issue)
    (w : World) : Enters (b.syncIssue name repo since i) w
      (Visit.taskDeeds b name repo Visit.updatedCredit (i, outcome (b.bringUpToDate name repo since i) w)) := by
  have hbring : Enters (b.bringUpToDate name repo since i) w [Visit.lookDeed b repo i] :=
    (enters_findIssue b repo.project i.id w).bind_plain fun r =>
      (editing_updateFromSource b r i repo).making.plain.bind fun _ => plain_syncComments b r i name repo since
  unfold syncIssue
  show Enters _ w ([Visit.lookDeed b repo i] ++
    Visit.endDeeds name Visit.updatedCredit i (outcome (b.bringUpToDate name repo since i) w))
  refine hbring.observe_bind ?_
  cases outcome (b.bringUpToDate name repo since i) w with
  | ok u => exact .count "updated" 1 _
  | error f => exact .recordError name (some i.number) f _

theorem enters_ensureAll (b : Bridge) (name : String) (repo : Repo) (issues : List GitHub.Issue) (w : World) :
    Enters (issues.forM (b.ensureTicket name repo)) w
      (((starts (b.ensureTicket name repo) issues w).map fun p => (p.1, b.ensureOutcome repo p.1 p.2)).flatMap
        (Visit.taskDeeds b name repo Visit.ensuredCredit)) := by
  rw [List.flatMap_map]
  exact Enters.forM (fun i _ => outcome_ensureTicket b name repo i)
    (fun i _ => enters_ensureTicket b name repo i) w

theorem enters_syncEach (b : Bridge) (name : String) (repo : Repo) (since : Time.Timestamp)
    (issues : List GitHub.Issue) (w : World) : Enters (issues.forM (b.syncIssue name repo since)) w
      (((starts (b.syncIssue name repo since) issues w).map fun p =>
        (p.1, outcome (b.bringUpToDate name repo since p.1) p.2)).flatMap
          (Visit.taskDeeds b name repo Visit.updatedCredit)) := by
  rw [List.flatMap_map]
  exact Enters.forM (fun i _ => outcome_syncIssue b name repo since i)
    (fun i _ => enters_syncIssue b name repo since i) w

theorem enters_updateAll (hf : w.faults.Lenient) (b : Bridge) (name : String) (repo : Repo)
    (since : Time.Timestamp) (issues : List GitHub.Issue) :
    outcome (b.updateAll name repo since issues) w = .ok () ∧
      Enters (b.updateAll name repo since issues) w
        (((starts (b.syncIssue name repo since) issues
            (after (place (.pool (b.workers issues.length) ("sync-" ++ name))) w)).map fun p =>
          (p.1, outcome (b.bringUpToDate name repo since p.1) p.2)).flatMap
            (Visit.taskDeeds b name repo Visit.updatedCredit)) := by
  cases issues with
  | nil => exact ⟨rfl, rfl⟩
  | cons i issues =>
    obtain ⟨served, hpool⟩ := outcome_place_answered (w := w)
      (c := .pool (b.workers (i :: issues).length) ("sync-" ++ name)) (hf.pool _ _ _)
    unfold updateAll
    rw [if_pos (by rfl), outcome_bind_ok hpool]
    refine ⟨outcome_forM (fun i _ => outcome_syncIssue b name repo since i) _, ?_⟩
    exact (Plain.place rfl).seq hpool (enters_syncEach b name repo since _ _)

end Steps

section Visiting

/-- What was recorded for a repository is what its visit met, if nothing was recorded for it before. -/
theorem errorsOf_eq {t : Tally} {es : List TallyError} (hfresh : ∀ e ∈ t.errors, e.repository ≠ name)
    (hes : ∀ e ∈ es, e.repository = name) {t' : Tally} (h : t'.errors = t.errors ++ es) :
    t'.errorsOf name = es := by
  unfold Tally.errorsOf
  rw [h, List.filter_append, List.filter_eq_nil_iff.mpr fun e he => by simpa using hfresh e he,
    List.filter_eq_self.mpr fun e he => by simpa using hes e he]
  rfl

theorem repository_of_failures {α : Type} {l : List (GitHub.Issue × Except Failure α)} :
    ∀ e ∈ Visit.failures name l, e.repository = name := by
  intro e he
  obtain ⟨p, -, hp⟩ := List.mem_filterMap.mp he
  cases ho : p.2 with
  | ok a =>
    rw [ho] at hp
    cases hp
  | error f =>
    rw [ho] at hp
    cases hp
    rfl

theorem failures_cons {α : Type} (name : String) (i : GitHub.Issue) (o : Except Failure α)
    (l : List (GitHub.Issue × Except Failure α)) : Visit.failures name ((i, o) :: l) =
      match o with
      | .ok _ => Visit.failures name l
      | .error f => ⟨name, some i.number, f⟩ :: Visit.failures name l := by
  unfold Visit.failures
  cases o <;> rfl

theorem error?_counts (keys : List String) : (keys.map (Deed.count · 1)).filterMap Deed.error? = [] := by
  rw [List.filterMap_map]
  exact List.filterMap_eq_nil_iff.mpr fun _ _ => rfl

theorem error?_taskDeeds {α : Type} (b : Bridge) (name : String) (repo : Repo) (credit : α → Option String) :
    ∀ l, (List.flatMap (Visit.taskDeeds b name repo credit) l).filterMap Deed.error? = Visit.failures name l
  | [] => rfl
  | (i, o) :: l => by
    rw [List.flatMap_cons, List.filterMap_append, error?_taskDeeds b name repo credit l, failures_cons]
    cases o with
    | ok a => exact congrArg (· ++ Visit.failures name l) (error?_counts (credit a).toList)
    | error f => rfl

theorem commits_taskDeeds {α : Type} (b : Bridge) (name : String) (repo : Repo) (credit : α → Option String)
    (l : List (GitHub.Issue × Except Failure α)) :
    (l.flatMap (Visit.taskDeeds b name repo credit)).countP Deed.isCommit = 0 := by
  refine List.countP_eq_zero.mpr fun d hd => ?_
  obtain ⟨⟨i, o⟩, -, hd⟩ := List.mem_flatMap.mp hd
  rcases List.mem_cons.mp hd with rfl | hd
  · exact Bool.false_ne_true
  cases o with
  | ok a =>
    obtain ⟨key, -, rfl⟩ := List.mem_map.mp hd
    exact Bool.false_ne_true
  | error f =>
    rw [List.mem_singleton.mp hd]
    exact Bool.false_ne_true

theorem reportRepository_eq (b : Bridge) (name : String) (issues : Nat) : b.reportRepository name issues =
    get >>= fun w => b.journal (Visit.reportEntry name issues (w.tally.errorsOf name).length) := by
  unfold reportRepository
  congr 1
  funext w
  dsimp only
  cases w.tally.errorsOf name <;> rfl

theorem enters_reportRepository (hb : b.journaling = true) (hf : w.faults.Lenient) (name : String)
    (issues : Nat) {e : JournalEntry}
    (he : e = Visit.reportEntry name issues (w.tally.errorsOf name).length) :
    outcome (b.reportRepository name issues) w = .ok () ∧
      Enters (b.reportRepository name issues) w (rowDeeds e (rowOutcome e w)) := by
  obtain ⟨ho, hrow⟩ := enters_journal hb hf e
  subst he
  rw [reportRepository_eq]
  exact ⟨(outcome_bind_ok (outcome_get w)).trans ho, Plain.get.seq (outcome_get w) hrow⟩

theorem faults_of_enters {α : Type} {x : Step α} {ds : List Deed} (h : Enters x w ds) :
    (after x w).faults = w.faults := by
  have hfaults : (after x w).books.faults = w.books.faults := by
    rw [h]
    exact Books.faults_enterAll _ _
  exact hfaults

theorem clock_of_enters {α : Type} {x : Step α} {ds : List Deed} (h : Enters x w ds) :
    (after x w).clock = w.clock := by
  have hclock : (after x w).books.clock = w.books.clock := by
    rw [h]
    exact Books.clock_enterAll _ _
  exact hclock

theorem lenient_of_enters {α : Type} {x : Step α} {ds : List Deed} (h : Enters x w ds)
    (hf : w.faults.Lenient) : (after x w).faults.Lenient :=
  faults_of_enters h ▸ hf

theorem errors_of_enters {α : Type} {x : Step α} {ds : List Deed} (h : Enters x w ds) :
    (after x w).tally.errors = w.tally.errors ++ ds.filterMap Deed.error? := by
  have herrors : (after x w).books.tally.errors = w.tally.errors ++ ds.filterMap Deed.error? := by
    rw [h]
    exact Books.errors_enterAll _ _
  exact herrors

theorem count_of_enters {α : Type} {x : Step α} {ds : List Deed} (h : Enters x w ds) (key : String) :
    (after x w).tally.count key = w.tally.count key + Deed.total key ds := by
  have hcount : (after x w).books.tally.count key = w.tally.count key + Deed.total key ds := by
    rw [h]
    exact Books.count_enterAll _ key ds
  exact hcount

theorem enters_syncIssues (hb : b.journaling = true) (hf : w.faults.Lenient)
    (hfresh : ∀ e ∈ w.tally.errors, e.repository ≠ name) (since : Time.Timestamp) (repo : Repo)
    (issues : List GitHub.Issue) {v : Visit}
    (hv : v = b.visitListed since name repo issues w) :
    outcome (b.syncIssues name repo since issues) w = .ok () ∧
      Enters (b.syncIssues name repo since issues) w
        (.count "issues" issues.length :: (v.ensured.flatMap (Visit.taskDeeds b name repo Visit.ensuredCredit) ++
          v.updated.flatMap (Visit.taskDeeds b name repo Visit.updatedCredit)) ++ rowDeeds v.entry v.journalled) := by
  have hcount := Enters.count "issues" issues.length w
  have hensure := enters_ensureAll b name repo issues (after (count "issues" issues.length) w)
  have hensured := outcome_forM (l := issues) (fun i _ => outcome_ensureTicket b name repo i)
    (after (count "issues" issues.length) w)
  have hlenient := lenient_of_enters hensure (lenient_of_enters hcount hf)
  obtain ⟨hupdated, hupdate⟩ := enters_updateAll hlenient b name repo since issues
  have hcounted : (after (count "issues" issues.length) w).tally.errors = w.tally.errors := rfl
  have herrors := errors_of_enters hupdate
  rw [errors_of_enters hensure, hcounted, error?_taskDeeds, error?_taskDeeds, List.append_assoc] at herrors
  have hown : (after (b.updateAll name repo since issues) (after (issues.forM (b.ensureTicket name repo))
      (after (count "issues" issues.length) w))).tally.errorsOf name = v.errors := by
    subst hv
    refine errorsOf_eq hfresh (fun e he => ?_) herrors
    exact (List.mem_append.mp he).elim (repository_of_failures e) (repository_of_failures e)
  have hentry : v.entry = Visit.reportEntry name issues.length
      ((b.worked since name repo issues w).tally.errorsOf name).length := by
    rw [worked, hown, hv]
    rfl
  obtain ⟨hreported, hreport⟩ := enters_reportRepository hb (lenient_of_enters hupdate hlenient) name
    issues.length hentry
  have hjournalled : v.journalled = rowOutcome v.entry (b.worked since name repo issues w) := by
    rw [hentry, hv]
    rfl
  rw [← worked, ← hjournalled] at hreport
  unfold syncIssues
  constructor
  · rw [outcome_bind_ok rfl, outcome_bind_ok hensured, outcome_bind_ok hupdated]
    exact hreported
  · rw [List.cons_append, List.append_assoc]
    subst hv
    exact hcount.bind rfl (hensure.bind hensured (hupdate.bind hupdated hreport))

theorem enters_syncRepository (hb : b.journaling = true) (hf : w.faults.Lenient)
    (hfresh : ∀ e ∈ w.tally.errors, e.repository ≠ name) (since : Time.Timestamp) (repo : Repo) :
    outcome (b.syncRepository since name repo) w = .ok () ∧
      Enters (b.syncRepository since name repo) w ((b.visit since name repo w).deeds b) := by
  have hcount := Enters.count "repositories" 1 w
  have hlist := enters_githubIssues repo.owner name (some since) (after (count "repositories" 1) w)
  have hlenient := lenient_of_enters hlist (lenient_of_enters hcount hf)
  have herrors : (after (GitHub.issues repo.owner name (some since)) (after (count "repositories" 1) w)).tally.errors =
      w.tally.errors := (errors_of_enters hlist).trans (List.append_nil _)
  unfold syncRepository
  rw [outcome_bind_ok rfl, outcome_bind_ok (outcome_observe ..), after_observe]
  cases hlisted : outcome (GitHub.issues repo.owner name (some since)) (after (count "repositories" 1) w) with
  | ok issues =>
    obtain ⟨ho, he⟩ := enters_syncIssues hb hlenient
      (fun e he => hfresh e (herrors ▸ he)) since repo issues rfl
    refine ⟨ho, ?_⟩
    rw [visit_of_listed hlisted, Visit.deeds_of_listed rfl]
    refine hcount.bind rfl (hlist.observe_bind ?_)
    rw [hlisted]
    exact he
  | error f =>
    have hfail := Enters.recordError name none f (after (Step.error ("getGithubIssuesByRepo error occur of " ++
      name ++ ": " ++ f.message)) (after (GitHub.issues repo.owner name (some since))
        (after (count "repositories" 1) w)))
    obtain ⟨ho, he⟩ := enters_journal hb (lenient_of_enters hfail hlenient) (Visit.listingEntry name f)
    refine ⟨ho, ?_⟩
    rw [visit_of_unlisted hlisted, Visit.deeds_of_unlisted rfl]
    refine hcount.bind rfl (hlist.observe_bind ?_)
    rw [hlisted]
    exact (Plain.say .error _).seq rfl (hfail.bind rfl he)

theorem repository_of_errors (v : Visit) : ∀ e ∈ v.errors, e.repository = v.name := by
  intro e he
  unfold Visit.errors at he
  split at he
  · exact (List.mem_append.mp he).elim (repository_of_failures e) (repository_of_failures e)
  · rw [List.mem_singleton.mp he]

theorem name_visit (b : Bridge) (since : Time.Timestamp) (name : String) (repo : Repo) (w : World) :
    (b.visit since name repo w).name = name := by
  cases h : outcome (GitHub.issues repo.owner name (some since)) (after (count "repositories" 1) w) with
  | ok issues => rw [visit_of_listed h]; rfl
  | error f => rw [visit_of_unlisted h]

theorem repo_visit (b : Bridge) (since : Time.Timestamp) (name : String) (repo : Repo) (w : World) :
    (b.visit since name repo w).repo = repo := by
  cases h : outcome (GitHub.issues repo.owner name (some since)) (after (count "repositories" 1) w) with
  | ok issues => rw [visit_of_listed h]; rfl
  | error f => rw [visit_of_unlisted h]

/-- Going through the issues leaves the surroundings alone and tries no rows. -/
theorem worked_spec (hf : w.faults.Lenient) (b : Bridge) (since : Time.Timestamp) (name : String)
    (repo : Repo) (issues : List GitHub.Issue) : (b.worked since name repo issues w).faults = w.faults ∧
      (b.worked since name repo issues w).clock = w.clock ∧
        (b.worked since name repo issues w).tables.attempts ≤ w.tables.attempts := by
  have hcount := Enters.count "issues" issues.length w
  have hensure := enters_ensureAll b name repo issues (after (count "issues" issues.length) w)
  have hlenient := lenient_of_enters hensure (lenient_of_enters hcount hf)
  have hupdate := (enters_updateAll hlenient b name repo since issues).2
  refine ⟨(faults_of_enters hupdate).trans ((faults_of_enters hensure).trans (faults_of_enters hcount)),
    (clock_of_enters hupdate).trans ((clock_of_enters hensure).trans (clock_of_enters hcount)), ?_⟩
  have hensured := hensure.attempts_le (.forM fun i _ => passStep_ensureTicket b since name repo i)
  have hupdated := hupdate.attempts_le (passStep_updateAll b name repo since issues)
  rw [commits_taskDeeds] at hensured hupdated
  exact hupdated.trans hensured

theorem issue_reportEntry (name : String) (issues errors : Nat) :
    (Visit.reportEntry name issues errors).issue = none := by
  unfold Visit.reportEntry
  split <;> rfl

/-- A visit misses no issue, whatever failed. -/
theorem thorough_visit (hf : w.faults.Lenient) (b : Bridge) (since : Time.Timestamp) (name : String)
    (repo : Repo) : (b.visit since name repo w).Thorough w.faults w.clock (w.tables.attempts + 1) := by
  have hlist := enters_githubIssues repo.owner name (some since) (after (count "repositories" 1) w)
  have hfaults : (after (GitHub.issues repo.owner name (some since)) (after (count "repositories" 1) w)).faults =
      w.faults := faults_of_enters hlist
  have hclock : (after (GitHub.issues repo.owner name (some since)) (after (count "repositories" 1) w)).clock =
      w.clock := clock_of_enters hlist
  have hattempts : (after (GitHub.issues repo.owner name (some since))
      (after (count "repositories" 1) w)).tables.attempts ≤ w.tables.attempts :=
    hlist.attempts_le (passStep_githubIssues repo.owner name since)
  cases h : outcome (GitHub.issues repo.owner name (some since)) (after (count "repositories" 1) w) with
  | ok issues =>
    rw [visit_of_listed h, ← hfaults, ← hclock]
    generalize after (GitHub.issues repo.owner name (some since)) (after (count "repositories" 1) w) = u at *
    obtain ⟨hwfaults, hwclock, hwattempts⟩ := worked_spec (hfaults ▸ hf) b since name repo issues
    refine .mono ⟨?_, ?_, fun f hrow => ?_⟩ (Nat.succ_le_succ (hwattempts.trans hattempts))
    · show List.map _ (List.map _ _) = issues
      rw [List.map_map]
      exact map_starts (fun i _ => outcome_ensureTicket b name repo i) _
    · show List.map _ (List.map _ _) = issues
      rw [List.map_map]
      exact map_starts (fun i _ => outcome_syncIssue b name repo since i) _
    · rw [← hwfaults, ← hwclock]
      exact rowOutcome_eq_error (issue_reportEntry ..) hrow
  | error f =>
    rw [visit_of_unlisted h, ← hfaults, ← hclock]
    refine .mono ⟨rfl, rfl, fun f' hrow => ?_⟩ (Nat.succ_le_succ hattempts)
    have hmissed := rowOutcome_eq_error (e := Visit.listingEntry name f) rfl hrow
    exact hmissed

theorem error?_rowDeeds (e : JournalEntry) (o : Except Failure Unit) :
    (rowDeeds e o).filterMap Deed.error? = [] := by
  cases o <;> rfl

theorem error?_deeds (v : Visit) : (v.deeds b).filterMap Deed.error? = v.errors := by
  have hrow := error?_rowDeeds v.entry v.journalled
  cases h : v.listed with
  | ok issues =>
    rw [Visit.deeds_of_listed h, Visit.errors_of_listed h,
      ← error?_taskDeeds b v.name v.repo Visit.ensuredCredit v.ensured,
      ← error?_taskDeeds b v.name v.repo Visit.updatedCredit v.updated, ← List.filterMap_append]
    refine (List.filterMap_append ..).trans ?_
    rw [hrow, List.append_nil]
    rfl
  | error f =>
    rw [Visit.deeds_of_unlisted h, Visit.errors_of_unlisted h]
    exact congrArg (⟨v.name, none, f⟩ :: ·) hrow

theorem commits_deeds (v : Visit) : (v.deeds b).countP Deed.isCommit = 1 := by
  have hrow : (rowDeeds v.entry v.journalled).countP Deed.isCommit = 1 := by
    cases v.journalled <;> rfl
  unfold Visit.deeds
  rw [List.countP_cons_of_neg (by decide), List.countP_cons_of_neg (by simp [Deed.isCommit, Call.isCommit]),
    List.countP_append, hrow]
  cases v.listed with
  | ok issues =>
    dsimp only
    rw [List.countP_cons_of_neg (by simp [Deed.isCommit]), List.countP_append, commits_taskDeeds, commits_taskDeeds]
  | error f => rfl

theorem attempts_syncRepository {repo : Repo} {v : Visit}
    (h : Enters (b.syncRepository since name repo) w (v.deeds b)) :
    (after (b.syncRepository since name repo) w).tables.attempts ≤ w.tables.attempts + 1 :=
  commits_deeds v ▸ h.attempts_le (passStep_syncRepository b since name repo)

/-- The visits of a pass end well, and their entries are made one after the other. -/
theorem enters_syncRepositories (hb : b.journaling = true) (since : Time.Timestamp) :
    ∀ (repos : Table Repo) {w : World}, w.faults.Lenient → (repos.map (·.1)).Nodup →
      (∀ e ∈ w.tally.errors, e.repository ∉ repos.map (·.1)) →
      outcome (b.syncRepositories since repos) w = .ok [] ∧
        Enters (b.syncRepositories since repos) w ((b.visitsOf since repos w).flatMap (Visit.deeds b)) ∧
        ∀ v ∈ b.visitsOf since repos w, v.Thorough w.faults w.clock (w.tables.attempts + repos.length)
  | [], _, _, _, _ => ⟨rfl, rfl, nofun⟩
  | (name, repo) :: repos, w, hf, hd, hfresh => by
    rw [List.map_cons, List.nodup_cons] at hd
    obtain ⟨ho, he⟩ := enters_syncRepository hb hf (fun e he heq => hfresh e he (heq ▸ List.mem_cons_self))
      since repo
    have hfaults := faults_of_enters he
    have hclock := clock_of_enters he
    have hattempts := attempts_syncRepository he
    have hrest := enters_syncRepositories hb since repos (lenient_of_enters he hf) hd.2 (by
      intro e hmem
      rw [errors_of_enters he, error?_deeds] at hmem
      rcases List.mem_append.mp hmem with hmem | hmem
      · exact fun h => hfresh e hmem (List.mem_cons_of_mem _ h)
      · rw [repository_of_errors _ e hmem, name_visit]
        exact hd.1)
    unfold syncRepositories
    rw [outcome_bind_ok (outcome_observe ..), after_observe, ho]
    refine ⟨hrest.1, ?_, List.forall_mem_cons.mpr ⟨(thorough_visit hf b since name repo).mono (by simp), ?_⟩⟩
    · unfold visitsOf
      rw [List.flatMap_cons]
      refine he.observe_bind ?_
      rw [ho]
      exact hrest.2.1
    · rw [← hfaults, ← hclock]
      refine fun v hv => (hrest.2.2 v hv).mono ?_
      rw [List.length_cons]
      omega

theorem map_visitsOf (b : Bridge) (since : Time.Timestamp) : ∀ (repos : Table Repo) (w : World),
    (b.visitsOf since repos w).map (fun v => (v.name, v.repo)) = repos
  | [], _ => rfl
  | (name, repo) :: repos, w => by
    rw [visitsOf, List.map_cons, map_visitsOf b since repos, name_visit, repo_visit]

end Visiting

end Bridge

end IssueBridge
