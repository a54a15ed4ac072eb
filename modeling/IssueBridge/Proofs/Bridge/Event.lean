import IssueBridge.Bridge.Dispatch
import IssueBridge.Proofs.Bridge.Creation
import IssueBridge.Proofs.Bridge.Pass
import IssueBridge.Proofs.Bridge.Thread

/-! # What an event may change

The opening of an issue adds at most one ticket. Any other event changes at most the ticket that is
found alone for its issue: an event about the issue some fields of it, an event about a comment its
thread. If no ticket is found, or several are, nothing changes.
-/

namespace IssueBridge

open Step Tracker

def IssueAction.fields : IssueAction → List String
  | .opened => []
  | .closed => ["status"]
  | .reopened => ["status"]
  | .edited => ["summary", "description"]
  | .assigned => ["assignee"]
  | .unassigned => ["assignee"]
  | .labeled => ["issuetype", "components"]
  | .unlabeled => ["issuetype", "components"]

namespace Bridge

variable {α : Type} {b : Bridge} {project : String} {id : Int} {names : List String}

/-- The handling of an event changes at most the fields `names` of the ticket that is found alone. -/
def AltersFound (b : Bridge) (project : String) (id : Int) (names : List String) (s t : Store) : Prop :=
  t = s ∨ ∃ r, b.finds s project id = [r] ∧ s.Alters names (· = r) (fun _ => False) t

def EditsFound (names : List String) (find : Step TicketRef) (x : Step α) : Prop :=
  ∃ f, x = find >>= f ∧ ∀ r, Editing names r (f r)

namespace EditsFound

variable {find : Step TicketRef} {x : Step α}

theorem bind {f : TicketRef → Step α} (hf : ∀ r, Editing names r (f r)) :
    EditsFound names find (find >>= f) :=
  ⟨f, rfl, hf⟩

theorem seq {β : Type} {g : α → Step β} (h : EditsFound names find x)
    (hg : ∀ r a, Editing names r (g a)) : EditsFound names find (x >>= g) := by
  obtain ⟨f, rfl, hf⟩ := h
  exact ⟨fun r => f r >>= g, bind_assoc .., fun r => .seq (hf r) (hg r)⟩

theorem map {β : Type} (h : EditsFound names find x) (g : α → β) : EditsFound names find (g <$> x) := by
  obtain ⟨f, rfl, hf⟩ := h
  exact ⟨fun r => g <$> f r, map_bind g find f, fun r => .map (hf r) g⟩

theorem keeps {F : Frame} (h : EditsFound names find x) (hfind : Silent find)
    (hF : ∀ r, F.Admits names r) : Keeps F x := by
  obtain ⟨f, rfl, hf⟩ := h
  exact hfind.keeps.bind fun r => (hf r).keeps (hF r)

theorem alters (h : EditsFound names find x) (hfind : Silent find)
    (hr : ∀ {r w}, outcome find w = .ok r → b.finds w.store project id = [r]) (w : World) :
    b.AltersFound project id names w.store (after x w).store := by
  obtain ⟨f, rfl, hf⟩ := h
  rcases bind_cases hfind f w with ⟨r, ho, hs, ha⟩ | hs
  · have hfr := ((hf r).alters (D := fun _ => False) (after find w)).1
    rw [World.Agrees.store hs] at hfr
    rw [ha]
    exact .inr ⟨r, hr ho, hfr⟩
  · exact .inl (World.Agrees.store hs)

end EditsFound

section Handlers

variable {repo : Repo}

def finder (b : Bridge) (a : IssueAction) (i : GitHub.Issue) (repo : Repo) : Step TicketRef :=
  if a ∈ [.assigned, .unassigned, .labeled] then b.awaitIssue repo.project i.id
  else b.findIssue repo.project i.id

theorem silent_finder (b : Bridge) (a : IssueAction) (i : GitHub.Issue) (repo : Repo) :
    Silent (b.finder a i repo) := by
  unfold finder
  split
  · exact silent_awaitIssue b _ _
  · exact silent_findIssue b _ _

theorem finder_eq_ok {a : IssueAction} {i : GitHub.Issue} {r : TicketRef} {w : World}
    (h : outcome (b.finder a i repo) w = .ok r) : b.finds w.store repo.project i.id = [r] := by
  unfold finder at h
  split at h
  · exact awaitIssue_eq_ok h
  · exact findIssue_eq_ok h

theorem editsFound_closed (i : GitHub.Issue) :
    EditsFound ["status"] (b.findIssue repo.project i.id) (b.closed i repo) :=
  .bind fun _ => editing_runTransitions (List.mem_singleton_self _) done

theorem editsFound_reopened (i : GitHub.Issue) :
    EditsFound ["status"] (b.findIssue repo.project i.id) (b.reopened i repo) :=
  .bind fun _ => editing_runTransitions (List.mem_singleton_self _) toDo

theorem editsFound_edited (i : GitHub.Issue) :
    EditsFound textNames (b.findIssue repo.project i.id) (b.edited i repo) :=
  .bind fun r => .seq (editing_pushText b r i) fun _ => .pure r

theorem editsFound_assigned (e : GitHub.IssueEvent) :
    EditsFound ["assignee"] (b.awaitIssue repo.project e.issue.id) (b.assigned e repo) :=
  .bind fun r => .seq (.ofLogged (b.blind_assignee? _)) fun user => by
    cases user with
    | none => exact .pure _
    | some user => exact editing_setAssignee _ (List.mem_singleton_self _)

theorem editsFound_unassigned (e : GitHub.IssueEvent) :
    EditsFound ["assignee"] (b.awaitIssue repo.project e.issue.id) (b.unassigned e repo) :=
  .bind fun r => .seq (.ofLogged (b.blind_assignee? _)) fun user => by
    cases user with
    | none => exact .pure _
    | some user =>
      refine .seq (.base .view) fun t => ?_
      split
      · exact editing_setAssignee _ (List.mem_singleton_self _)
      · exact .pure _

theorem editsFound_labeled (e : GitHub.IssueEvent) :
    EditsFound LabelRule.fieldNames (b.awaitIssue repo.project e.issue.id) (b.labeled e repo) :=
  .bind fun r => by
    cases e.label with
    | none => exact .say _ _
    | some label =>
      exact LabelRule.composed_runAll fun rule hr =>
        .discard (LabelRule.sends_apply r repo label.name rule hr).editing

theorem editsFound_unlabeled (e : GitHub.IssueEvent) :
    EditsFound LabelRule.fieldNames (b.findIssue repo.project e.issue.id) (b.unlabeled e repo) :=
  .bind fun r => by
    cases e.label with
    | none => exact .say _ _
    | some label =>
      exact LabelRule.composed_runAll fun rule hr =>
        .discard (LabelRule.sends_reset r repo label.name rule hr).editing

/-- Every event about an issue but its opening is about the ticket that is found. -/
theorem editsFound_handleIssue {a : IssueAction} (ha : a ≠ .opened) (e : GitHub.IssueEvent) :
    EditsFound a.fields (b.finder a e.issue repo) (b.handleIssue a e repo) := by
  unfold handleIssue
  cases a with
  | opened => exact absurd rfl ha
  | closed => exact (editsFound_closed e.issue).seq fun _ _ => .pure _
  | reopened => exact (editsFound_reopened e.issue).seq fun _ _ => .pure _
  | edited => exact (editsFound_edited e.issue).map _
  | assigned => exact (editsFound_assigned e).seq fun _ _ => .pure _
  | unassigned => exact (editsFound_unassigned e).seq fun _ _ => .pure _
  | labeled => exact (editsFound_labeled e).seq fun _ _ => .pure _
  | unlabeled => exact (editsFound_unlabeled e).seq fun _ _ => .pure _

theorem altersFound_handleIssue {a : IssueAction} (ha : a ≠ .opened) (e : GitHub.IssueEvent) (w : World) :
    b.AltersFound repo.project e.issue.id a.fields w.store (after (b.handleIssue a e repo) w).store :=
  (editsFound_handleIssue ha e).alters (silent_finder b a e.issue repo) finder_eq_ok w

theorem handleOpened_cases (e : GitHub.IssueEvent) (w : World) :
    (after (b.handleIssue .opened e repo) w).store = w.store ∨
      ∃ t, (after (b.handleIssue .opened e repo) w).store =
        { w.store with tickets := w.store.tickets ++ [t] } := by
  unfold handleIssue
  rw [after_map]
  rcases creates_opened b e.issue repo w with ⟨fs, -, -, hs⟩ | ⟨-, hs⟩
  · exact .inr ⟨_, hs.store⟩
  · exact .inl hs.store

end Handlers

/-- Of the tickets of a project, `r` is the only one that the search for an id finds. Where the
project's key holds no quote, it is the only one that carries the id. -/
structure Sole (b : Bridge) (s : Store) (project : String) (id : Int) (r : TicketRef) : Prop where
  found : b.finds s project id = [r]
  carrier : '\x27' ∉ project.toList → s.search (query b.fieldIds project id) = [r]

theorem Sole.of_finds {s : Store} {r : TicketRef} (h : b.finds s project id = [r]) :
    b.Sole s project id r where
  found := h
  carrier hp := (search_of_finds hp (h ▸ List.cons_ne_nil _ _)).trans h

/-- What an event may change of a store. -/
def EventReach (b : Bridge) (repo : Repo) (s t : Store) : Event → Prop
  | .issue e => ∃ a, IssueAction.named? e.action = some a ∧
    if a = .opened then ∃ x, t = { s with tickets := s.tickets ++ [x] }
    else ∃ r, b.Sole s repo.project e.issue.id r ∧ s.Alters a.fields (· = r) (fun _ => False) t
  | .comment e => ∃ a r x thread, CommentAction.named? e.action = some a ∧
    b.Sole s repo.project e.issue.id r ∧ s.ticket? r = some x ∧ x.thread? = some thread ∧
      s.Turned a thread t

theorem reach_handler {e : Event} {handler : Repo → Step Unit} (h : e.handler? b = some handler)
    (repo : Repo) (w : World) : (after (handler repo) w).store = w.store ∨
      b.EventReach repo w.store (after (handler repo) w).store e := by
  cases e with
  | issue e =>
    obtain ⟨a, ha, rfl⟩ := Option.map_eq_some_iff.mp h
    rw [after_discard]
    by_cases hopened : a = .opened
    · subst hopened
      exact (handleOpened_cases e w).imp_right fun hx => ⟨.opened, ha, by rwa [if_pos rfl]⟩
    · refine (altersFound_handleIssue hopened e w).imp_right fun ⟨r, hr, halters⟩ => ?_
      exact ⟨a, ha, by rw [if_neg hopened]; exact ⟨r, .of_finds hr, halters⟩⟩
  | comment e =>
    obtain ⟨a, ha, rfl⟩ := Option.map_eq_some_iff.mp h
    rw [after_discard]
    rcases turning_handleComment b a e repo w with hs | ⟨r, hr, hs | ⟨x, thread, hx, ht, hturned⟩⟩
    · exact .inl hs
    · exact .inl hs
    · exact .inr ⟨a, r, x, thread, ha, .of_finds hr, hx, ht, hturned⟩

/-- What a delivery may change: nothing, unless its event is about no pull request and of a repository
that is bridged. -/
def DeliveryReach (b : Bridge) (kind : String) (body : ByteArray) (s t : Store) : Prop :=
  t = s ∨ ∃ e repo, Event.read? kind body = some (.ok e) ∧ e.subject.isPullRequest = false ∧
    b.settings.repos.lookup e.repository = some repo ∧ b.EventReach repo s t e

theorem agrees_attempt (b : Bridge) (e : Event) (context : String) (handler : Step Unit)
    (w : World) : (after handler w).Agrees (after (b.attempt e context handler) w) := by
  unfold attempt
  rw [after_bind_ok (outcome_observe ..), after_observe]
  cases outcome handler w with
  | ok u => exact ((Keeps.say _ _).bind fun _ => .pure _ : Silent _) _
  | error f =>
    exact ((Keeps.say _ _).bind fun _ => (silent_journalEntry b _).bind fun _ => .pure _ : Silent _) _

theorem reach_handle (b : Bridge) (e : Event) (delivery : String) (w : World) :
    (after (b.handle e delivery) w).store = w.store ∨
      ∃ repo, e.subject.isPullRequest = false ∧ b.settings.repos.lookup e.repository = some repo ∧
        b.EventReach repo w.store (after (b.handle e delivery) w).store e := by
  unfold handle
  dsimp only
  split
  · exact .inl rfl
  · rename_i hpull
    split
    · exact .inl rfl
    · rename_i handler hh
      split
      · exact .inl rfl
      · rename_i repo hrepo
        rw [(agrees_attempt b e _ (handler repo) w).store]
        exact (reach_handler hh repo w).imp_right fun hr => ⟨repo, by simpa using hpull, hrepo, hr⟩

theorem reach_dispatch (b : Bridge) (kind delivery : String) (body : ByteArray) (w : World) :
    b.DeliveryReach kind body w.store (after (b.dispatch kind delivery body) w).store := by
  unfold dispatch
  split
  · exact .inl rfl
  · rename_i event hread
    cases event with
    | error f => exact .inl rfl
    | ok e =>
      rw [after_bind_ok (outcome_ofExcept w (.ok e)), after_ofExcept]
      exact (reach_handle b e delivery w).imp_right fun ⟨repo, hpull, hrepo, hr⟩ =>
        ⟨e, repo, hread, hpull, hrepo, hr⟩

/-- A delivery that was acknowledged reaches no further than one that was not. -/
theorem reach_process (b : Bridge) (kind delivery : String) (body : ByteArray) (w : World) :
    b.DeliveryReach kind body w.store (after (b.process kind delivery body) w).store := by
  have hreport : (after (b.dispatch kind delivery body) w).Agrees
      (after (b.process kind delivery body) w) := by
    unfold process
    rw [after_bind_ok (outcome_observe ..), after_observe]
    split
    · exact .refl _
    · exact Keeps.say (F := .agreement) _ _ _
    · exact Keeps.say (F := .agreement) _ _ _
    · exact Keeps.say (F := .agreement) _ _ _
  rw [hreport.store]
  exact reach_dispatch b kind delivery body w

end Bridge

end IssueBridge
