import IssueBridge.Proofs.Bridge.Aside
import IssueBridge.Proofs.Bridge.Live
import IssueBridge.Proofs.GitHub.Reading
import IssueBridge.Proofs.Tracker.Native

/-! # Deliveries that are served

When no call fails, what an event about a comment does is a function of the scene: to the thread of the
issue's ticket it does what it does to the live comments.
-/

namespace IssueBridge

open Step Tracker Correlation

namespace Operation

def isDelivery : Operation → Bool
  | deliver .. => true
  | process .. => true
  | _ => false

def event? : Operation → Option Event
  | deliver kind _ body => (Event.read? kind body).bind (·.toOption)
  | process kind _ body => (Event.read? kind body).bind (·.toOption)
  | _ => none

end Operation

namespace Bridge

variable {b : Bridge} {v : Scene} {repo : Repo} {r : TicketRef} {x : Ticket} {n : String}
  {thread : ThreadId} {a : CommentAction} {c : GitHub.Comment} {id : Int} {k : Comment} {body : String}
  {e : GitHub.CommentEvent}

section Handling

def noted (b : Bridge) (thread : ThreadId) (a : CommentAction) (c : GitHub.Comment) (v : Scene) : Scene :=
  match a with
  | .created =>
    match Logged.result (b.commentBody c) with
    | .ok body => v.addComment thread body
    | .error _ => v
  | .edited =>
    match sought c.id (v.store.thread thread), Logged.result (b.commentBody c) with
    | .ok (some k), .ok body => (v.openThread thread).updateComment (k.ref thread) body
    | _, _ => v.openThread thread
  | .deleted =>
    match sought c.id (v.store.thread thread) with
    | .ok (some k) => (v.openThread thread).deleteComment (k.ref thread)
    | _ => v.openThread thread

theorem does_findComment (v : Scene) (thread : ThreadId) (id : Int) :
    Does v (findComment thread id)
      (match sought id (v.store.thread thread) with
        | .ok (some k) => .ok (k.ref thread)
        | .ok none => .error (.commentNotFound thread.text id)
        | .error f => .error f) (v.openThread thread) := by
  have hmatch := matching_refs thread (v.store.thread thread) id
  have hread : (v.store.comments thread).1 = (v.store.thread thread).map (·.ref thread) := rfl
  have hfound := Does.ofExcept (v := v.openThread thread) (matching (v.store.comments thread).1 id)
  refine (does_comments v thread).bind ?_
  rw [hread, hmatch] at hfound ⊢
  generalize sought id (v.store.thread thread) = o at hfound ⊢
  match o with
  | .error f => exact hfound.bind_error
  | .ok none => exact hfound.bind (.throw _)
  | .ok (some k) => exact hfound.bind (.pure _)

theorem leaves_commentCreated (hf : b.finds v.store repo.project e.issue.id = [r])
    (hx : v.store.ticket? r = some x) (hn : x.id = .given n) :
    Leaves v (b.commentCreated e repo) (b.noted (some n) .created e.comment v) := by
  have hbody := Does.ofLogged (v := v) (b.blind_commentBody e.comment)
  refine .bind (does_findIssue_of_sole hf) ?_
  unfold noted
  cases h : Logged.result (b.commentBody e.comment) with
  | error f =>
    rw [h] at hbody
    exact hbody.bind_error.leaves
  | ok body =>
    rw [h] at hbody
    exact .bind hbody (.bind (does_threadOf hx hn) (does_addComment v (some n) body).leaves)

theorem leaves_commentEdited (hf : b.finds v.store repo.project e.issue.id = [r])
    (hx : v.store.ticket? r = some x) (hn : x.id = .given n) :
    Leaves v (b.commentEdited e repo) (b.noted (some n) .edited e.comment v) := by
  have hfind := does_findComment v (some n) e.comment.id
  have hbody := Does.ofLogged (v := v.openThread (some n)) (b.blind_commentBody e.comment)
  refine .bind (does_findIssue_of_sole hf) (.bind (does_threadOf hx hn) ?_)
  unfold noted
  cases hs : sought e.comment.id (v.store.thread (some n)) with
  | error f =>
    rw [hs] at hfind
    exact hfind.bind_error.leaves
  | ok o =>
    rw [hs] at hfind
    cases o with
    | none => exact hfind.bind_error.leaves
    | some k =>
      refine .bind hfind ?_
      cases h : Logged.result (b.commentBody e.comment) with
      | error f =>
        rw [h] at hbody
        exact hbody.bind_error.leaves
      | ok body =>
        rw [h] at hbody
        exact .bind hbody (.bind (does_updateComment _ (k.ref (some n)) body) (Does.pure _).leaves)

theorem leaves_commentDeleted (hf : b.finds v.store repo.project e.issue.id = [r])
    (hx : v.store.ticket? r = some x) (hn : x.id = .given n) :
    Leaves v (b.commentDeleted e repo) (b.noted (some n) .deleted e.comment v) := by
  have hfind := does_findComment v (some n) e.comment.id
  refine .bind (does_findIssue_of_sole hf) (.bind (does_threadOf hx hn) ?_)
  unfold noted
  cases hs : sought e.comment.id (v.store.thread (some n)) with
  | error f =>
    rw [hs] at hfind
    exact hfind.bind_error.leaves
  | ok o =>
    rw [hs] at hfind
    cases o with
    | none => exact hfind.bind_error.leaves
    | some k => exact .bind hfind (does_deleteComment _ (k.ref (some n))).leaves

/-- An event about a comment turns the thread of the ticket that carries the issue. -/
theorem leaves_handleComment (hf : b.finds v.store repo.project e.issue.id = [r])
    (hx : v.store.ticket? r = some x) (hn : x.id = .given n) (a : CommentAction) :
    Leaves v (b.handleComment a e repo) (b.noted (some n) a e.comment v) := by
  intro w hw
  cases a with
  | created =>
    unfold handleComment
    rw [after_map]
    exact leaves_commentCreated hf hx hn w hw
  | edited =>
    unfold handleComment
    rw [after_map]
    exact leaves_commentEdited hf hx hn w hw
  | deleted =>
    unfold handleComment
    rw [after_bind_pure]
    exact leaves_commentDeleted hf hx hn w hw

end Handling

section Delivering

variable {v' : Scene} {kind delivery context : String} {bytes : ByteArray} {e : Event} {step : Step Unit}
  {handler : Repo → Step Unit} {op : Operation}

theorem leaves_attempt (h : Leaves v step v') (b : Bridge) (e : Event) (context : String) :
    Leaves v (b.attempt e context step) v' := by
  intro w hw
  have hv := h w hw
  unfold attempt
  rw [after_bind_ok (outcome_observe ..), after_observe]
  cases outcome step w with
  | ok u => exact (Does.say _ _).bind (Does.pure true) |>.leaves _ hv
  | error f =>
    exact ((Does.say _ _).bind ((does_journal v' b _).bind (Does.pure false))).leaves _ hv

theorem does_attempt (h : Does v step (.ok ()) v') : Does v (b.attempt e context step) (.ok true) v' :=
  h.observe.bind ((Does.say _ _).bind (.pure true))

/-- The event is handled: by what, and for which repository. -/
structure Accepts (b : Bridge) (e : Event) (handler : Repo → Step Unit) (repo : Repo) : Prop where
  issue : e.subject.isPullRequest = false
  handler : e.handler? b = some handler
  repository : b.settings.repos.lookup e.repository = some repo

namespace Accepts

theorem of_issue {a : IssueAction} {e : GitHub.IssueEvent} (hissue : e.issue.isPullRequest = false)
    (ha : IssueAction.named? e.action = some a) (hr : b.settings.repos.lookup e.repository.name = some repo) :
    b.Accepts (.issue e) (fun repo => discard (b.handleIssue a e repo)) repo :=
  ⟨hissue, congrArg (Option.map _) ha, hr⟩

theorem of_comment {e : GitHub.CommentEvent} (hissue : e.issue.isPullRequest = false)
    (ha : CommentAction.named? e.action = some a) (hr : b.settings.repos.lookup e.repository.name = some repo) :
    b.Accepts (.comment e) (fun repo => discard (b.handleComment a e repo)) repo :=
  ⟨hissue, congrArg (Option.map _) ha, hr⟩

theorem handle_eq (h : b.Accepts e handler repo) (delivery : String) :
    b.handle e delivery = b.attempt e (e.context delivery) (handler repo) := by
  unfold handle
  simp only [h.issue, h.handler, h.repository, Bool.false_eq_true, if_false]

theorem leaves_handle (h : b.Accepts e handler repo) (hv : Leaves v (handler repo) v') (delivery : String) :
    Leaves v (b.handle e delivery) v' := by
  rw [h.handle_eq]
  exact leaves_attempt hv b _ _

theorem does_handle (h : b.Accepts e handler repo) (hv : Does v (handler repo) (.ok ()) v')
    (delivery : String) : Does v (b.handle e delivery) (.ok true) v' := by
  rw [h.handle_eq]
  exact does_attempt hv

end Accepts

theorem does_handle_of_pullRequest (v : Scene) (b : Bridge) (h : e.subject.isPullRequest = true)
    (delivery : String) : Does v (b.handle e delivery) (.ok false) v := by
  unfold handle
  dsimp only
  rw [if_pos h]
  exact (Does.say _ _).bind (.pure false)

theorem dispatch_eq (h : Event.read? kind bytes = some (.ok e)) (b : Bridge) (delivery : String) :
    b.dispatch kind delivery bytes = b.handle e delivery := by
  unfold dispatch
  rw [h]
  exact pure_bind e fun e => b.handle e delivery

theorem leaves_process (h : Leaves v (b.dispatch kind delivery bytes) v') :
    Leaves v (b.process kind delivery bytes) v' := by
  intro w hw
  have hdispatch := h w hw
  unfold process
  rw [after_bind_ok (outcome_observe ..), after_observe]
  split
  · exact hdispatch
  · exact (Does.say _ _).leaves _ hdispatch
  · exact (Does.say _ _).leaves _ hdispatch
  · exact (Does.say _ _).leaves _ hdispatch

theorem read?_eq_ok (h : (Event.read? kind bytes).bind (·.toOption) = some e) :
    Event.read? kind bytes = some (.ok e) := by
  obtain ⟨o, ho, he⟩ := Option.bind_eq_some_iff.mp h
  rw [ho, eq_ok_of_toOption he]

theorem event?_of_read? (h : Event.read? kind bytes = some (.ok e)) :
    (Event.read? kind bytes).bind (·.toOption) = some e := by
  rw [h]
  rfl

theorem leaves_run (hevent : op.event? = some e) (h : ∀ delivery, Leaves v (b.handle e delivery) v') :
    Leaves v (op.run b) v' := by
  cases op with
  | deliver kind delivery bytes =>
    intro w hw
    unfold Operation.run
    rw [after_discard, dispatch_eq (read?_eq_ok hevent)]
    exact h delivery w hw
  | process kind delivery bytes =>
    exact leaves_process (dispatch_eq (read?_eq_ok hevent) b delivery ▸ h delivery)
  | pass => cases hevent
  | job => cases hevent
  | presync => cases hevent

end Delivering

section Telling

variable {init : List Comment} {live : List GitHub.Comment}

theorem thread_updateComment (v : Scene) (thread : ThreadId) (k : Comment) (body : String) :
    ((v.openThread thread).updateComment (k.ref thread) body).store.thread thread =
      Store.setBody k.id body (v.store.thread thread) := by
  rw [← thread_openThread v thread]
  exact (Store.thread_alter ..).trans (if_pos rfl)

theorem thread_deleteComment (v : Scene) (thread : ThreadId) (k : Comment) :
    ((v.openThread thread).deleteComment (k.ref thread)).store.thread thread =
      (v.store.thread thread).eraseP (·.id = k.id) := by
  rw [← thread_openThread v thread]
  exact (Store.thread_alter ..).trans (if_pos rfl)

theorem inThread_noted (b : Bridge) (thread : ThreadId) (a : CommentAction) (c : GitHub.Comment)
    (v : Scene) : v.store.InThread thread (b.noted thread a c v).store := by
  have hopen : v.store.InThread thread (v.openThread thread).store := .alterThread v.store _ _
  unfold noted
  split
  · split
    · exact .alterThread v.store _ _
    · exact .refl _
  · split
    · exact hopen.trans (.alterThread _ _ _)
    · exact hopen
  · split
    · exact hopen.trans (.alterThread _ _ _)
    · exact hopen

/-- An event about a comment does to the thread what it does to the live comments. -/
theorem told_noted (h : b.Told init live (v.store.thread thread)) (hv : v.store.Threaded)
    (hc : Sound c.id) (hinit : ∀ k ∈ init, k.Avoids c.id)
    (hnew : a = .created → ∀ d ∈ live, d.id ≠ c.id)
    (hbody : a ≠ .deleted → ∃ body, Logged.result (b.commentBody c) = .ok body) :
    b.Told init (a.applied c live) ((b.noted thread a c v).store.thread thread) := by
  have hd : ((v.store.thread thread).map (·.id)).Nodup := (hv.stamped thread).distinct
  cases a with
  | created =>
    obtain ⟨body, hbody⟩ := hbody (by decide)
    unfold noted
    dsimp only
    rw [hbody]
    dsimp only
    rw [thread_addComment]
    exact h.created hc (hnew rfl) hbody
  | edited =>
    obtain ⟨body, hbody⟩ := hbody (by decide)
    unfold noted
    dsimp only
    rcases h.locate hinit with ⟨k, hloc⟩ | ⟨habsent, hs⟩
    · rw [h.sought hinit hloc, hbody]
      dsimp only
      rw [thread_updateComment]
      exact h.edited hc hloc hd hbody
    · rw [hs, applied_of_absent (by decide) habsent]
      dsimp only
      rwa [thread_openThread]
  | deleted =>
    unfold noted
    dsimp only
    rcases h.locate hinit with ⟨k, hloc⟩ | ⟨habsent, hs⟩
    · rw [h.sought hinit hloc]
      dsimp only
      rw [thread_deleteComment]
      exact h.deleted hloc hd
    · rw [hs, applied_of_absent (by decide) habsent]
      dsimp only
      rwa [thread_openThread]

end Telling

end Bridge

end IssueBridge
