import IssueBridge.Proofs.Bridge.Carrier
import IssueBridge.Proofs.Bridge.Run
import IssueBridge.Proofs.Tracker.Native

/-! # What was written in the tracker

Deliveries and passes change and delete comments by the ids of those that they read with a token before.
So a comment without a token is never changed, deleted or moved, whatever calls fail.
-/

namespace IssueBridge

open Step Tracker

/-- The comments that were written in the tracker are guarded, with those in `refs` read before. -/
def Frame.guards (refs : List CommentRef) : Frame where
  rel v w := Frame.surroundings.rel v w ∧ v.store.Guards refs w.store
  trans h h' := ⟨Frame.surroundings.trans h.1 h'.1, h.2.trans h'.2⟩
  noted h := ⟨Frame.surroundings.noted h, h.store ▸ .refl _⟩

variable {α : Type} {refs : List CommentRef} {ref : CommentRef} {n : Nat} {body : String} {w : World}

theorem Frame.Admits.guards {names : List String} {r : TicketRef} : (Frame.guards refs).Admits names r :=
  fun w fs _ => ⟨⟨rfl, rfl, rfl⟩, .update w.store r fs⟩

theorem Frame.guards_create (w : World) (fs : Fields) :
    (Frame.guards refs).rel w { w with store := (w.store.create fs).2 } :=
  ⟨⟨rfl, rfl, rfl⟩, .create w.store fs⟩

theorem Step.Applies.guards {g : Store → Store} {x : Step α} (h : Applies g x)
    (hg : ∀ s : Store, s.Guards refs (g s)) : Keeps (.guards refs) x :=
  h.keeps fun w => ⟨⟨rfl, rfl, rfl⟩, hg w.store⟩

/-- What was read of a thread can be relied on from then on. -/
theorem Step.rel_comments_bind {thread : ThreadId} {f : List CommentRef → Step α}
    (hf : ∀ existing, (∀ c ∈ existing, c.thread = thread) → Keeps (.guards existing) (f existing)) :
    (Frame.guards []).rel w (after (Tracker.comments thread >>= f) w) := by
  have h : (Frame.guards (w.store.comments thread).1).rel w (after (Tracker.comments thread >>= f) w) := by
    refine rel_bind ((applies_comments thread).guards (fun s => .comments s thread) w) fun l hl => ?_
    have hthread := Bridge.thread_of_comments hl
    rw [comments_eq_ok hl] at hthread ⊢
    exact hf _ hthread _
  refine ⟨h.1, fun hs => ?_⟩
  obtain ⟨hread, hnative⟩ := h.2 (hs.threaded.read thread)
  exact ⟨⟨hread.threaded, fun _ hr => by cases hr⟩, hnative⟩

namespace Bridge

variable {b : Bridge} {repo : Repo}

theorem token?_commentBody_ne {c : GitHub.Comment} (h : Logged.result (b.commentBody c) = .ok body)
    (hn : (n : Int) = c.id) : Correlation.token? (some body) ≠ .ok none := by
  rw [Correlation.token?_commentBody h (by omega)]
  split <;> simp

theorem keeps_deleteIfSynced_guards (href : ref ∈ refs) : Keeps (.guards refs) (deleteIfSynced ref) := by
  intro w
  refine rel_bind (Keeps.ofExcept _ w) fun o ho => ?_
  rw [outcome_ofExcept] at ho
  cases o with
  | none => exact Frame.refl _ _
  | some n =>
    exact ((applies_deleteComment ref).guards fun s => .deleteComment s href ho).contain _ _ _

/-- A comment that is found by its token may be given the body that is rendered for the same id. -/
theorem keeps_updateComment_guards {c : GitHub.Comment} (hbody : Logged.result (b.commentBody c) = .ok body)
    (h : matching refs c.id = .ok (some ref)) : Keeps (.guards refs) (updateComment ref body) := by
  obtain ⟨href, n, hn, hid⟩ := Correlation.of_findToken? h
  exact (applies_updateComment ref body).guards fun s =>
    .updateComment s href hn (token?_commentBody_ne hbody hid)

theorem keeps_writeComment_guards (r : TicketRef) (c : GitHub.Comment) :
    Keeps (.guards refs) (b.writeComment r refs c) := by
  intro w
  refine rel_bind (Keeps.ofLogged _ w) fun body hbody => rel_bind (Keeps.ofExcept _ _) fun o ho => ?_
  rw [outcome_ofLogged (b.blind_commentBody c)] at hbody
  rw [outcome_ofExcept] at ho
  refine Keeps.contain ?_ _ _ _
  cases o with
  | some old => exact keeps_updateComment_guards hbody ho
  | none =>
    exact (silent_threadOf r).keeps.bind fun thread =>
      ((applies_addComment thread body).guards fun s => .addComment s thread body).discard

theorem keeps_syncComments_guards (r : TicketRef) (i : GitHub.Issue) (name : String) (repo : Repo)
    (since : Time.Timestamp) : Keeps (.guards []) (b.syncComments r i name repo since) :=
  (silent_threadOf r).keeps.bind fun thread _ => rel_comments_bind fun existing _ => by
    split
    · exact .forM fun c hc => keeps_deleteIfSynced_guards hc
    · exact (GitHub.silent_comments repo.owner name i.number (some since)).keeps.bind fun comments =>
        .forM fun c _ => keeps_writeComment_guards r c

theorem stepwise_guards (b : Bridge) : b.Stepwise (.guards []) where
  source h := h.1.1
  ensure w _ _ :=
    keeps_ensureTicket Frame.guards_create (fun _ => .guards) _ _ _ w
  sync since w _ _ := keeps_syncIssue (fun _ => .guards) (fun r => keeps_syncComments_guards r _ _ _ since) w

theorem rel_findComment_bind {thread : ThreadId} {id : Int} {f : CommentRef → Step α}
    (hf : ∀ refs c, matching refs id = .ok (some c) → Keeps (.guards refs) (f c)) :
    (Frame.guards []).rel w (after (findComment thread id >>= f) w) := by
  unfold findComment
  rw [bind_assoc]
  refine rel_comments_bind fun refs _ w => ?_
  rw [bind_assoc]
  refine rel_bind (Keeps.ofExcept _ w) fun o ho => ?_
  rw [outcome_ofExcept] at ho
  cases o with
  | none => exact Frame.refl _ _
  | some c => exact hf refs c ho _

theorem keeps_handleComment_guards (b : Bridge) (a : CommentAction) (e : GitHub.CommentEvent) (repo : Repo) :
    Keeps (.guards []) (b.handleComment a e repo) := by
  have hfind := (silent_findIssue b repo.project e.issue.id).keeps (F := .guards [])
  have hthread := fun r => (silent_threadOf r).keeps (F := .guards [])
  cases a with
  | created =>
    exact (hfind.bind fun r => (Keeps.ofLogged _).bind fun body => (hthread r).bind fun thread =>
      (applies_addComment thread body).guards fun s => .addComment s thread body).map _
  | edited =>
    refine Keeps.map (hfind.bind fun r => (hthread r).bind fun thread w => ?_) _
    refine rel_findComment_bind fun refs c hc w => ?_
    refine rel_bind (Keeps.ofLogged _ w) fun body hbody => ?_
    rw [outcome_ofLogged (b.blind_commentBody _)] at hbody
    exact (keeps_updateComment_guards hbody hc).bind (fun _ => .pure c) _
  | deleted =>
    refine Keeps.bind (hfind.bind fun r => (hthread r).bind fun thread w => ?_) fun _ => .pure _
    refine rel_findComment_bind fun refs c hc => ?_
    obtain ⟨href, n, hn, -⟩ := Correlation.of_findToken? hc
    exact (applies_deleteComment c).guards fun s => .deleteComment s href hn

theorem keeps_handleIssue_guards (b : Bridge) (a : IssueAction) (e : GitHub.IssueEvent) (repo : Repo) :
    Keeps (.guards []) (b.handleIssue a e repo) := by
  by_cases ha : a = .opened
  · subst ha
    exact ((making_opened b e.issue repo).keeps Frame.guards_create fun _ => .guards).map _
  · exact (editsFound_handleIssue ha e).keeps (silent_finder b a e.issue repo) fun _ => .guards

theorem keeps_operation_guards (b : Bridge) : ∀ op : Operation, Keeps (.guards []) (op.run b) := by
  refine keeps_operation (stepwise_guards b) fun kind body e handler repo _ h _ => ?_
  cases e with
  | issue e =>
    obtain ⟨a, -, rfl⟩ := Option.map_eq_some_iff.mp h
    exact (keeps_handleIssue_guards b a e repo).discard
  | comment e =>
    obtain ⟨a, -, rfl⟩ := Option.map_eq_some_iff.mp h
    exact (keeps_handleComment_guards b a e repo).discard

theorem guards_operation (b : Bridge) (op : Operation) (w : World) :
    w.store.Guards [] (after (op.run b) w).store :=
  (keeps_operation_guards b op w).2

variable {ops : List Operation} {s t : Store}

/-- Comments keep ids of their own on every run. -/
theorem Runs.threaded {P : World → Prop} (h : b.Runs P ops s t) (hs : s.Threaded) : t.Threaded :=
  (h.rel (R := Store.Guards []) .refl .trans (fun op _ w _ => guards_operation b op w)
    ⟨hs, fun _ hr => by cases hr⟩).1.threaded

/-- On every run of deliveries and passes, whatever the source holds and whatever calls fail, no ticket is
lost, and the comments that carry no token are still there, with their ids and bodies, in their order and
in front of all others of the kind. -/
theorem runs_keep_native (h : b.Runs (fun _ => True) ops s t) (hs : s.Threaded) :
    s.Retains b.fieldIds.githubId t ∧ ∀ thread, s.native thread <+: t.native thread := by
  refine ⟨?_, ?_⟩
  · exact h.rel (.refl _) .trans fun op _ w _ => retains_of_reach (reach_run b w op)
  · exact (h.rel (R := Store.Guards []) .refl .trans (fun op _ w _ => guards_operation b op w)
      ⟨hs, fun _ hr => by cases hr⟩).2

def talkWorld : World := { smallWorld with
  store :=
    { tickets := [
        { key := .given "AB-1"
          id := .given "10001"
          fields := .given [("customfield_10", .int 7), ("status", Store.status "To Do")] }]
      threads := [(some "10001",
        [⟨"1", .given "Comment [(ID 5)|https://github.com/acme/app/issues/1#5] from x"⟩,
          ⟨"2", .given "Thanks"⟩])] } }

theorem threaded_talk : talkWorld.store.Threaded := .of_ids (by decide)

theorem runs_keep_native_talk :
    (after small.syncAll talkWorld).store.thread (some "10001") = [⟨"2", .given "Thanks"⟩] := by
  have hrun : small.Runs (fun _ => True) [.pass] talkWorld.store
      (after (Operation.pass.run small) talkWorld).store := .cons talkWorld trivial (.nil _)
  have hkept := (runs_keep_native hrun threaded_talk).2 (some "10001")
  have hold : ⟨"2", .given "Thanks"⟩ ∈ talkWorld.store.native (some "10001") :=
    List.mem_filter.mpr ⟨.tail _ (.head _), by decide +kernel⟩
  -- The comment with the token is gone.
  have hlength : ((after small.syncAll talkWorld).store.thread (some "10001")).length = 1 := by
    decide +kernel
  obtain ⟨c, hc⟩ := List.length_eq_one_iff.mp hlength
  have hmem := (List.mem_filter.mp (hkept.subset hold)).1
  unfold Operation.run at hmem
  rw [after_discard, hc] at hmem
  rw [hc, List.mem_singleton.mp hmem]

end Bridge

end IssueBridge
