import IssueBridge.Proofs.Bridge.Carrier
import IssueBridge.Proofs.Bridge.Upheld
import IssueBridge.Proofs.Correlation.Rendered
import IssueBridge.Proofs.Tracker.Asked
import IssueBridge.Proofs.Tracker.Rewritten

/-! # Comments that are synchronised while calls fail

Synchronising the comments of an issue makes one call for each comment, and goes on when a call fails. What the
thread is like in the end can be told from the thread at the start, from the source's comments and from the calls
that did not fail.
-/

namespace IssueBridge

open Step Tracker Correlation

namespace Bridge

variable {b : Bridge} {u : Course} {r : TicketRef} {x : Ticket} {thread : ThreadId} {cs : List Comment}
  {c : Comment} {w : World}

theorem outcome_threadOf (hx : w.store.ticket? r = some x) (hthread : x.thread? = some thread) :
    outcome (threadOf r) w = .ok thread ∧ after (threadOf r) w = w := by
  unfold threadOf
  rw [outcome_bind_ok (outcome_ticket hx), after_bind_ok (outcome_ticket hx), after_ticket]
  unfold Ticket.thread? at hthread
  unfold part
  split at hthread
  all_goals cases hthread
  all_goals rw [‹x.id = _›]
  all_goals exact ⟨rfl, rfl⟩

theorem proceeds_threadOf (hx : u.store.ticket? r = some x) (hthread : x.thread? = some thread) :
    Proceeds u (threadOf r) (.ok thread) u := by
  rintro w rfl
  obtain ⟨ho, hafter⟩ := outcome_threadOf hx hthread
  exact ⟨ho, congrArg World.course hafter⟩

section Deleting

theorem proceeds_deleteIfSynced_of_marked (h : c.isMarked) (u : Course) :
    Proceeds u (deleteIfSynced (c.ref thread)) (.ok ()) (u.ask (deleteCall c) (delete thread c)) := by
  have hmark : ∃ n, token? (c.ref thread).body = .ok (some n) := by
    unfold Comment.isMarked at h
    split at h
    · exact ⟨_, ‹_›⟩
    · cases h
  obtain ⟨n, hn⟩ := hmark
  unfold deleteIfSynced
  rw [hn]
  exact (Proceeds.ofExcept (.ok (some n))).bind ((proceeds_deleteComment u _).contain _ _)

theorem proceeds_deleteIfSynced_of_unmarked {o : Option Nat} (ho : c.mark = .ok o) (h : ¬ c.isMarked) (u : Course) :
    Proceeds u (deleteIfSynced (c.ref thread)) (.ok ()) u := by
  have hnone : token? (c.ref thread).body = .ok none := by
    cases o with
    | none => exact ho
    | some n =>
      unfold Comment.isMarked at h
      rw [ho] at h
      exact absurd rfl h
  unfold deleteIfSynced
  rw [hnone]
  exact (Proceeds.ofExcept (.ok none)).bind (.pure ())

/-- All comments with tokens are asked to be deleted, whichever of these calls fail. -/
theorem proceeds_deleteAll (thread : ThreadId) (hmarks : ∀ c ∈ cs, ∃ o, c.mark = .ok o) (u : Course) :
    Proceeds u ((cs.map (·.ref thread)).forM deleteIfSynced) (.ok ())
      (u.askAll deleteCall (delete thread) (cs.filter (·.isMarked))) := by
  induction cs generalizing u with
  | nil => exact .pure ()
  | cons c cs ih =>
    obtain ⟨o, ho⟩ := hmarks c List.mem_cons_self
    have hrest := ih fun d hd => hmarks d (List.mem_cons_of_mem _ hd)
    by_cases hc : c.isMarked
    · rw [List.filter_cons_of_pos hc]
      exact (proceeds_deleteIfSynced_of_marked hc u).bind (hrest _)
    · rw [List.filter_cons_of_neg hc]
      exact (proceeds_deleteIfSynced_of_unmarked ho hc u).bind (hrest u)

theorem thread_askAll_delete (hlookup : u.store.threads.lookup thread = some cs) (hd : (cs.map (·.id)).Nodup)
    (l : List Comment) : (u.askAll deleteCall (delete thread) l).store.thread thread =
      cs.filter fun c => c.id ∉ (u.faults.letThrough deleteCall u.history l).map (·.id) := by
  refine Store.thread_of_lookup ?_
  rw [Course.store_askAll]
  exact lookup_deleted hlookup hd

end Deleting

section Writing

theorem matching_of_marks (hmarks : ∀ c ∈ cs, ∃ o, c.mark = .ok o) (thread : ThreadId) (id : Int) :
    matching (cs.map (·.ref thread)) id = .ok ((cs.find? (·.carries id)).map (·.ref thread)) := by
  rw [matching_refs, sought_eq_find? hmarks]
  rfl

theorem proceeds_putComment (cs : List Comment) (hx : u.store.ticket? r = some x)
    (hthread : x.thread? = some thread) (id : Int) (body : String) :
    ∃ o, Proceeds u (putComment r body ((cs.find? (·.carries id)).map (·.ref thread))) o
      (u.ask (writeCall thread cs (id, body)) (write thread cs (id, body))) := by
  have hcall : writeCall thread cs (id, body) = match cs.find? (·.carries id) with
      | some c => .updateComment c.id body
      | none => .addComment thread body := by
    unfold writeCall target
    cases cs.find? (·.carries id) <;> rfl
  have hwrite : write thread cs (id, body) = fun s => match cs.find? (·.carries id) with
      | some c => s.updateComment (c.ref thread) body
      | none => (s.addComment thread body).2 := by
    funext s
    unfold write target
    cases cs.find? (·.carries id) <;> rfl
  rw [hcall, hwrite]
  cases cs.find? (·.carries id) with
  | some c => exact ⟨_, proceeds_updateComment u (c.ref thread) body⟩
  | none => exact ⟨_, (proceeds_threadOf hx hthread).bind ((proceeds_addComment u thread body).map _)⟩

theorem ticket?_write (p : Int × String) (s : Store) : (write thread cs p s).ticket? r = s.ticket? r := by
  unfold write
  split <;> rfl

variable {copies : List (GitHub.Comment × String)}

/-- Every comment of the source's is written, whichever of these calls fail. -/
theorem proceeds_writeAll (hmarks : ∀ c ∈ cs, ∃ o, c.mark = .ok o)
    (hbodies : ∀ p ∈ copies, Logged.result (b.commentBody p.1) = .ok p.2)
    (hx : u.store.ticket? r = some x) (hthread : x.thread? = some thread) :
    Proceeds u ((copies.map (·.1)).forM (b.writeComment r (cs.map (·.ref thread)))) (.ok ())
      (u.askAll (writeCall thread cs) (write thread cs) (copies.map fun p => (p.1.id, p.2))) := by
  have hstep : ∀ u : Course, u.store.ticket? r = some x → ∀ p ∈ copies,
      Proceeds u (b.writeComment r (cs.map (·.ref thread)) p.1) (.ok ())
        (u.ask (writeCall thread cs (p.1.id, p.2)) (write thread cs (p.1.id, p.2))) := by
    intro u hx p hp
    have hbody := Proceeds.ofLogged (u := u) (b.blind_commentBody p.1)
    rw [hbodies p hp] at hbody
    obtain ⟨o, hput⟩ := proceeds_putComment cs hx hthread p.1.id p.2
    refine hbody.bind ?_
    rw [matching_of_marks hmarks]
    exact (Proceeds.ofExcept (.ok _)).bind (hput.contain _ _)
  have hkeep : ∀ u : Course, u.store.ticket? r = some x → ∀ p ∈ copies,
      (u.ask (writeCall thread cs (p.1.id, p.2)) (write thread cs (p.1.id, p.2))).store.ticket? r = some x := by
    intro u hx p _
    rw [Course.store_ask]
    split
    · rw [ticket?_write]
      exact hx
    · exact hx
  have hall := Proceeds.forM_askAll hkeep hstep hx
  rw [Course.askAll, List.foldl_map]
  exact hall

theorem thread_askAll_write (hlookup : u.store.threads.lookup thread = some cs) (hd : (cs.map (·.id)).Nodup)
    {bodies : List (Int × String)} (hids : (bodies.map (·.1)).Nodup) :
    (u.askAll (writeCall thread cs) (write thread cs) bodies).store.thread thread =
      rewritten (u.faults.letThrough (writeCall thread cs) u.history bodies) cs ++
        appended u.store.added (u.faults.letThrough (writeCall thread cs) u.history bodies) cs := by
  refine Store.thread_of_lookup ?_
  rw [Course.store_askAll]
  exact (written_thread hlookup hd (hids.sublist ((Faults.sublist_letThrough ..).map _))).1

end Writing

theorem course_of_comments {l : List CommentRef} (h : outcome (Tracker.comments thread) w = .ok l) :
    l = (w.store.thread thread).map (·.ref thread) ∧
      (after (Tracker.comments thread) w).course =
        (w.course.call (.comments thread)).mapStore fun s => (s.comments thread).2 := by
  obtain ⟨ho, hafter⟩ := proceeds_comments w.course thread w rfl
  rw [h] at ho
  cases hanswer : w.course.answer (.comments thread) with
  | error f =>
    rw [hanswer] at ho
    cases ho
  | ok _ =>
    rw [hanswer] at ho
    rw [hafter, Course.ask_of_ok hanswer]
    exact ⟨Except.ok.inj ho, rfl⟩

/-- The calls by which the comments of an issue are read, the latest first. -/
def readingCalls (owner name : String) (number : Int) (since : Time.Timestamp) : List Call :=
  [.listComments number (some since.withZone), .issue number, .repository (GitHub.fullName owner name) true]

theorem course_of_githubComments {owner name : String} {number : Int} {since : Time.Timestamp}
    {l : List GitHub.Comment} (h : outcome (GitHub.comments owner name number (some since)) w = .ok l) :
    (after (GitHub.comments owner name number (some since)) w).course =
      { w.course with history := readingCalls owner name number since ++ w.course.history } := by
  have hlogged : ∀ (x : Step (List GitHub.Comment)) (start : String),
      outcome x w = .ok l → after (logging Failure.isSources start x) w = after x w := by
    intro x start hx
    unfold logging loggingFrom
    rw [after_bind_ok (outcome_observe x w), after_observe, hx]
    rfl
  unfold GitHub.comments at h ⊢
  dsimp only at h ⊢
  rw [outcome_logging] at h
  rw [hlogged _ _ h]
  obtain ⟨_, hrepository, h⟩ := bind_eq_ok h
  obtain ⟨_, hissue, h⟩ := bind_eq_ok h
  obtain ⟨_, hlist, h⟩ := bind_eq_ok h
  rw [after_bind_ok hrepository, after_bind_ok hissue, after_bind_ok hlist]
  rw [after_bind_ok (outcome_get _), after_ofExcept]
  simp only [after_place, after_get]
  rfl

section Synchronising

variable {existing : List CommentRef} {copies : List (GitHub.Comment × String)} {i : GitHub.Issue} {name : String}
  {repo : Repo} {since : Time.Timestamp}

/-- Synchronising the comments of an issue returns whatever fails, if both sides can be read. When the source has
no comments left, they are not asked for; each comment of the thread that has a token is asked to be deleted, and
exactly those whose calls failed are left of these. Otherwise each comment of the source is written, in the place
of the first comment with its id in its token or as a new one, and those of the calls that did not fail have
their effect. -/
theorem syncComments_told (hx : w.store.ticket? r = some x) (hthread : x.thread? = some thread)
    (hcs : w.store.thread thread = cs) (hread : outcome (Tracker.comments thread) w = .ok existing)
    (hd : (cs.map (·.id)).Nodup) (hmarks : ∀ c ∈ cs, ∃ o, c.mark = .ok o)
    (hsource : i.comments ≠ 0 → outcome (GitHub.comments repo.owner name i.number (some since))
      (after (Tracker.comments thread) w) = .ok (copies.map (·.1)))
    (hbodies : ∀ p ∈ copies, Logged.result (b.commentBody p.1) = .ok p.2)
    (hids : (copies.map (·.1.id)).Nodup) :
    outcome (b.syncComments r i name repo since) w = .ok () ∧
      if i.comments = 0 then
        let synced := cs.filter (·.isMarked)
        let read := .comments thread :: w.history
        let gone := w.faults.letThrough deleteCall read synced
        (after (b.syncComments r i name repo since) w).history = (synced.map deleteCall).reverse ++ read ∧
          (after (b.syncComments r i name repo since) w).store.thread thread =
            cs.filter fun c => c.id ∉ gone.map (·.id)
      else
        let bodies := copies.map fun p => (p.1.id, p.2)
        let read := readingCalls repo.owner name i.number since ++ .comments thread :: w.history
        let done := w.faults.letThrough (writeCall thread cs) read bodies
        (after (b.syncComments r i name repo since) w).history =
            (bodies.map (writeCall thread cs)).reverse ++ read ∧
          (after (b.syncComments r i name repo since) w).store.thread thread =
            rewritten done cs ++ appended w.store.added done cs := by
  obtain ⟨hthreadOf, hsame⟩ := outcome_threadOf hx hthread
  obtain ⟨hexisting, hcourse⟩ := course_of_comments hread
  have hlookup : ((w.store.comments thread).2).threads.lookup thread = some cs := hcs ▸ Store.lookup_comments ..
  unfold syncComments
  rw [outcome_bind_ok hthreadOf, after_bind_ok hthreadOf, hsame, outcome_bind_ok hread, after_bind_ok hread,
    hexisting, hcs]
  by_cases hnone : i.comments = 0
  · rw [if_pos hnone, if_pos hnone]
    obtain ⟨ho, hafter⟩ := proceeds_deleteAll thread hmarks _ _ hcourse
    refine ⟨ho, (congrArg Course.history hafter).trans (Course.history_askAll ..), ?_⟩
    have hstore := congrArg (·.store.thread thread) hafter
    exact hstore.trans (thread_askAll_delete hlookup hd _)
  · rw [if_neg hnone, if_neg hnone, outcome_bind_ok (hsource hnone), after_bind_ok (hsource hnone)]
    have hread := course_of_githubComments (hsource hnone)
    rw [hcourse] at hread
    obtain ⟨ho, hafter⟩ := proceeds_writeAll hmarks hbodies
      (show Store.ticket? (w.store.comments thread).2 r = some x from hx) hthread _ hread
    refine ⟨ho, (congrArg Course.history hafter).trans (Course.history_askAll ..), ?_⟩
    have hids' : ((copies.map fun p => (p.1.id, p.2)).map (·.1)).Nodup := by rwa [List.map_map]
    have hstore := congrArg (·.store.thread thread) hafter
    exact hstore.trans (thread_askAll_write hlookup hd hids')

/-- A ticket whose thread has two comments for the same comment of the source, one for a comment that is gone
there, and one that was written in the tracker. -/
def debatedTicket : Ticket where
  key := .given "AB-1"
  id := .given "10001"
  fields := .given []

def debate : List Comment := [⟨"1", .given "Comment [(ID 5)|a] from x"⟩, ⟨"2", .given "Thanks"⟩,
  ⟨"3", .given "Comment [(ID 5)|b] from x"⟩, ⟨"4", .given "Comment [(ID 9)|c] from x"⟩]

def debateWorld : World := { smallWorld with
  source :=
    { comments := [("acme/app#1", [.obj [("id", .int 5), ("body", .str "Hello")],
        .obj [("id", .int 6), ("body", .str "Why")], .obj [("id", .int 8), ("body", .str "Because")]])] }
  store := { tickets := [debatedTicket], threads := [(some "10001", debate)] }
  faults := fun history _ =>
    match history with
    | .updateComment .. :: _ => .failed (.connection "reset")
    | _ => .served }

def debateRepo : Repo := { owner := "acme" }

def debateIssue : GitHub.Issue := { id := 7, number := 1, comments := 3 }

def remark (id : Int) (text : String) : GitHub.Comment × String :=
  ({ id, body := some text }, Projector.attributed { id } "" (Text.cutBody text))

theorem result_commentBody_remark (id : Int) (text : String) :
    Logged.result (small.commentBody (remark id text).1) = .ok (remark id text).2 :=
  small.result_commentBody _

theorem syncComments_told_debate :
    outcome (small.syncComments 0 debateIssue "app" debateRepo smallWorld.clock) debateWorld = .ok () ∧
      ((after (small.syncComments 0 debateIssue "app" debateRepo smallWorld.clock) debateWorld).store.thread
          (some "10001")).map (fun c => (c.id, c.body.get?)) =
        [("1", some (remark 5 "Hello").2), ("2", some "Thanks"), ("3", some "Comment [(ID 5)|b] from x"),
          ("4", some "Comment [(ID 9)|c] from x"), ("n1", some (remark 8 "Because").2)] := by
  have hsource : outcome (GitHub.comments debateRepo.owner "app" debateIssue.number (some smallWorld.clock))
      (after (Tracker.comments (some "10001")) debateWorld) =
        .ok ([remark 5 "Hello", remark 6 "Why", remark 8 "Because"].map (·.1)) := by
    with_unfolding_all rfl
  have hmarks : ∀ c ∈ debate, ∃ o, c.mark = .ok o := by
    have hread : ∀ c ∈ debate, c.mark.toOption.isSome := by decide +kernel
    intro c hc
    obtain ⟨o, ho⟩ := Option.isSome_iff_exists.mp (hread c hc)
    exact ⟨o, eq_ok_of_toOption ho⟩
  have hbodies : ∀ p ∈ [remark 5 "Hello", remark 6 "Why", remark 8 "Because"],
      Logged.result (small.commentBody p.1) = .ok p.2 := by
    intro p hp
    simp only [List.mem_cons, List.not_mem_nil, or_false] at hp
    rcases hp with rfl | rfl | rfl <;> exact result_commentBody_remark ..
  obtain ⟨ho, hafter⟩ := syncComments_told (w := debateWorld) (r := 0) (x := debatedTicket) rfl rfl rfl rfl
    (by decide) hmarks (fun _ => hsource) hbodies (by decide)
  refine ⟨ho, ?_⟩
  rw [if_neg (by decide)] at hafter
  rw [hafter.2]
  decide +kernel

end Synchronising

end Bridge

end IssueBridge
