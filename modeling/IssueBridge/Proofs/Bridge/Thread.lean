import IssueBridge.Proofs.Bridge.Counterpart
import IssueBridge.Proofs.Correlation.Token
import IssueBridge.Proofs.GitHub.Listing

/-! # Steps on the comments of a ticket

The comments of a ticket stand in the thread of its id. Steps on them stay inside this thread, and an
event about a comment adds, rewrites or removes at most one.
-/

namespace IssueBridge

open Step Tracker

def Frame.comments (r : TicketRef) (D : ThreadId → Prop) : Frame :=
  (Frame.alters [] (fun _ => False) D).under
    (fun w => ∀ x thread, w.store.ticket? r = some x → x.thread? = some thread → D thread)
    fun h hw => h.store ▸ hw

variable {α : Type} {D : ThreadId → Prop} {r : TicketRef} {x : Step α} {w : World}

theorem Step.Keeps.inComments (hx : Keeps (.alters [] (fun _ => False) D) x) :
    Keeps (.comments r D) x := by
  intro w hw
  refine ⟨fun y thread hy => hw y thread ?_, hx w⟩
  rw [Store.ticket?, ← (hx w).1.tickets_eq]
  exact hy

namespace Bridge

variable {b : Bridge} {i : GitHub.Issue} {name : String} {repo : Repo} {since : Time.Timestamp}

theorem silent_threadOf (r : TicketRef) : Silent (threadOf r) :=
  (silent_ticket r).bind fun _ => silent_part _

theorem threadOf_eq_ok {thread : ThreadId} (h : outcome (threadOf r) w = .ok thread) :
    ∃ x, w.store.ticket? r = some x ∧ x.thread? = some thread := by
  obtain ⟨x, hx, h⟩ := bind_eq_ok h
  exact ⟨x, ticket_eq_ok hx, part_id_eq_ok h⟩

/-- What is done with the thread of a ticket starts with the thread that its id names. -/
theorem keeps_threadOf_bind {f : ThreadId → Step α}
    (h : ∀ thread, D thread → Keeps (.comments r D) (f thread)) :
    Keeps (.comments r D) (threadOf r >>= f) := by
  intro w hw
  rcases bind_cases (silent_threadOf r) f w with ⟨thread, ht, hs, ha⟩ | hs
  · obtain ⟨x, hx, hthread⟩ := threadOf_eq_ok ht
    rw [ha]
    exact (Frame.comments r D).trans ((Frame.comments r D).noted hs)
      (h thread (hw x thread hx hthread) _) hw
  · exact (Frame.comments r D).noted hs hw

theorem thread_of_comments {thread : ThreadId} {l : List CommentRef}
    (h : outcome (Tracker.comments thread) w = .ok l) : ∀ c ∈ l, c.thread = thread := by
  rw [comments_eq_ok h]
  intro c hc
  obtain ⟨_, -, rfl⟩ := List.mem_map.mp hc
  rfl

theorem keeps_deleteIfSynced {c : CommentRef} (hc : D c.thread) :
    Keeps (.comments r D) (deleteIfSynced c) := by
  refine (Keeps.ofExcept _).bind fun o => ?_
  split
  · exact (keeps_deleteComment hc).inComments.contain _ _
  · exact .pure _

theorem keeps_putComment {body : String} : ∀ {old : Option CommentRef}, (∀ c ∈ old, D c.thread) →
    Keeps (.comments r D) (putComment r body old)
  | some _, h => (keeps_updateComment body (h _ rfl)).inComments
  | none, _ => keeps_threadOf_bind fun _ hD => (keeps_addComment body hD).inComments.discard

theorem keeps_writeComment {existing : List CommentRef} (h : ∀ c ∈ existing, D c.thread)
    (c : GitHub.Comment) : Keeps (.comments r D) (b.writeComment r existing c) :=
  (Keeps.ofLogged _).bind fun body w => by
    refine rel_bind (Keeps.ofExcept _ w) fun old ho => ?_
    rw [outcome_ofExcept] at ho
    refine (keeps_putComment fun o hold => h o ?_).contain _ _ _
    rw [Option.mem_def.mp hold] at ho
    exact Correlation.mem_of_findToken? ho

theorem keeps_syncComments : Keeps (.comments r D) (b.syncComments r i name repo since) :=
  keeps_threadOf_bind fun thread hD w => by
    refine rel_bind ((keeps_comments thread).inComments w) fun existing he => ?_
    have hex : ∀ c ∈ existing, D c.thread := fun c hc => thread_of_comments he c hc ▸ hD
    split
    · exact Keeps.forM (fun c hc => keeps_deleteIfSynced (hex c hc)) _
    · exact (GitHub.silent_comments repo.owner name i.number (some since)).keeps.bind
        (fun comments => .forM fun c _ => keeps_writeComment hex c) _

end Bridge

/-- What an event about a comment may make of a thread. -/
inductive CommentAction.Turns : CommentAction → List Comment → List Comment → Prop
  | nothing (a : CommentAction) (cs : List Comment) : Turns a cs cs
  | added (cs : List Comment) (c : Comment) : Turns .created cs (cs ++ [c])
  | rewritten (before after : List Comment) (c : Comment) (body : String) :
    Turns .edited (before ++ c :: after) (before ++ { c with body := .given body } :: after)
  | removed (before after : List Comment) (c : Comment) :
    Turns .deleted (before ++ c :: after) (before ++ after)

theorem CommentAction.Turns.cons {cs cs' : List Comment} (c : Comment) (h : Turns .edited cs cs') :
    Turns .edited (c :: cs) (c :: cs') := by
  cases h with
  | nothing => exact .nothing ..
  | rewritten before after c' body => exact .rewritten (c :: before) after c' body

theorem CommentAction.turns_setBody (id body : String) :
    ∀ cs : List Comment, Turns .edited cs (Store.setBody id body cs)
  | [] => .nothing ..
  | c :: cs => by
    unfold Store.setBody
    split
    · exact .rewritten [] cs c body
    · exact (turns_setBody id body cs).cons c

theorem CommentAction.turns_eraseP (p : Comment → Bool) (cs : List Comment) :
    Turns .deleted cs (cs.eraseP p) := by
  rcases List.exists_or_eq_self_of_eraseP p cs with h | ⟨c, before, after, -, -, h, h'⟩
  · rw [h]
    exact .nothing ..
  · rw [h', h]
    exact .removed before after c

namespace Tracker.Store

/-- The two stores differ at most in one thread, as an event about a comment may turn it. -/
structure Turned (a : CommentAction) (thread : ThreadId) (s t : Store) : Prop where
  tickets : t.tickets = s.tickets
  turned : a.Turns (s.thread thread) (t.thread thread)
  others : ∀ id, id ≠ thread → t.thread id = s.thread id

variable {a : CommentAction} {thread : ThreadId} {s t u : Store}

abbrev Quiet (s t : Store) : Prop := Alters [] (fun _ => False) (fun _ => False) s t

theorem Alters.thread_eq {names : List String} {T : TicketRef → Prop}
    (h : Alters names T (fun _ => False) s t) (id : ThreadId) : t.thread id = s.thread id :=
  (h.thread id).resolve_left not_false

theorem Turned.of_quiet (h : Quiet s t) : Turned a thread s t where
  tickets := h.tickets_eq
  turned := by
    rw [h.thread_eq]
    exact .nothing ..
  others id _ := h.thread_eq id

theorem Turned.quiet_left (h : Quiet s t) (h' : Turned a thread t u) : Turned a thread s u where
  tickets := h'.tickets.trans h.tickets_eq
  turned := h.thread_eq thread ▸ h'.turned
  others id hid := (h'.others id hid).trans (h.thread_eq id)

theorem Turned.alterThread {f : List Comment → List Comment} {n : Nat}
    (h : a.Turns (s.thread thread) (f (s.thread thread))) :
    Turned a thread s { s with threads := Store.alterThread f thread s.threads, added := n } where
  tickets := rfl
  turned := by
    have ht : Store.thread { s with threads := Store.alterThread f thread s.threads } thread = _ :=
      thread_alter s f thread thread
    rw [if_pos rfl] at ht
    exact ht ▸ h
  others id hid := (thread_alter s f thread id).trans (if_neg hid)

theorem Turned.alters {names : List String} {T : TicketRef → Prop} (h : Turned a thread s t)
    (hw : t.workflow = s.workflow) : Alters names T (· = thread) s t :=
  .of_threads h.tickets hw fun id => or_iff_not_imp_left.mpr (h.others id)

end Tracker.Store

def Frame.quiet : Frame := .alters [] (fun _ => False) (fun _ => False)

theorem Step.Applies.turned {a : CommentAction} {thread : ThreadId} {g : Store → Store} {x : Step α}
    (hx : Applies g x) (hg : ∀ s : Store, s.Turned a thread (g s)) (w : World) :
    w.store.Turned a thread (after x w).store := by
  rcases hx w with h | h
  · rw [h.store]
    exact .of_quiet (.refl _)
  · rw [h.store]
    exact hg w.store

namespace Bridge

variable {b : Bridge} {a : CommentAction} {repo : Repo}

def Turning (a : CommentAction) (r : TicketRef) (v w : World) : Prop :=
  w.store = v.store ∨ ∃ x thread, v.store.ticket? r = some x ∧ x.thread? = some thread ∧
    v.store.Turned a thread w.store

theorem Turning.of_agrees {u v w : World} (h : u.Agrees v) (h' : Turning a r v w) : Turning a r u w := by
  rw [Turning, h.store] at h'
  exact h'

theorem turning_threadOf_bind {f : ThreadId → Step α}
    (h : ∀ thread (w : World), w.store.Turned a thread (after (f thread) w).store) (w : World) :
    Turning a r w (after (threadOf r >>= f) w) := by
  rcases bind_cases (silent_threadOf r) f w with ⟨thread, ht, hs, ha⟩ | hs
  · obtain ⟨x, hx, hthread⟩ := threadOf_eq_ok ht
    refine .inr ⟨x, thread, hx, hthread, ?_⟩
    have hturned := h thread (after (threadOf r) w)
    rw [World.Agrees.store hs] at hturned
    rw [ha]
    exact hturned
  · exact .inl (World.Agrees.store hs)

theorem keeps_findComment {names : List String} {T : TicketRef → Prop} (thread : ThreadId) (id : Int) :
    Keeps (.alters names T D) (findComment thread id) := by
  refine Keeps.bind (keeps_comments thread) fun l => (Keeps.ofExcept _).bind fun o => ?_
  cases o with
  | none => exact .throw _
  | some c => exact .pure c

theorem thread_of_findComment {thread : ThreadId} {id : Int} {c : CommentRef}
    (h : outcome (findComment thread id) w = .ok c) : c.thread = thread := by
  obtain ⟨l, hl, h⟩ := bind_eq_ok h
  obtain ⟨o, ho, h⟩ := bind_eq_ok h
  rw [outcome_ofExcept] at ho
  match o with
  | none => cases h
  | some c' =>
    cases h
    exact thread_of_comments hl c (Correlation.mem_of_findToken? ho)

theorem turned_findComment_bind {thread : ThreadId} {id : Int} {f : CommentRef → Step α}
    (h : ∀ (c : CommentRef) (w : World), c.thread = thread →
      w.store.Turned a thread (after (f c) w).store) (w : World) :
    w.store.Turned a thread (after (findComment thread id >>= f) w).store := by
  rcases bind_cases (F := .quiet) (keeps_findComment thread id) f w with ⟨c, hc, hs, ha⟩ | hs
  · rw [ha]
    exact .quiet_left hs.1 (h c _ (thread_of_findComment hc))
  · exact .of_quiet hs.1

theorem turning_commentCreated (e : GitHub.CommentEvent) (r : TicketRef) (w : World) :
    Turning .created r w (after (do
      let body ← ofLogged (b.commentBody e.comment)
      Tracker.addComment (← threadOf r) body) w) := by
  rcases bind_cases (F := .agreement) (Keeps.ofLogged (b.commentBody e.comment)) _ w with
    ⟨body, -, hs, ha⟩ | hs
  · rw [ha]
    refine .of_agrees hs (turning_threadOf_bind (fun thread => ?_) _)
    exact (applies_addComment thread body).turned fun s => .alterThread (.added ..)
  · exact .inl (World.Agrees.store hs)

theorem turning_commentEdited (e : GitHub.CommentEvent) (r : TicketRef) (w : World) :
    Turning .edited r w (after (do
      let c ← findComment (← threadOf r) e.comment.id
      Tracker.updateComment c (← ofLogged (b.commentBody e.comment))
      return c) w) := by
  refine turning_threadOf_bind (fun thread => turned_findComment_bind fun c w hc => ?_) w
  subst hc
  rcases bind_cases (F := .agreement) (Keeps.ofLogged (b.commentBody e.comment)) _ w with
    ⟨body, -, hs, ha⟩ | hs
  · rw [ha, ← World.Agrees.store hs]
    exact ((applies_updateComment c body).bind_silent fun _ => .pure c).turned
      (fun s => .alterThread (CommentAction.turns_setBody ..)) _
  · rw [World.Agrees.store hs]
    exact .of_quiet (.refl _)

theorem turning_commentDeleted (e : GitHub.CommentEvent) (r : TicketRef) (w : World) :
    Turning .deleted r w (after (do
      Tracker.deleteComment (← findComment (← threadOf r) e.comment.id)) w) := by
  refine turning_threadOf_bind (fun thread => turned_findComment_bind fun c w hc => ?_) w
  subst hc
  exact (applies_deleteComment c).turned (fun s => .alterThread (CommentAction.turns_eraseP ..)) w

theorem turning_findIssue_bind {project : String} {id : Int} {f : TicketRef → Step α}
    (h : ∀ r w, Turning a r w (after (f r) w)) (w : World) :
    (after (b.findIssue project id >>= f) w).store = w.store ∨
      ∃ r, b.finds w.store project id = [r] ∧ Turning a r w (after (b.findIssue project id >>= f) w) := by
  rcases bind_cases (silent_findIssue b project id) f w with ⟨r, hr, hs, ha⟩ | hs
  · rw [ha]
    exact .inr ⟨r, findIssue_eq_ok hr, .of_agrees hs (h r _)⟩
  · exact .inl (World.Agrees.store hs)

/-- An event about a comment turns the thread of the ticket that is found, or changes nothing. -/
theorem turning_handleComment (b : Bridge) (a : CommentAction) (e : GitHub.CommentEvent) (repo : Repo)
    (w : World) : (after (b.handleComment a e repo) w).store = w.store ∨
      ∃ r, b.finds w.store repo.project e.issue.id = [r] ∧
        Turning a r w (after (b.handleComment a e repo) w) := by
  cases a with
  | created =>
    unfold handleComment commentCreated
    rw [after_map]
    exact turning_findIssue_bind (turning_commentCreated e) w
  | edited =>
    unfold handleComment commentEdited
    rw [after_map]
    exact turning_findIssue_bind (turning_commentEdited e) w
  | deleted =>
    unfold handleComment commentDeleted
    rw [after_bind_pure]
    exact turning_findIssue_bind (turning_commentDeleted e) w

theorem keeps_handleComment (b : Bridge) (a : CommentAction) (e : GitHub.CommentEvent) (repo : Repo) :
    Keeps (.alters [] (fun _ => False) fun _ => True) (b.handleComment a e repo) := by
  have hfind := silent_findIssue b repo.project e.issue.id
  cases a with
  | created =>
    refine .map (hfind.keeps.bind fun r => (Keeps.ofLogged _).bind fun body => ?_) _
    exact (silent_threadOf r).keeps.bind fun thread => keeps_addComment body trivial
  | edited =>
    refine .map (hfind.keeps.bind fun r => (silent_threadOf r).keeps.bind fun thread => ?_) _
    refine (keeps_findComment thread _).bind fun c => (Keeps.ofLogged _).bind fun body => ?_
    exact (keeps_updateComment body trivial).bind fun _ => .pure c
  | deleted =>
    refine .bind (hfind.keeps.bind fun r => (silent_threadOf r).keeps.bind fun thread => ?_) fun _ => .pure _
    exact (keeps_findComment thread _).bind fun c => keeps_deleteComment trivial

end Bridge

end IssueBridge
