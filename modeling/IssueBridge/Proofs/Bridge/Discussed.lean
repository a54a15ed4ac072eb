import IssueBridge.Proofs.Bridge.Delivered
import IssueBridge.Proofs.Bridge.Mirror
import IssueBridge.Proofs.Bridge.Native
import IssueBridge.Proofs.Bridge.Spare

/-! # The comments of an issue and its ticket's thread

Events about the comments of an issue, in between events about others, keep its ticket's thread as it was,
followed by copies of the live comments. A pass over the same comments leaves the thread as the events
made it.
-/

namespace IssueBridge

open Step Tracker

/-- What the event says of a comment of the issue with the id in the repository, if it is acted upon. -/
def Event.note? (name : String) (id : Int) : Event → Option (CommentAction × GitHub.Comment)
  | .comment e =>
    if e.repository.name = name ∧ e.issue.id = id ∧ e.issue.isPullRequest = false then
      (CommentAction.named? e.action).map fun a => (a, e.comment)
    else none
  | .issue _ => none

namespace Operation

def note? (name : String) (id : Int) (op : Operation) : Option (CommentAction × GitHub.Comment) :=
  op.event?.bind (Event.note? name id)

/-- An event about a comment of the issue is delivered, or none that is about this issue. -/
def Discusses (name : String) (id : Int) (op : Operation) : Prop :=
  (∃ n, op.note? name id = some n) ∨ op.isDelivery ∧ ∀ e, op.event? = some e → e.subject.id ≠ id

end Operation

def notes (name : String) (id : Int) (ops : List Operation) : List (CommentAction × GitHub.Comment) :=
  ops.filterMap (·.note? name id)

namespace Bridge

variable {b : Bridge} {name : String} {repo : Repo} {id : Int} {r : TicketRef} {thread : ThreadId}
  {init cs : List Comment} {live : List GitHub.Comment} {s t : Store} {a : CommentAction} {e : Event}
  {c : GitHub.Comment} {op : Operation} {w : World} {kind : String} {bytes : ByteArray} {v : Scene}

section Running

def createdIds (notes : List (CommentAction × GitHub.Comment)) : List Int :=
  (notes.filter (·.1 = .created)).map (·.2.id)

/-- The notes may follow the live comments: no comment is created twice, no id is negative, and what is
written can be rendered. -/
structure Orderly (b : Bridge) (live : List GitHub.Comment)
    (notes : List (CommentAction × GitHub.Comment)) : Prop where
  once : (live.map (·.id) ++ createdIds notes).Nodup
  natural : ∀ n ∈ notes, 0 ≤ n.2.id
  rendered : ∀ n ∈ notes, n.1 ≠ .deleted → ∃ body, Logged.result (b.commentBody n.2) = .ok body

theorem Orderly.fresh {notes : List (CommentAction × GitHub.Comment)}
    (h : b.Orderly live ((.created, c) :: notes)) : ∀ d ∈ live, d.id ≠ c.id := by
  intro d hd heq
  have hid : c.id ∈ createdIds ((.created, c) :: notes) := List.mem_cons_self
  exact (List.nodup_append.mp h.once).2.2 d.id (List.mem_map_of_mem hd) c.id hid heq

theorem Orderly.next {notes : List (CommentAction × GitHub.Comment)}
    (h : b.Orderly live ((a, c) :: notes)) : b.Orderly (a.applied c live) notes where
  once := by
    have honce := h.once
    cases a with
    | created =>
      have hids : (CommentAction.created.applied c live).map (·.id) = live.map (·.id) ++ [c.id] :=
        List.map_append
      rw [hids, List.append_assoc]
      exact honce
    | edited =>
      rw [map_id_applied_edited]
      exact honce
    | deleted =>
      have hsub : (CommentAction.deleted.applied c live).Sublist live := List.filter_sublist
      exact honce.sublist ((hsub.map _).append_right _)
  natural n hn := h.natural n (List.mem_cons_of_mem _ hn)
  rendered n hn := h.rendered n (List.mem_cons_of_mem _ hn)

/-- The issue is carried, and the thread of its ticket consists of the comments `init` and the copies of
the live ones. -/
structure Discussed (b : Bridge) (repo : Repo) (id : Int) (r : TicketRef) (thread : ThreadId)
    (init : List Comment) (live : List GitHub.Comment) (s : Store) : Prop where
  carried : b.Carried repo id r thread s
  threaded : s.Threaded
  told : b.Told init live (s.thread thread)

theorem Event.of_note? (h : e.note? name id = some (a, c)) : ∃ e' : GitHub.CommentEvent,
    e = .comment e' ∧ e'.repository.name = name ∧ e'.issue.id = id ∧ e'.issue.isPullRequest = false ∧
      CommentAction.named? e'.action = some a ∧ e'.comment = c := by
  cases e with
  | issue e => cases h
  | comment e =>
    obtain ⟨⟨hname, hid, hissue⟩, h⟩ := Option.ite_none_right_eq_some.mp h
    obtain ⟨a', ha, heq⟩ := Option.map_eq_some_iff.mp h
    cases heq
    exact ⟨e, rfl, hname, hid, hissue, ha, rfl⟩

theorem short_of_read? {e : GitHub.CommentEvent} (h : Event.read? kind bytes = some (.ok (.comment e))) :
    Short e.comment.id := by
  unfold Event.read? at h
  split at h
  · cases hread : GitHub.IssueEvent.model.ofBytes bytes <;> rw [hread] at h <;> cases h
  · split at h
    · cases hread : GitHub.CommentEvent.model.ofBytes bytes with
      | error f =>
        rw [hread] at h
        cases h
      | ok e' =>
        rw [hread] at h
        cases h
        exact GitHub.CommentEvent.short_of_delivery hread
    · cases h

/-- An operation that delivers a note does to the thread what the note says. -/
theorem leaves_note (hr : b.settings.repos.lookup name = some repo) (hc : b.Carried repo id r thread v.store)
    (h : op.note? name id = some (a, c)) :
    Short c.id ∧ Leaves v (op.run b) (b.noted thread a c v) := by
  obtain ⟨e, hevent, hnote⟩ := Option.bind_eq_some_iff.mp h
  obtain ⟨e, rfl, rfl, rfl, hissue, ha, rfl⟩ := Event.of_note? hnote
  obtain ⟨x, hx, hthread⟩ := hc.thread
  obtain ⟨-, n, hn⟩ := hc.numbered.keyed x (Store.mem_of_ticket? hx)
  have hid : thread = some n := by
    rw [← Ticket.get?_id hthread, hn]
    rfl
  have hhandle := leaves_handleComment (e := e) hc.sole hx hn a
  rw [hid]
  have hleaves : Leaves v (discard (b.handleComment a e repo)) (b.noted (some n) a e.comment v) :=
    fun w hw => by
      rw [after_discard]
      exact hhandle w hw
  refine ⟨?_, leaves_run hevent ((Accepts.of_comment hissue ha hr).leaves_handle hleaves)⟩
  cases op with
  | deliver kind delivery bytes => exact short_of_read? (read?_eq_ok hevent)
  | process kind delivery bytes => exact short_of_read? (read?_eq_ok hevent)
  | pass => cases hevent
  | job => cases hevent
  | presync => cases hevent

theorem Discussed.note (h : b.Discussed repo id r thread init live w.store)
    (hr : b.settings.repos.lookup name = some repo) (hw : w.Calm) (hop : op.note? name id = some (a, c))
    {notes : List (CommentAction × GitHub.Comment)} (hnotes : b.Orderly live ((a, c) :: notes))
    (hinit : ∀ k ∈ init, k.Avoids c.id) :
    b.Discussed repo id r thread init (a.applied c live) (after (op.run b) w).store := by
  have hscene : w.Shows w.scene := ⟨hw, rfl⟩
  obtain ⟨hshort, hleaves⟩ := leaves_note (v := w.scene) hr h.carried hop
  have hstore := (hleaves w hscene).store
  constructor
  case carried =>
    rw [hstore]
    exact h.carried.of_tickets_eq (inThread_noted b thread a c w.scene).tickets
  case threaded =>
    exact (guards_operation b op w ⟨h.threaded, fun _ hr => by cases hr⟩).1.threaded
  case told =>
    rw [hstore]
    refine told_noted (v := w.scene) h.told h.threaded ⟨hnotes.natural _ List.mem_cons_self, hshort⟩ hinit ?_
      (hnotes.rendered _ List.mem_cons_self)
    rintro rfl
    exact hnotes.fresh

theorem Discussed.aside (h : b.Discussed repo id r thread init live w.store) (hop : op.isDelivery)
    (hother : ∀ e, op.event? = some e → e.subject.id ≠ id) :
    b.Discussed repo id r thread init live (after (op.run b) w).store := by
  have haside : ∀ q : Correlation.Query, q.id = id → (Frame.aside b q).rel w (after (op.run b) w) := by
    rintro q rfl
    cases op with
    | deliver kind delivery bytes =>
      unfold Operation.run
      rw [after_discard]
      exact keeps_dispatch (handles_aside fun e he => hother e (event?_of_read? he)) delivery w
    | process kind delivery bytes =>
      exact keeps_process (handles_aside fun e he => hother e (event?_of_read? he)) delivery w
    | pass => cases hop
    | job => cases hop
    | presync => cases hop
  obtain ⟨hcarried, hthread⟩ := h.carried.aside haside
  refine ⟨hcarried, (guards_operation b op w ⟨h.threaded, fun _ hr => by cases hr⟩).1.threaded, ?_⟩
  rw [hthread]
  exact h.told

/-- Every run of deliveries keeps the thread as it was, followed by copies of the live comments. -/
theorem Runs.discussed {ops : List Operation} (hrun : b.Runs World.Calm ops s t) :
    ∀ {live : List GitHub.Comment}, b.settings.repos.lookup name = some repo →
      (∀ op ∈ ops, op.Discusses name id) → b.Orderly live (notes name id ops) →
      (∀ n ∈ notes name id ops, ∀ k ∈ init, k.Avoids n.2.id) →
      b.Discussed repo id r thread init live s →
      b.Discussed repo id r thread init
        ((notes name id ops).foldl (fun live n => n.1.applied n.2 live) live) t := by
  induction hrun with
  | nil s => exact fun _ _ _ _ h => h
  | @cons op ops t w hw hrun ih =>
    intro live hr hops hnotes hinit h
    have hrest : ∀ op ∈ ops, op.Discusses name id := fun op' h' => hops op' (List.mem_cons_of_mem _ h')
    unfold notes at hnotes hinit ⊢
    rcases hops op List.mem_cons_self with ⟨⟨a, c⟩, hop⟩ | ⟨hdelivery, hother⟩
    · rw [List.filterMap_cons_some hop] at hnotes hinit ⊢
      exact ih hr hrest hnotes.next (fun n hn => hinit n (List.mem_cons_of_mem _ hn))
        (h.note hr hw hop hnotes (hinit _ List.mem_cons_self))
    · have hop : op.note? name id = none := by
        unfold Operation.note?
        cases hevent : op.event? with
        | none => rfl
        | some e =>
          by_contra hsome
          obtain ⟨⟨a, c⟩, hnote⟩ := Option.ne_none_iff_exists'.mp hsome
          obtain ⟨e', rfl, -, hid, -⟩ := Event.of_note? hnote
          exact hother _ hevent hid
      rw [List.filterMap_cons_none hop] at hnotes hinit ⊢
      exact ih hr hrest hnotes hinit (h.aside hdelivery hother)

end Running

section Reconciling

/-- The source lists the live comments of the issue, with bodies that are rendered alike; what did not
change lately may be left out. -/
def Recounts (b : Bridge) (src : Source) (id : Int) (live : List GitHub.Comment) : Prop :=
  ∀ name repo i, (name, repo) ∈ b.settings.repos → i ∈ src.listing repo.owner name → i.id = id →
    (i.comments = 0 → live = []) ∧ (i.comments ≠ 0 → ∀ c ∈ src.remarks repo.owner name i.number,
      ∃ d ∈ live, d.id = c.id ∧ Logged.result (b.commentBody d) = Logged.result (b.commentBody c))

theorem Told.spoken {src : Source} {i : GitHub.Issue} (h : b.Told init live cs)
    (hinit : ∀ k ∈ init, k.mark = .ok none) (hzero : i.comments = 0 → live = [])
    (hremarks : i.comments ≠ 0 → ∀ c ∈ src.remarks repo.owner name i.number,
      ∃ d ∈ live, d.id = c.id ∧ Logged.result (b.commentBody d) = Logged.result (b.commentBody c)) :
    b.Spoken src name repo i cs := by
  unfold Spoken
  split
  · rename_i hi
    obtain ⟨new, rfl, hnew⟩ := h.copies
    rw [hzero hi] at hnew
    cases hnew
    rw [List.append_nil]
    exact unmarked_of_mark hinit
  · rename_i hi
    exact h.upheld hinit (hremarks hi)

theorem durable_owned (b : Bridge) (id : Int) (r : TicketRef) (thread : ThreadId) :
    Durable fun v => b.Owned id r thread v.store where
  create fs hv := hv.create fs
  put hx hsame hv := hv.put hx hsame
  discuss _ := survives_of_inThread fun h hs => hs.of_tickets_eq h.tickets

theorem thread_ensured (b : Bridge) (repo : Repo) (i : GitHub.Issue) (v : Scene) (thread : ThreadId) :
    (b.ensured repo i v).store.thread thread = v.store.thread thread := by
  unfold ensured
  split <;> rfl

/-- A pass leaves a thread alone that it has nothing to write to. -/
theorem thread_synced {i : GitHub.Issue} (h : b.Owned id r thread v.store) (hr : (name, repo) ∈ b.settings.repos)
    (hd : ((v.store.thread thread).map (·.id)).Nodup)
    (hspoken : i.id = id → b.Spoken v.source name repo i (v.store.thread thread)) :
    (b.synced name repo i v).store.thread thread = v.store.thread thread := by
  unfold synced
  split
  · rename_i r' hf
    unfold broughtUp
    split
    · rename_i y d hy _
      obtain ⟨x, hx, hthread⟩ := h.thread
      rw [← Ticket.get?_id hthread] at hd hspoken ⊢
      by_cases hrr : r = r'
      · subst hrr
        rw [hx, Option.some.injEq] at hy
        subst hy
        have hid : i.id = id := by
          by_contra hne
          exact h.apart _ hr _ hne (hf ▸ List.mem_singleton_self r)
        rw [commented_eq_openThread (v := v.put r (b.refreshed v.store.workflow repo i d x)) hd (hspoken hid),
          thread_openThread]
        rfl
      · have hother := (inThread_commented b y.id.get? i name repo
          (v.put r' (b.refreshed v.store.workflow repo i d y))).others _ (h.numbered.id_ne hx hy hrr)
        unfold Store.thread
        rw [hother]
        rfl
    · rfl
  · rfl

/-- A pass over comments that have their copies already leaves the thread as it is. -/
theorem Discussed.pass {src : Source} (h : b.Discussed repo id r thread init live v.store)
    (hsource : v.source = src) (hinit : ∀ k ∈ init, k.mark = .ok none) (hsrc : b.Recounts src id live) :
    (b.passed src v).store.thread thread = v.store.thread thread := by
  have hdurable := (durable_owned b id r thread).and (durable_source src)
  have hd := (h.threaded.stamped thread).distinct
  have hsteady : b.Steady src fun u =>
      (b.Owned id r thread u.store ∧ u.source = src) ∧ u.store.thread thread = v.store.thread thread :=
    { numbered := fun hu => hu.1.1.numbered
      ensure := fun _ _ hu => ⟨hdurable.ensured hu.1, (thread_ensured ..).trans hu.2⟩
      sync := fun {name repo' i u} hr hi hu => by
        refine ⟨hdurable.synced hu.1, (thread_synced hu.1.1 hr (hu.2 ▸ hd) fun hid => ?_).trans hu.2⟩
        obtain ⟨hzero, hremarks⟩ := hsrc name repo' i hr hi hid
        rw [hu.2, hu.1.2]
        exact h.told.spoken hinit hzero hremarks }
  exact (hsteady.passed ⟨⟨h.carried.toOwned, hsource⟩, rfl⟩).2

/-- Deliveries keep the comments of a ticket a mirror of those of its issue: after a run in which no call
fails, of events about the comments of the issue and of others about other issues, the thread holds the
comments that it held, followed by one for each comment that was created and not deleted, with the body of
what was last said of it. If the first of these carry no tokens, a pass that lists the same comments leaves
the thread as it is. -/
theorem runs_mirror_comments {ops : List Operation} (hr : b.settings.repos.lookup name = some repo)
    (hcarried : b.Carried repo id r thread s) (hs : s.Threaded) (hrun : b.Runs World.Calm ops s t)
    (hops : ∀ op ∈ ops, op.Discusses name id) (hnotes : b.Orderly [] (notes name id ops))
    (hinit : ∀ n ∈ notes name id ops, ∀ k ∈ s.thread thread, k.Avoids n.2.id) :
    (∃ new, t.thread thread = s.thread thread ++ new ∧
      List.Forall₂ b.Renders (liveAfter (notes name id ops)) new) ∧
    ((∀ k ∈ s.thread thread, k.mark = .ok none) → ∀ w : World, w.Calm → w.store = t →
      b.Recounts w.source id (liveAfter (notes name id ops)) →
        (after b.syncAll w).store.thread thread = t.thread thread) := by
  have hlast := hrun.discussed hr hops hnotes hinit ⟨hcarried, hs, .start _⟩
  refine ⟨hlast.told.copies, ?_⟩
  rintro hnative w hw rfl hsrc
  rcases shows_syncAll (b := b) hw hlast.carried.numbered.keyed with h | ⟨h, -⟩
  · rw [h.store]
    exact hlast.pass (v := w.scene) rfl hnative hsrc
  · rw [h.store]
    rfl

def talkBytes (action body : String) : ByteArray :=
  ("\x7b\"action\":\"" ++ action ++ "\",\"issue\":\x7b\"id\":7,\"number\":1\x7d,\"comment\":\x7b\"id\":5," ++
    "\"body\":\"" ++ body ++ "\"\x7d,\"repository\":\x7b\"name\":\"app\"\x7d\x7d").toUTF8

def talkCreated : Operation := .deliver "issue_comment" "a" (talkBytes "created" "Hi")

def talkEdited : Operation := .process "issue_comment" "b" (talkBytes "edited" "Hello")

/-- A world in which the ticket has one comment, which was written in the tracker, and the repository lists
an issue with another. -/
def quietWorld : World := { talkWorld with
  source :=
    { issues := [("acme/app", [.obj [("id", .int 7), ("number", .int 1), ("comments", .int 1)]])]
      comments := [("acme/app#1", [.obj [("id", .int 5), ("body", .str "Hello")]])] }
  store := { talkWorld.store with threads := [(some "10001", [⟨"2", .given "Thanks"⟩])] } }

def quietAfter (op : Operation) (w : World) : World :=
  { quietWorld with store := (after (op.run small) w).store }

theorem runs_quietAfter {ops : List Operation} (hw : w.Calm)
    (h : small.Runs World.Calm ops (quietAfter op w).store t) :
    small.Runs World.Calm (op :: ops) w.store t :=
  .cons w hw h

def toldWorld : World := quietAfter talkEdited (quietAfter talkCreated quietWorld)

theorem carried_quiet : small.Carried { owner := "acme", project := "AB", issueType := "Task" } 7 0
    (some "10001") quietWorld.store := by
  have hfound : small.finds quietWorld.store "AB" 7 = [0] := by decide +kernel
  have hrepo : ("app", { owner := "acme", project := "AB", issueType := "Task" }) ∈ small.settings.repos :=
    List.mem_cons_self
  exact .of_sole (by decide) hrepo (numbered_half.of_tickets_eq rfl) hfound
    ⟨_, rfl, rfl⟩

theorem note?_talkCreated :
    talkCreated.note? "app" 7 = some (.created, { id := 5, body := some "Hi" }) := by
  with_unfolding_all rfl

theorem note?_talkEdited :
    talkEdited.note? "app" 7 = some (.edited, { id := 5, body := some "Hello" }) := by
  with_unfolding_all rfl

theorem notes_talk : notes "app" 7 [talkCreated, talkEdited] =
    [(.created, { id := 5, body := some "Hi" }), (.edited, { id := 5, body := some "Hello" })] := by
  simp [notes, note?_talkCreated, note?_talkEdited]

theorem orderly_talk : small.Orderly [] (notes "app" 7 [talkCreated, talkEdited]) := by
  rw [notes_talk]
  have hrendered : ∀ n ∈ [(CommentAction.created, { id := 5, body := some "Hi" }),
      (.edited, { id := 5, body := some "Hello" })],
      (Logged.result (small.commentBody n.2)).toOption.isSome := by
    decide +kernel
  refine ⟨by decide, by decide, fun n hn _ => ?_⟩
  obtain ⟨body, h⟩ := Option.isSome_iff_exists.mp (hrendered n hn)
  exact ⟨body, eq_ok_of_toOption h⟩

theorem runs_mirror_comments_quiet :
    (∃ k, toldWorld.store.thread (some "10001") = [⟨"2", .given "Thanks"⟩, k]) ∧
      (after small.syncAll toldWorld).store.thread (some "10001") =
        toldWorld.store.thread (some "10001") := by
  have hrun : small.Runs World.Calm [talkCreated, talkEdited] quietWorld.store toldWorld.store :=
    runs_quietAfter (fun _ _ _ => rfl) (runs_quietAfter (fun _ _ _ => rfl) (.nil toldWorld.store))
  have hops : ∀ op ∈ [talkCreated, talkEdited], op.Discusses "app" 7 := by
    intro op hop
    rcases List.mem_pair.mp hop with rfl | rfl
    · exact .inl ⟨_, note?_talkCreated⟩
    · exact .inl ⟨_, note?_talkEdited⟩
  have hnative : ∀ k ∈ quietWorld.store.thread (some "10001"), k.mark = .ok none := by
    have hmarks : ∀ k ∈ quietWorld.store.thread (some "10001"), k.mark.toOption = some none := by
      decide +kernel
    exact fun k hk => eq_ok_of_toOption (hmarks k hk)
  have hthreaded : quietWorld.store.Threaded := .of_ids (by decide)
  have hrepo : small.settings.repos.lookup "app" = some { owner := "acme", project := "AB", issueType := "Task" } :=
    rfl
  obtain ⟨⟨new, hnew, hcopies⟩, hpass⟩ := runs_mirror_comments hrepo carried_quiet hthreaded
    hrun hops orderly_talk fun n _ k hk => ⟨none, hnative k hk, fun _ h => by cases h⟩
  have hlive : liveAfter (notes "app" 7 [talkCreated, talkEdited]) = [{ id := 5, body := some "Hello" }] := by
    rw [notes_talk]
    rfl
  rw [hlive] at hcopies hpass
  constructor
  · obtain ⟨k, rfl⟩ := List.length_eq_one_iff.mp hcopies.length_eq.symm
    exact ⟨k, hnew⟩
  · refine hpass hnative toldWorld (fun _ _ _ => rfl) rfl fun name repo i hr hi _ => ?_
    -- The comment is listed with the body that it has since it was edited.
    have hlisted : ∀ p ∈ small.settings.repos, ∀ i ∈ toldWorld.source.listing p.2.owner p.1,
        i.comments ≠ 0 ∧ ∀ c ∈ toldWorld.source.remarks p.2.owner p.1 i.number, 5 = c.id ∧
          (Logged.result (small.commentBody { id := 5, body := some "Hello" })).toOption =
            (Logged.result (small.commentBody c)).toOption ∧
          (Logged.result (small.commentBody c)).toOption.isSome := by
      decide +kernel
    obtain ⟨hone, hsame⟩ := hlisted (name, repo) hr i hi
    refine ⟨fun hzero => absurd hzero hone, fun _ c hc => ⟨_, List.mem_singleton_self _, ?_⟩⟩
    obtain ⟨hid, heq, hsome⟩ := hsame c hc
    obtain ⟨body, hbody⟩ := Option.isSome_iff_exists.mp hsome
    exact ⟨hid, (eq_ok_of_toOption (heq.trans hbody)).trans (eq_ok_of_toOption hbody).symm⟩

end Reconciling

end Bridge

end IssueBridge
