import IssueBridge.Proofs.Bridge.Carrier
import IssueBridge.Proofs.Bridge.Spare
import IssueBridge.Proofs.Bridge.Upheld
import IssueBridge.Proofs.Bridge.Visit

/-! # The order of the update tasks

Every task writes to the ticket that it finds and to the thread of this ticket, and no two tasks find the
same. So when no call fails, the order of the tasks shows in the ids of the comments that they add only.
-/

namespace IssueBridge

open Step Tracker Correlation

namespace Tracker

/-- The comment has an id that is given after `n` others were added. -/
def Comment.AddedAfter (n : Nat) (c : Comment) : Prop := ∃ k, n < k ∧ c.id = "n" ++ toString k

def AddedAlike (n : Nat) (c d : Comment) : Prop :=
  d.body = c.body ∧ c.AddedAfter n ∧ d.AddedAfter n

/-- Both threads begin with the same comments, whose ids are among the given ones. What follows was added
after `n` other comments, and has the same bodies in both. -/
def Twins (n : Nat) (ids : List String) (cs ds : List Comment) : Prop :=
  ∃ front new new', cs = front ++ new ∧ ds = front ++ new' ∧ (front.map (·.id)).Sublist ids ∧
    List.Forall₂ (AddedAlike n) new new'

theorem Twins.refl (n : Nat) {ids : List String} {cs : List Comment}
    (h : (cs.map (·.id)).Sublist ids) : Twins n ids cs cs :=
  ⟨cs, [], [], (List.append_nil cs).symm, (List.append_nil cs).symm, h, .nil⟩

theorem Twins.map_body {n : Nat} {ids : List String} {cs ds : List Comment} (h : Twins n ids cs ds) :
    ds.map (·.body) = cs.map (·.body) := by
  obtain ⟨front, new, new', rfl, rfl, -, hnew⟩ := h
  have hbodies : new'.map (·.body) = new.map (·.body) := by
    induction hnew with
    | nil => rfl
    | cons hcd _ ih => rw [List.map_cons, List.map_cons, hcd.1, ih]
  rw [List.map_append, List.map_append, hbodies]

/-- A comment that is replaced stands in front of those that were added later. -/
theorem setBody_append_left {k body : String} {new : List Comment} : ∀ {front : List Comment},
    k ∈ front.map (·.id) → Store.setBody k body (front ++ new) = Store.setBody k body front ++ new
  | c :: front, h => by
    rw [List.cons_append, Store.setBody, Store.setBody]
    split
    · rfl
    · rename_i hc
      have hrest : k ∈ front.map (·.id) := (List.mem_cons.mp h).resolve_left (Ne.symm hc)
      rw [setBody_append_left hrest]
      rfl

end Tracker

namespace Bridge

variable {b : Bridge} {v v' u : Scene} {name : String} {repo : Repo} {i j : GitHub.Issue} {r : TicketRef}
  {x : Ticket} {thread : ThreadId} {issues issues' : List GitHub.Issue} {n : Nat}

section Threads

variable {existing : List CommentRef}

theorem thread_erased (hc : ∀ c ∈ existing, c.thread = thread)
    (h : v'.store.thread thread = v.store.thread thread) :
    (erased existing v').store.thread thread = (erased existing v).store.thread thread ∧
      ((erased existing v).store.thread thread).Sublist (v.store.thread thread) := by
  induction existing generalizing v v' with
  | nil => exact ⟨h, .refl _⟩
  | cons c rest ih =>
    have hrest : ∀ d ∈ rest, d.thread = thread := fun d hd => hc d (List.mem_cons_of_mem c hd)
    unfold erased
    cases token? c.body with
    | error f => exact ⟨h, .refl _⟩
    | ok o =>
      cases o with
      | none => exact ih hrest h
      | some m =>
        have hdeleted : ∀ v : Scene, (v.deleteComment c).store.thread thread =
            (v.store.thread thread).eraseP (·.id = c.id) := fun v => by
          refine (Store.thread_alter v.store _ c.thread thread).trans ?_
          rw [hc c List.mem_cons_self, if_pos rfl]
        have hagree : (v'.deleteComment c).store.thread thread = (v.deleteComment c).store.thread thread := by
          rw [hdeleted, hdeleted, h]
        obtain ⟨heq, hsub⟩ := ih hrest hagree
        rw [hdeleted] at hsub
        exact ⟨heq, hsub.trans List.eraseP_sublist⟩

/-- Writing the same comments to the same thread; only the ids of those that are added depend on what else
was added before. -/
theorem twins_written (hc : ∀ c ∈ existing, c.thread = thread) :
    ∀ {l : List GitHub.Comment} {v v' : Scene} {front new new' : List Comment},
      v.store.thread thread = front ++ new → v'.store.thread thread = front ++ new' →
      (∀ c ∈ existing, c.id ∈ front.map (·.id)) → List.Forall₂ (AddedAlike n) new new' →
      n ≤ v.store.added → n ≤ v'.store.added →
      Twins n (front.map (·.id)) ((b.written thread existing l v).store.thread thread)
        ((b.written thread existing l v').store.thread thread)
  | [], _, _, front, new, new', h, h', _, hnew, _, _ => ⟨front, new, new', h, h', .refl _, hnew⟩
  | c :: rest, v, v', front, new, new', h, h', hold, hnew, hn, hn' => by
    unfold written
    cases Logged.result (b.commentBody c) with
    | error f => exact ⟨front, new, new', h, h', .refl _, hnew⟩
    | ok body =>
      cases hm : matching existing c.id with
      | error f => exact ⟨front, new, new', h, h', .refl _, hnew⟩
      | ok o =>
        cases o with
        | none =>
          have hlast : AddedAlike n ⟨"n" ++ toString (v.store.added + 1), .given body⟩
              ⟨"n" ++ toString (v'.store.added + 1), .given body⟩ :=
            ⟨rfl, ⟨_, Nat.lt_succ_of_le hn, rfl⟩, _, Nat.lt_succ_of_le hn', rfl⟩
          refine twins_written hc ?_ ?_ hold (List.rel_append hnew (.cons hlast .nil))
            (Nat.le_succ_of_le hn) (Nat.le_succ_of_le hn')
          · rw [thread_addComment, h, List.append_assoc]
          · rw [thread_addComment, h', List.append_assoc]
        | some old =>
          have hmem := mem_of_findToken? hm
          have hset : ∀ v : Scene, (v.updateComment old body).store.thread thread =
              Store.setBody old.id body (v.store.thread thread) := fun v => by
            refine (Store.thread_alter v.store _ old.thread thread).trans ?_
            rw [hc old hmem, if_pos rfl]
          have hids := Store.map_id_setBody old.id body front
          rw [← hids] at hold ⊢
          have hk : old.id ∈ front.map (·.id) := hids ▸ hold old hmem
          refine twins_written hc ?_ ?_ hold hnew hn hn'
          · rw [hset, h, setBody_append_left hk]
          · rw [hset, h', setBody_append_left hk]

/-- The comments of an issue are synchronised alike with threads that are the same. -/
theorem twins_commented (hsource : v'.source = v.source)
    (h : v'.store.thread thread = v.store.thread thread) (hn : n ≤ v.store.added) (hn' : n ≤ v'.store.added) :
    Twins n ((v.store.thread thread).map (·.id)) ((b.commented thread i name repo v).store.thread thread)
      ((b.commented thread i name repo v').store.thread thread) := by
  have hexisting : (v'.store.comments thread).1 = (v.store.comments thread).1 := by
    unfold Store.comments
    rw [h]
  have hc : ∀ c ∈ (v.store.comments thread).1, c.thread = thread ∧
      c.id ∈ (v.store.thread thread).map (·.id) := by
    intro c hc
    obtain ⟨d, hd, rfl⟩ := List.mem_map.mp hc
    exact ⟨rfl, List.mem_map_of_mem hd⟩
  unfold commented
  dsimp only
  rw [hexisting, hsource]
  split
  · have hopened : (v'.openThread thread).store.thread thread = (v.openThread thread).store.thread thread := by
      rw [thread_openThread, thread_openThread, h]
    obtain ⟨heq, hsub⟩ := thread_erased (fun c hmem => (hc c hmem).1) hopened
    rw [heq]
    rw [thread_openThread] at hsub
    exact .refl n (hsub.map _)
  · have hopened : (v.openThread thread).store.thread thread = v.store.thread thread ++ [] := by
      rw [thread_openThread, List.append_nil]
    have hopened' : (v'.openThread thread).store.thread thread = v.store.thread thread ++ [] := by
      rw [thread_openThread, h, List.append_nil]
    exact twins_written (fun c hmem => (hc c hmem).1) hopened hopened' (fun c hmem => (hc c hmem).2) .nil hn hn'

end Threads

section Tasks

theorem identified_synced (hv : v.store.Identified) : (b.synced name repo i v).store.Identified := by
  unfold synced
  split
  · unfold broughtUp
    split
    · rename_i x d hx _
      have hsame := (follows_refreshed b v.store.workflow repo i d x).same
      exact (hv.put hx hsame.key hsame.id).of_tickets_eq (inThread_commented ..).tickets
    · exact hv
  · exact hv

theorem durable_added (n : Nat) : Durable fun v => n ≤ v.store.added where
  create _ hv := hv
  put _ _ hv := hv
  discuss _ :=
    { openThread := fun hv => hv
      addComment := fun _ hv => Nat.le_succ_of_le hv
      updateComment := fun _ _ hv => hv
      deleteComment := fun _ hv => hv }

theorem spares_other (name : String) {q : Query} (hv : v.store.Identified)
    (hq : Query.read? (query b.fieldIds repo.project i.id).text = some q) (hne : i.id ≠ j.id) :
    v.store.Spares q (b.synced name repo j v).store := by
  refine spares_synced hv fun r hr hr' => hne ?_
  rw [← finds_of_read? hq] at hr
  exact eq_of_mem_finds hr hr'

/-- The tasks as they are seen from one issue: nothing before or after its own is about it. -/
theorem syncEach_around (name : String) {q : Query} (hd : (issues.map (·.id)).Nodup) (hi : i ∈ issues)
    (hq : Query.read? (query b.fieldIds repo.project i.id).text = some q) (hv : v.store.Identified) :
    ∃ u : Scene, u.source = v.source ∧ v.store.added ≤ u.store.added ∧ v.store.Spares q u.store ∧
      (b.synced name repo i u).store.Spares q
        (issues.foldl (fun v i => b.synced name repo i v) v).store := by
  have hdurable := (durable_source v.source).and (durable_added v.store.added)
  have hids : (issues.flatMap fun i => [i.id]).count i.id ≤ 1 := by
    rw [← List.map_eq_flatMap]
    exact List.nodup_iff_count.mp hd _
  obtain ⟨u, ⟨⟨hsource, hadded⟩, -⟩, hbefore, hafter⟩ := foldl_around
    (P := fun u : Scene => (u.source = v.source ∧ v.store.added ≤ u.store.added) ∧ u.store.Identified)
    (R := fun u w => u.store.Spares q w.store) (f := fun v i => b.synced name repo i v)
    (fun u => .refl q u.store) (fun h h' => h.trans h')
    (fun j _ u hu => ⟨hdurable.synced hu.1, identified_synced hu.2⟩)
    (fun j _ hj u hu => spares_other _ hu.2 hq fun heq => hj (heq ▸ List.mem_singleton_self _)) hi
    (List.mem_singleton_self i.id) hids ⟨⟨rfl, Nat.le_refl _⟩, hv⟩
  exact ⟨u, hsource, hadded, hbefore, hafter⟩

/-- A task does the same to its ticket wherever it starts. -/
theorem twins_synced (name : String) {q : Query} (hq : Query.read? (query b.fieldIds repo.project i.id).text = some q)
    (h : v.store.Spares q v'.store) (hsource : v'.source = v.source) (hn : n ≤ v.store.added)
    (hn' : n ≤ v'.store.added) (hf : v.store.search q = [r]) (hx : v.store.ticket? r = some x) :
    (b.synced name repo i v').store.ticket? r = (b.synced name repo i v).store.ticket? r ∧
      Twins n ((v.store.thread x.id.get?).map (·.id)) ((b.synced name repo i v).store.thread x.id.get?)
        ((b.synced name repo i v').store.thread x.id.get?) := by
  have hr : r ∈ v.store.search q := hf ▸ List.mem_singleton_self r
  have hx' : v'.store.ticket? r = some x := (h.ticket r hr).trans hx
  have hthread : v'.store.thread x.id.get? = v.store.thread x.id.get? := h.thread r hr x hx
  rw [synced_eq ((finds_of_read? hq _).trans hf), synced_eq ((finds_of_read? hq _).trans (h.search.trans hf))]
  cases hd : Logged.result (b.description i) with
  | error f =>
    have hnone : ∀ {v : Scene}, v.store.ticket? r = some x → b.broughtUp r i name repo v = v := by
      intro v hx
      unfold broughtUp
      rw [hx, hd]
    rw [hnone hx, hnone hx', hthread]
    exact ⟨hx'.trans hx.symm, .refl n (.refl _)⟩
  | ok d =>
    rw [broughtUp_eq hx hd, broughtUp_eq hx' hd, ticket?_commented, ticket?_commented, h.workflow,
      Scene.ticket?_put_self hx, Scene.ticket?_put_self hx']
    refine ⟨rfl, ?_⟩
    exact @twins_commented _ (v.put r _) (v'.put r _) _ _ _ _ _ hsource hthread hn hn'

end Tasks

section Results

/-- A ticket that is found alone for one of the issues is the same in the end, and so is its thread, whatever
the order of the tasks. -/
theorem twins_syncEach (hp : issues'.Perm issues) (hd : (issues.map (·.id)).Nodup)
    (hv : v.store.Identified) (hr : b.Meets v.store repo issues r) (hx : v.store.ticket? r = some x) :
    (issues'.foldl (fun v i => b.synced name repo i v) v).store.ticket? r =
        (issues.foldl (fun v i => b.synced name repo i v) v).store.ticket? r ∧
      Twins v.store.added ((v.store.thread x.id.get?).map (·.id))
        ((issues.foldl (fun v i => b.synced name repo i v) v).store.thread x.id.get?)
        ((issues'.foldl (fun v i => b.synced name repo i v) v).store.thread x.id.get?) := by
  obtain ⟨i, hi, hf⟩ := hr
  obtain ⟨q, hq, -⟩ := mem_finds (hf ▸ List.mem_singleton_self r)
  rw [finds_of_read? hq] at hf
  have hmem : r ∈ v.store.search q := hf ▸ List.mem_singleton_self r
  -- Only the two tasks for the issue matter, and they start alike.
  obtain ⟨u, hsource, hadded, hbefore, hafter⟩ := syncEach_around name hd hi hq hv
  obtain ⟨u', hsource', hadded', hbefore', hafter'⟩ := syncEach_around name
    ((hp.map _).nodup_iff.mpr hd) (hp.mem_iff.mpr hi) hq hv
  have hux : u.store.ticket? r = some x := (hbefore.ticket r hmem).trans hx
  obtain ⟨hticket, htwins⟩ := twins_synced name hq (hbefore.symm.trans hbefore')
    (hsource'.trans hsource.symm) hadded hadded' (hbefore.search.trans hf) hux
  have hend : ∀ {u t : Scene}, v.store.Spares q u.store →
      (b.synced name repo i u).store.Spares q t.store →
        t.store.ticket? r = (b.synced name repo i u).store.ticket? r ∧
          t.store.thread x.id.get? = (b.synced name repo i u).store.thread x.id.get? := by
    intro u t hbefore hafter
    have halters := alters_synced b name repo i u
    obtain ⟨y, hy, hxy, -⟩ := halters.ticket r x ((hbefore.ticket r hmem).trans hx)
    have hmem' : r ∈ (b.synced name repo i u).store.search q := by
      rw [halters.search, hbefore.search]
      exact hmem
    refine ⟨hafter.ticket r hmem', ?_⟩
    exact hxy.id ▸ hafter.thread r hmem' y hy
  have hids : (u.store.thread x.id.get?) = v.store.thread x.id.get? :=
    hbefore.thread r hmem x hx
  rw [(hend hbefore hafter).1, (hend hbefore' hafter').1, (hend hbefore hafter).2,
    (hend hbefore' hafter').2, ← hids]
  exact ⟨hticket, htwins⟩

/-- The stores hold the same tickets, and the same comments but for the ids of those that were added. -/
theorem twins_of_perm (b : Bridge) (name : String) (repo : Repo) (hp : issues'.Perm issues)
    (hd : (issues.map (·.id)).Nodup) (hv : v.store.Identified) :
    (issues'.foldl (fun v i => b.synced name repo i v) v).store.tickets =
        (issues.foldl (fun v i => b.synced name repo i v) v).store.tickets ∧
      ∀ thread, Twins v.store.added ((v.store.thread thread).map (·.id))
        ((issues.foldl (fun v i => b.synced name repo i v) v).store.thread thread)
        ((issues'.foldl (fun v i => b.synced name repo i v) v).store.thread thread) := by
  have halters := alters_syncEach b name repo issues v
  have halters' := alters_syncEach b name repo issues' v
  have hmeets : ∀ {r}, b.Meets v.store repo issues' r → b.Meets v.store repo issues r := by
    rintro r ⟨i, hi, hf⟩
    exact ⟨i, hp.mem_iff.mp hi, hf⟩
  constructor
  · refine List.ext_getElem? fun r => ?_
    by_cases hr : b.Meets v.store repo issues r
    · obtain ⟨i, -, hf⟩ := id hr
      obtain ⟨x, hx⟩ := ticket?_of_mem_finds (by rw [hf]; exact List.mem_singleton_self r)
      exact (twins_syncEach hp hd hv hr hx).1
    · exact (halters'.ticket?_eq fun hr' => hr (hmeets hr')).trans (halters.ticket?_eq hr).symm
  · intro thread
    by_cases ht : b.Discusses v.store repo issues thread
    · obtain ⟨r, x, hr, hx, rfl⟩ := ht
      exact (twins_syncEach hp hd hv hr hx).2
    · have ht' : ¬ b.Discusses v.store repo issues' thread := by
        rintro ⟨r, x, hr, hx, hid⟩
        exact ht ⟨r, x, hmeets hr, hx, hid⟩
      rw [(halters.thread thread).resolve_left ht, (halters'.thread thread).resolve_left ht']
      exact .refl _ (.refl _)

theorem keys_of_alters {T : TicketRef → Prop} {D : ThreadId → Prop} {s t : Store}
    (h : Store.Alters mirrored T D s t) (refs : List TicketRef) : keys t refs = keys s refs := by
  refine List.map_congr_left fun r _ => ?_
  cases hx : s.ticket? r with
  | none =>
    have hnone : t.ticket? r = none := by
      cases hy : t.ticket? r with
      | none => rfl
      | some y =>
        obtain ⟨x, hx', -⟩ := h.ticket?_of_some hy
        rw [hx] at hx'
        cases hx'
    rw [hnone]
  | some x =>
    obtain ⟨y, hy, hxy, -⟩ := h.ticket r x hx
    rw [hy, Option.map_some, Option.map_some, hxy.key]

theorem syncOutcome_synced (hv : v.store.Identified) (hne : i.id ≠ j.id) :
    b.syncOutcome name repo i (b.synced name repo j v) = b.syncOutcome name repo i v := by
  have halters := alters_synced b name repo j v
  have hsource : (b.synced name repo j v).source = v.source := (durable_source v.source).synced rfl
  unfold syncOutcome
  rw [finds_congr halters.search]
  match hf : b.finds v.store repo.project i.id with
  | [] => rfl
  | [r] =>
    obtain ⟨q, hq, hr⟩ := mem_finds (hf ▸ List.mem_singleton_self r)
    have hspares := spares_other name hv hq hne
    obtain ⟨x, hx, -⟩ := Store.mem_search.mp hr
    show b.refreshOutcome r i name repo _ = b.refreshOutcome r i name repo v
    unfold refreshOutcome Store.comments Store.thread
    rw [hspares.ticket r hr, hx, hsource]
    dsimp only
    rw [hspares.lookup r hr x hx]
  | r :: r' :: refs =>
    show Except.error (ambiguity repo.project i.id (keys _ _)) = _
    rw [keys_of_alters halters]

/-- What the tasks come to, one after the other, is what each of them comes to at the start. -/
theorem outcomes_syncEach (b : Bridge) (name : String) (repo : Repo) (since : Time.Timestamp) :
    ∀ {issues : List GitHub.Issue} {v : Scene} {w : World}, w.Shows v → v.store.Identified →
      (issues.map (·.id)).Nodup →
      ((starts (b.syncIssue name repo since) issues w).map fun p =>
          (p.1, outcome (b.bringUpToDate name repo since p.1) p.2)) =
        issues.map fun i => (i, b.syncOutcome name repo i v)
  | [], _, _, _, _, _ => rfl
  | i :: issues, v, w, hw, hv, hd => by
    rw [List.map_cons, List.nodup_cons] at hd
    have hfirst : outcome (b.bringUpToDate name repo since i) w = b.syncOutcome name repo i v :=
      (does_bringUpToDate hv.keyed since w hw).1
    have hsecond : (after (b.syncIssue name repo since i) w).Shows (b.synced name repo i v) :=
      (does_syncIssue hv.keyed since w hw).2
    have hrest := outcomes_syncEach b name repo since hsecond (identified_synced hv) hd.2
    have hothers : issues.map (fun j => (j, b.syncOutcome name repo j (b.synced name repo i v))) =
        issues.map fun j => (j, b.syncOutcome name repo j v) :=
      List.map_congr_left fun j hj => by
        rw [syncOutcome_synced hv fun heq => hd.1 (heq ▸ List.mem_map_of_mem hj)]
    rw [starts, outcome_syncIssue, List.map_cons, hrest, hothers, hfirst, List.map_cons]

/-- What the two runs of the tasks that start in `w` have in common. -/
structure Agree (w u u' : World) : Prop where
  tickets : u'.store.tickets = u.store.tickets
  bodies : ∀ thread, (u'.store.thread thread).map (·.body) = (u.store.thread thread).map (·.body)
  twins : ∀ thread, Twins w.store.added ((w.store.thread thread).map (·.id)) (u.store.thread thread)
    (u'.store.thread thread)
  counts : ∀ key, u'.tally.count key = u.tally.count key
  errors : u'.tally.errors.Perm u.tally.errors

variable {w : World}

/-- When no call fails, the tasks that bring the counterparts of different issues up to date can run in any
order: they all end well, with the same tickets, the same bodies of comments, the same counts and the same
errors. Comments that are not new have the same ids, too. -/
theorem syncEach_perm (hp : issues'.Perm issues) (hd : (issues.map (·.id)).Nodup) (hw : w.Calm)
    (hs : w.store.Identified) (b : Bridge) (name : String) (repo : Repo) (since : Time.Timestamp) :
    outcome (issues.forM (b.syncIssue name repo since)) w = .ok () ∧
      outcome (issues'.forM (b.syncIssue name repo since)) w = .ok () ∧
      Agree w (after (issues.forM (b.syncIssue name repo since)) w)
        (after (issues'.forM (b.syncIssue name repo since)) w) := by
  have hd' : (issues'.map (·.id)).Nodup := (hp.map _).nodup_iff.mpr hd
  have hshows : w.Shows w.scene := ⟨hw, rfl⟩
  have hdoes (l : List GitHub.Issue) : Does w.scene (l.forM (b.syncIssue name repo since)) (.ok ())
      (l.foldl (fun v i => b.synced name repo i v) w.scene) := (does_syncEach (ready_scene hs.keyed) since l).1
  obtain ⟨ho, hend⟩ := hdoes issues w hshows
  obtain ⟨ho', hend'⟩ := hdoes issues' w hshows
  have hscene : w.scene.store.Identified := hs
  obtain ⟨htickets, htwins⟩ := twins_of_perm b name repo hp hd hscene
  have hdeeds := enters_syncEach b name repo since issues w
  have hdeeds' := enters_syncEach b name repo since issues' w
  rw [outcomes_syncEach b name repo since hshows hs hd] at hdeeds
  rw [outcomes_syncEach b name repo since hshows hs hd'] at hdeeds'
  have hperm := (hp.map fun i => (i, b.syncOutcome name repo i w.scene)).flatMap_right
    (Visit.taskDeeds b name repo Visit.updatedCredit)
  refine ⟨ho, ho', ?_, fun thread => ?_, fun thread => ?_, fun key => ?_, ?_⟩
  · rw [hend.store, hend'.store]
    exact htickets
  · rw [hend.store, hend'.store]
    exact (htwins thread).map_body
  · rw [hend.store, hend'.store]
    exact htwins thread
  · rw [count_of_enters hdeeds, count_of_enters hdeeds', Deed.total_perm key hperm]
  · rw [errors_of_enters hdeeds, errors_of_enters hdeeds']
    exact (hperm.filterMap Deed.error?).append_left _

def pairWorld : World := { smallWorld with
  source :=
    { issues := [("acme/app", [
        .obj [("id", .int 7), ("number", .int 1), ("comments", .int 1)],
        .obj [("id", .int 8), ("number", .int 2), ("comments", .int 1)]])]
      comments := [("acme/app#1", [.obj [("id", .int 5), ("body", .str "Hello")]]),
        ("acme/app#2", [.obj [("id", .int 6), ("body", .str "World")]])] }
  store :=
    { tickets := [
        { key := .given "AB-1", id := .given "10001", fields := .given [("customfield_10", .int 7)] },
        { key := .given "AB-2", id := .given "10002", fields := .given [("customfield_10", .int 8)] }] } }

theorem identified_pair : pairWorld.store.Identified where
  keyed x hx := by
    rcases List.mem_cons.mp hx with rfl | hx
    · exact ⟨⟨_, rfl⟩, _, rfl⟩
    · rw [List.mem_singleton.mp hx]
      exact ⟨⟨_, rfl⟩, _, rfl⟩
  distinct := by simp [pairWorld]

theorem syncEach_perm_pair : ∃ (issues : List GitHub.Issue) (repo : Repo) (since : Time.Timestamp),
    issues.map (·.id) = [7, 8] ∧
      Agree pairWorld (after (issues.forM (small.syncIssue "app" repo since)) pairWorld)
        (after (issues.reverse.forM (small.syncIssue "app" repo since)) pairWorld) := by
  have hids : (pairWorld.source.listing "acme" "app").map (·.id) = [7, 8] := by decide +kernel
  have hd : ((pairWorld.source.listing "acme" "app").map (·.id)).Nodup := by
    rw [hids]
    decide
  exact ⟨_, { owner := "acme", project := "AB", issueType := "Task" }, pairWorld.clock, hids,
    (syncEach_perm (List.reverse_perm _) hd (fun _ _ _ => rfl) identified_pair small "app" _ _).2.2⟩

end Results

end Bridge

end IssueBridge
