import IssueBridge.Proofs.Bridge.Served
import IssueBridge.Proofs.Correlation.Token
import IssueBridge.Proofs.GitHub.Listing
import IssueBridge.Proofs.Tracker.Numbered

/-! # Comments that are synchronised

When no call fails, what a pass does to the comments of a ticket is a function of the scene. A comment
that cannot be rendered, or a token that cannot be read, ends it early.
-/

namespace IssueBridge

open Step Tracker

theorem GitHub.does_comments (v : Scene) (owner name : String) (number : Int)
    (since : Option Time.Timestamp) :
    Does v (comments owner name number since) (v.source.readRemarks owner name number) v := by
  refine .logging ?_ _ _
  refine (does_place rfl).bind ((does_place rfl).bind ((does_place rfl).bind ?_))
  refine .get_bind fun w hw => ?_
  rw [hw.source]
  exact .ofExcept _

namespace Bridge

variable {b : Bridge} {v : Scene} {r : TicketRef} {x : Ticket} {thread : ThreadId} {i : GitHub.Issue}
  {name : String} {repo : Repo}

theorem thread_addComment (v : Scene) (thread : ThreadId) (body : String) :
    (v.addComment thread body).store.thread thread =
      v.store.thread thread ++ [⟨"n" ++ toString (v.store.added + 1), .given body⟩] :=
  (Store.thread_alter ..).trans (if_pos rfl)

theorem thread_openThread (v : Scene) (thread : ThreadId) :
    (v.openThread thread).store.thread thread = v.store.thread thread :=
  Store.thread_comments ..

/-- Deletes those of some comments that carry a token, up to one whose token cannot be read. -/
def erased : List CommentRef → Scene → Scene
  | [], v => v
  | c :: rest, v =>
    match Correlation.token? c.body with
    | .ok none => erased rest v
    | .ok (some _) => erased rest (v.deleteComment c)
    | .error _ => v

def eraseOutcome : List CommentRef → Except Failure Unit
  | [] => .ok ()
  | c :: rest => (Correlation.token? c.body).bind fun _ => eraseOutcome rest

theorem does_erased : ∀ (existing : List CommentRef) (v : Scene),
    Does v (existing.forM deleteIfSynced) (eraseOutcome existing) (erased existing v)
  | [], _ => .pure _
  | c :: rest, v => by
    have htoken := Does.ofExcept (v := v) (Correlation.token? c.body)
    have hrest := fun v => does_erased rest v
    unfold erased eraseOutcome
    cases h : Correlation.token? c.body with
    | error f =>
      have hc : Does v (deleteIfSynced c) (.error f) v := by
        rw [h] at htoken
        unfold deleteIfSynced
        rw [h]
        exact htoken.bind_error
      exact hc.bind_error
    | ok o =>
      rw [h] at htoken
      cases o with
      | none =>
        have hc : Does v (deleteIfSynced c) (.ok ()) v := by
          unfold deleteIfSynced
          rw [h]
          exact htoken.bind (.pure _)
        exact hc.bind (hrest v)
      | some n =>
        have hc : Does v (deleteIfSynced c) (.ok ()) (v.deleteComment c) := by
          unfold deleteIfSynced
          rw [h]
          exact htoken.bind ((does_deleteComment v c).leaves.contain _ _)
        exact hc.bind (hrest _)

/-- Writes comments to a thread, each in the place of the first of `existing` with its token, up to one
that cannot be rendered or matched. -/
def written (b : Bridge) (thread : ThreadId) (existing : List CommentRef) :
    List GitHub.Comment → Scene → Scene
  | [], v => v
  | c :: rest, v =>
    match Logged.result (b.commentBody c), matching existing c.id with
    | .ok body, .ok (some old) => written b thread existing rest (v.updateComment old body)
    | .ok body, .ok none => written b thread existing rest (v.addComment thread body)
    | _, _ => v

def writeOutcome (b : Bridge) (existing : List CommentRef) : List GitHub.Comment → Except Failure Unit
  | [] => .ok ()
  | c :: rest => (Logged.result (b.commentBody c)).bind fun _ =>
    (matching existing c.id).bind fun _ => writeOutcome b existing rest

theorem does_threadOf (hx : v.store.ticket? r = some x) {n : String} (hn : x.id = .given n) :
    Does v (threadOf r) (.ok (some n)) v := by
  have hpart : Does v (part x.id) (.ok (some n)) v := by
    rw [hn]
    exact .pure _
  exact (does_ticket hx).bind hpart

section Writing

variable {existing : List CommentRef} {c : GitHub.Comment} {f : Failure} {body : String} {n : String}

theorem does_writeComment_of_unrendered (h : Logged.result (b.commentBody c) = .error f) :
    Does v (b.writeComment r existing c) (.error f) v := by
  have hbody := Does.ofLogged (v := v) (b.blind_commentBody c)
  rw [h] at hbody
  exact hbody.bind_error

theorem does_writeComment_of_unmatched (h : Logged.result (b.commentBody c) = .ok body)
    (hm : matching existing c.id = .error f) : Does v (b.writeComment r existing c) (.error f) v := by
  have hbody := Does.ofLogged (v := v) (b.blind_commentBody c)
  have hmatch := Does.ofExcept (v := v) (matching existing c.id)
  rw [h] at hbody
  rw [hm] at hmatch
  refine hbody.bind ?_
  rw [hm]
  exact hmatch.bind_error

theorem does_writeComment (h : Logged.result (b.commentBody c) = .ok body) {o : Option CommentRef}
    (hm : matching existing c.id = .ok o) {v' : Scene} (hput : Leaves v (putComment r body o) v') :
    Does v (b.writeComment r existing c) (.ok ()) v' := by
  have hbody := Does.ofLogged (v := v) (b.blind_commentBody c)
  have hmatch := Does.ofExcept (v := v) (matching existing c.id)
  rw [h] at hbody
  rw [hm] at hmatch
  refine hbody.bind ?_
  rw [hm]
  exact hmatch.bind (hput.contain _ _)

theorem does_written (b : Bridge) (existing : List CommentRef) (hn : x.id = .given n) :
    ∀ (l : List GitHub.Comment) (v : Scene), v.store.ticket? r = some x →
      Does v (l.forM (b.writeComment r existing)) (b.writeOutcome existing l)
        (b.written (some n) existing l v)
  | [], _, _ => .pure _
  | c :: rest, v, hx => by
    unfold written writeOutcome
    cases hbody : Logged.result (b.commentBody c) with
    | error f => exact (does_writeComment_of_unrendered hbody).bind_error
    | ok body =>
      cases hmatch : matching existing c.id with
      | error f => exact (does_writeComment_of_unmatched hbody hmatch).bind_error
      | ok o =>
        cases o with
        | some old =>
          have hput : Leaves v (putComment r body (some old)) (v.updateComment old body) :=
            (does_updateComment v old body).leaves
          exact (does_writeComment hbody hmatch hput).bind (does_written b existing hn rest _ hx)
        | none =>
          have hput : Leaves v (putComment r body none) (v.addComment (some n) body) :=
            ((does_threadOf hx hn).bind (does_addComment v (some n) body).discard).leaves
          exact (does_writeComment hbody hmatch hput).bind (does_written b existing hn rest _ hx)

end Writing

/-- The scene after the comments of an issue were synchronised with a thread. -/
def commented (b : Bridge) (thread : ThreadId) (i : GitHub.Issue) (name : String) (repo : Repo)
    (v : Scene) : Scene :=
  let existing := (v.store.comments thread).1
  if i.comments = 0 then erased existing (v.openThread thread)
  else b.written thread existing (v.source.remarks repo.owner name i.number) (v.openThread thread)

def commentOutcome (b : Bridge) (src : Source) (i : GitHub.Issue) (name : String) (repo : Repo)
    (existing : List CommentRef) : Except Failure Unit :=
  if i.comments = 0 then eraseOutcome existing
  else (src.readRemarks repo.owner name i.number).bind (b.writeOutcome existing)

theorem does_syncComments (hx : v.store.ticket? r = some x) {n : String} (hn : x.id = .given n)
    (since : Time.Timestamp) :
    Does v (b.syncComments r i name repo since)
      (b.commentOutcome v.source i name repo (v.store.comments (some n)).1)
      (b.commented (some n) i name repo v) := by
  refine (does_threadOf hx hn).bind ((does_comments v (some n)).bind ?_)
  unfold commented commentOutcome
  dsimp only
  split
  · exact does_erased _ _
  · have hread := GitHub.does_comments (v.openThread (some n)) repo.owner name i.number (some since)
    have hsource : (v.openThread (some n)).source = v.source := rfl
    rw [hsource] at hread
    rw [Source.remarks_eq]
    cases h : v.source.readRemarks repo.owner name i.number with
    | ok l =>
      rw [h] at hread
      exact hread.bind (does_written b _ hn _ _ hx)
    | error f =>
      rw [h] at hread
      exact hread.bind_error

section Surviving

structure Survives (thread : ThreadId) (P : Scene → Prop) : Prop where
  openThread : ∀ {v}, P v → P (v.openThread thread)
  addComment : ∀ {v} body, P v → P (v.addComment thread body)
  updateComment : ∀ {v} {c : CommentRef} body, c.thread = thread → P v → P (v.updateComment c body)
  deleteComment : ∀ {v} {c : CommentRef}, c.thread = thread → P v → P (v.deleteComment c)

namespace Survives

variable {P : Scene → Prop}

theorem erased (h : Survives thread P) : ∀ {existing : List CommentRef} {v : Scene},
    (∀ c ∈ existing, c.thread = thread) → P v → P (erased existing v)
  | [], _, _, hv => hv
  | c :: rest, v, hc, hv => by
    have hrest : ∀ {v}, P v → P (Bridge.erased rest v) :=
      h.erased fun d hd => hc d (List.mem_cons_of_mem _ hd)
    unfold Bridge.erased
    split
    · exact hrest hv
    · exact hrest (h.deleteComment (hc c List.mem_cons_self) hv)
    · exact hv

theorem written (h : Survives thread P) {existing : List CommentRef}
    (hc : ∀ c ∈ existing, c.thread = thread) : ∀ {l : List GitHub.Comment} {v : Scene},
      P v → P (b.written thread existing l v)
  | [], _, hv => hv
  | c :: rest, v, hv => by
    have hrest : ∀ {v}, P v → P (b.written thread existing rest v) := h.written hc
    unfold Bridge.written
    split
    · rename_i body old _ hm
      exact hrest (h.updateComment body (hc old (Correlation.mem_of_findToken? hm)) hv)
    · exact hrest (h.addComment _ hv)
    · exact hv

theorem commented (h : Survives thread P) (hv : P v) : P (b.commented thread i name repo v) := by
  have hexisting : ∀ c ∈ (v.store.comments thread).1, c.thread = thread := by
    intro c hc
    obtain ⟨_, -, rfl⟩ := List.mem_map.mp hc
    rfl
  unfold Bridge.commented
  dsimp only
  split
  · exact h.erased hexisting (h.openThread hv)
  · exact h.written hexisting (h.openThread hv)

end Survives

theorem survives_source (thread : ThreadId) (src : Source) : Survives thread fun v => v.source = src where
  openThread hv := hv
  addComment _ hv := hv
  updateComment _ _ hv := hv
  deleteComment _ hv := hv

theorem survives_of_inThread {P : Store → Prop}
    (h : ∀ {s t : Store}, s.InThread thread t → P s → P t) : Survives thread fun v => P v.store where
  openThread hv := h (.alterThread _ _ _) hv
  addComment _ hv := h (.alterThread _ _ _) hv
  updateComment := by
    rintro v c body rfl hv
    exact h (.alterThread v.store _ _) hv
  deleteComment := by
    rintro v c rfl hv
    exact h (.alterThread v.store _ _) hv

theorem survives_threaded (thread : ThreadId) : Survives thread fun v => v.store.Threaded where
  openThread hv := hv.alterThread (Nat.le_refl _) (fun _ h => h) _
  addComment _ hv := hv.alterThread (Nat.le_succ _) (fun _ h => h.add _) _
  updateComment _ _ hv := hv.alterThread (Nat.le_refl _) (fun _ h => h.setBody _ _) _
  deleteComment _ hv := hv.alterThread (Nat.le_refl _) (fun _ h => h.sublist List.eraseP_sublist) _

theorem inThread_commented (b : Bridge) (thread : ThreadId) (i : GitHub.Issue) (name : String)
    (repo : Repo) (v : Scene) : v.store.InThread thread (b.commented thread i name repo v).store :=
  (survives_of_inThread fun h hs => hs.trans h).commented (.refl v.store)

end Surviving

end Bridge

end IssueBridge
