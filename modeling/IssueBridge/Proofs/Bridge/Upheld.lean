import IssueBridge.Proofs.Bridge.Comments
import IssueBridge.Proofs.Tracker.Discussion

/-! # Comments that need not be written again

After the comments of an issue were synchronised, each that is written once more has its body there
already, and no comment is left to be deleted. A thread of this kind stays as it is.
-/

namespace IssueBridge

open Tracker Correlation

def Tracker.Comment.ref (thread : ThreadId) (c : Comment) : CommentRef := ⟨thread, c.id, c.body.get?⟩

namespace Bridge

variable {b : Bridge} {v : Scene} {thread : ThreadId} {cs : List Comment} {i : GitHub.Issue}
  {name body : String} {repo : Repo} {src : Source} {c : GitHub.Comment} {rest : List GitHub.Comment}

theorem matching_refs (thread : ThreadId) (cs : List Comment) (id : Int) :
    matching (cs.map (·.ref thread)) id = (sought id cs).map (Option.map (·.ref thread)) :=
  findToken?_map ..

section Deleting

theorem erased_cons (thread : ThreadId) (c : Comment) (cs : List Comment) (v : Scene) :
    erased ((c :: cs).map (·.ref thread)) v =
      match c.mark with
      | .ok none => erased (cs.map (·.ref thread)) v
      | .ok (some _) => erased (cs.map (·.ref thread)) (v.deleteComment (c.ref thread))
      | .error _ => v := by
  have hmark : token? (c.ref thread).body = c.mark := rfl
  cases hc : c.mark with
  | error f => simp only [List.map_cons, erased, hmark, hc]
  | ok o => cases o <;> simp only [List.map_cons, erased, hmark, hc]

/-- What is left of a thread when its comments are deleted behind those that were looked at before. -/
theorem lookup_erased : ∀ {cs : List Comment} (front : List Comment) {v : Scene},
    v.store.threads.lookup thread = some (front ++ cs) → ((front ++ cs).map (·.id)).Nodup →
      (erased (cs.map (·.ref thread)) v).store.threads.lookup thread = some (front ++ kept cs)
  | [], _, _, h, _ => h
  | c :: cs, front, v, h, hd => by
    rw [erased_cons, kept]
    cases c.mark with
    | error f => exact h
    | ok o =>
      cases o with
      | none =>
        rw [List.append_cons] at h hd ⊢
        exact lookup_erased _ h hd
      | some n =>
        have hfront : ∀ x ∈ front, ¬ (decide (x.id = c.id)) = true := by
          intro x hx heq
          rw [List.map_append, List.nodup_append] at hd
          exact hd.2.2 x.id (List.mem_map_of_mem hx) c.id List.mem_cons_self (of_decide_eq_true heq)
        have herase : (front ++ c :: cs).eraseP (·.id = c.id) = front ++ cs := by
          have hself : decide (c.id = c.id) = true := decide_eq_true rfl
          rw [List.eraseP_append_right _ hfront, List.eraseP_cons, hself, cond_true]
        have hlookup := Store.lookup_alterThread_self h (·.eraseP (·.id = c.id))
        rw [herase] at hlookup
        refine lookup_erased front (v := v.deleteComment (c.ref thread)) hlookup ?_
        exact hd.sublist (((List.sublist_cons_self c cs).append_left front).map _)

theorem erased_of_unmarked : ∀ {cs : List Comment}, Unmarked cs →
    erased (cs.map (·.ref thread)) v = v
  | [], _ => rfl
  | c :: cs, h => by
    rw [erased_cons]
    unfold Unmarked at h
    cases hc : c.mark with
    | error f => rfl
    | ok o =>
      rw [hc] at h
      cases o with
      | none => exact erased_of_unmarked h
      | some n => exact h.elim

end Deleting

section Writing

/-- Each comment that is written to the thread finds its own body there, up to one that cannot be rendered
or matched. -/
def Upheld (b : Bridge) (cs : List Comment) : List GitHub.Comment → Prop
  | [] => True
  | c :: rest =>
    match Logged.result (b.commentBody c), sought c.id cs with
    | .ok body, .ok (some old) => old.body = .given body ∧ Upheld b cs rest
    | .ok _, .ok none => False
    | _, _ => True

theorem Upheld.cons (hbody : Logged.result (b.commentBody c) = .ok body) (h : Held c.id body cs)
    (hrest : b.Upheld cs rest) : b.Upheld cs (c :: rest) := by
  unfold Upheld
  rcases h with ⟨f, hf⟩ | ⟨old, hold, hgiven⟩
  · rw [hbody, hf]
    trivial
  · rw [hbody, hold]
    exact ⟨hgiven, hrest⟩

theorem written_cons (b : Bridge) (thread : ThreadId) (cs : List Comment) (c : GitHub.Comment)
    (rest : List GitHub.Comment) (v : Scene) :
    b.written thread (cs.map (·.ref thread)) (c :: rest) v =
      match Logged.result (b.commentBody c), sought c.id cs with
      | .ok body, .ok (some old) =>
        b.written thread (cs.map (·.ref thread)) rest (v.updateComment (old.ref thread) body)
      | .ok body, .ok none => b.written thread (cs.map (·.ref thread)) rest (v.addComment thread body)
      | _, _ => v := by
  rw [written, matching_refs]
  cases Logged.result (b.commentBody c) with
  | error f => rfl
  | ok body =>
    cases sought c.id cs with
    | error f => rfl
    | ok o => cases o <;> rfl

theorem written_of_upheld (hlookup : v.store.threads.lookup thread = some cs)
    (hd : (cs.map (·.id)).Nodup) : ∀ {l : List GitHub.Comment}, b.Upheld cs l →
      b.written thread (cs.map (·.ref thread)) l v = v
  | [], _ => rfl
  | c :: rest, h => by
    rw [written_cons]
    unfold Upheld at h
    cases hbody : Logged.result (b.commentBody c) with
    | error f => rfl
    | ok body =>
      cases hold : sought c.id cs with
      | error f => rfl
      | ok o =>
        rw [hbody, hold] at h
        cases o with
        | none => exact h.elim
        | some old =>
          obtain ⟨hgiven, hrest⟩ := h
          have hsole : ∀ x ∈ cs, x.id = old.id → x.body = .given body := by
            intro x hx hid
            rw [List.inj_on_of_nodup_map hd hx (of_sought hold).1 hid]
            exact hgiven
          have hthreads : Store.alterThread (Store.setBody old.id body) thread v.store.threads =
              v.store.threads := Store.alterThread_of_lookup (setBody_of_body hsole) hlookup
          have hsame : v.updateComment (old.ref thread) body = v := by
            refine Scene.mapStore_congr (g := id) ?_
            unfold Store.updateComment Comment.ref
            rw [hthreads]
            rfl
          dsimp only
          rw [hsame]
          exact written_of_upheld hlookup hd hrest

theorem fits_commentBody (hbody : Logged.result (b.commentBody c) = .ok body) (hid : 0 ≤ c.id) :
    Fits c.id body := by
  have htoken := token?_commentBody hbody hid
  split at htoken
  · exact .inr ⟨c.id.toNat, htoken, Int.toNat_of_nonneg hid⟩
  · exact .inl ⟨_, htoken⟩

variable {old : List Comment} {bodies : List (Int × String)}

/-- With the first comment the writing ends, or its body stands in the thread before the rest is
written. -/
theorem written_step (hv : v.store.Threaded) (hlookup : v.store.threads.lookup thread = some cs)
    (hwrote : Wrote old bodies cs) (hid : c.id ∉ bodies.map (·.1)) (hpos : 0 ≤ c.id)
    (rest : List GitHub.Comment) :
    (b.written thread (old.map (·.ref thread)) (c :: rest) v = v ∧
      ∀ cs', Continues old cs' → b.Upheld cs' (c :: rest)) ∨
    ∃ body u cs', Logged.result (b.commentBody c) = .ok body ∧
      b.written thread (old.map (·.ref thread)) (c :: rest) v =
        b.written thread (old.map (·.ref thread)) rest u ∧
      u.store.Threaded ∧ u.store.threads.lookup thread = some cs' ∧
      Wrote old ((c.id, body) :: bodies) cs' := by
  rw [written_cons]
  cases hbody : Logged.result (b.commentBody c) with
  | error f =>
    refine .inl ⟨rfl, fun cs' _ => ?_⟩
    rw [Upheld, hbody]
    trivial
  | ok body =>
    cases hold : sought c.id old with
    | error f =>
      refine .inl ⟨rfl, fun cs' hcs' => ?_⟩
      rw [Upheld, hbody, hcs'.sought_error hold]
      trivial
    | ok o =>
      cases o with
      | none =>
        have hwrote' := hwrote.add hid hold (fits_commentBody hbody hpos) (hv thread cs hlookup).notMem
        exact .inr ⟨body, _, _, rfl, rfl, (survives_threaded thread).addComment body hv,
          Store.lookup_alterThread_self hlookup _, hwrote'⟩
      | some x =>
        obtain ⟨-, n, hmark, hn⟩ := of_sought hold
        have hwrote' := hwrote.rewrite hid hold (token?_rewritten hbody hpos hmark hn) hn
        exact .inr ⟨body, _, _, rfl, rfl, (survives_threaded thread).updateComment body rfl hv,
          Store.lookup_alterThread_self hlookup _, hwrote'⟩

/-- Whatever is written to a thread is upheld in the end. -/
theorem upheld_written : ∀ {l : List GitHub.Comment} {v : Scene} {cs : List Comment}
    {bodies : List (Int × String)}, v.store.Threaded →
      v.store.threads.lookup thread = some cs → Wrote old bodies cs → (∀ c ∈ l, 0 ≤ c.id) →
      (l.map (·.id)).Nodup → (∀ c ∈ l, c.id ∉ bodies.map (·.1)) →
      ∃ cs' bodies', (b.written thread (old.map (·.ref thread)) l v).store.threads.lookup thread =
        some cs' ∧ Wrote old bodies' cs' ∧ bodies ⊆ bodies' ∧ b.Upheld cs' l
  | [], _, cs, bodies, _, hlookup, hwrote, _, _, _ =>
    ⟨cs, bodies, hlookup, hwrote, List.Subset.refl _, trivial⟩
  | c :: rest, v, cs, bodies, hv, hlookup, hwrote, hnat, hd, hnew => by
    rw [List.map_cons, List.nodup_cons] at hd
    rcases written_step (b := b) hv hlookup hwrote (hnew c List.mem_cons_self)
      (hnat c List.mem_cons_self) rest with
      ⟨hstop, hupheld⟩ | ⟨body, u, cs', hbody, hgo, hu, hlookup', hwrote'⟩
    · rw [hstop]
      exact ⟨cs, bodies, hlookup, hwrote, List.Subset.refl _, hupheld cs hwrote.continues⟩
    · have hrest : ∀ d ∈ rest, d.id ∉ ((c.id, body) :: bodies).map (·.1) := by
        intro d hd' hmem
        rcases List.mem_cons.mp hmem with heq | hmem
        · exact hd.1 (List.mem_map.mpr ⟨d, hd', heq⟩)
        · exact hnew d (List.mem_cons_of_mem _ hd') hmem
      obtain ⟨cs'', bodies', hlast, hwrote'', hsub, hupheld⟩ := upheld_written hu hlookup' hwrote'
        (fun d hd' => hnat d (List.mem_cons_of_mem _ hd')) hd.2 hrest
      have hheld := hwrote''.held (c.id, body) (hsub List.mem_cons_self)
      rw [hgo]
      exact ⟨cs'', bodies', hlast, hwrote'', List.Subset.trans (List.subset_cons_self _ _) hsub,
        .cons hbody hheld hupheld⟩

end Writing

section Commenting

/-- The thread is as synchronising the comments of an issue leaves it. -/
def Spoken (b : Bridge) (src : Source) (name : String) (repo : Repo) (i : GitHub.Issue)
    (cs : List Comment) : Prop :=
  if i.comments = 0 then Unmarked cs else b.Upheld cs (src.remarks repo.owner name i.number)

theorem lookup_openThread (v : Scene) (thread : ThreadId) :
    (v.openThread thread).store.threads.lookup thread = some (v.store.thread thread) :=
  (Store.lookup_alterThread ..).trans (if_pos rfl)

theorem spoken_commented (hv : v.store.Threaded)
    (hnat : ∀ c ∈ v.source.remarks repo.owner name i.number, 0 ≤ c.id)
    (hd : ((v.source.remarks repo.owner name i.number).map (·.id)).Nodup) :
    ∃ cs, (b.commented thread i name repo v).store.threads.lookup thread = some cs ∧
      (cs.map (·.id)).Nodup ∧ b.Spoken v.source name repo i cs := by
  have hopened := (survives_threaded thread).openThread hv
  have hstamped := hopened thread _ (lookup_openThread v thread)
  have hexisting : (v.store.comments thread).1 = (v.store.thread thread).map (·.ref thread) := rfl
  unfold commented Spoken
  dsimp only
  rw [hexisting]
  split
  · refine ⟨kept (v.store.thread thread), ?_, ?_, unmarked_kept _⟩
    · exact lookup_erased [] (lookup_openThread v thread) hstamped.distinct
    · exact hstamped.distinct.sublist ((sublist_kept _).map _)
  · obtain ⟨cs, bodies, hlookup, hwrote, -, hupheld⟩ := upheld_written (b := b) hopened
      (lookup_openThread v thread) (.start hstamped.distinct) hnat hd fun _ _ hmem => by cases hmem
    exact ⟨cs, hlookup, hwrote.distinct, hupheld⟩

/-- Synchronising the comments of an issue again only asks for them. -/
theorem commented_eq_openThread (hd : ((v.store.thread thread).map (·.id)).Nodup)
    (h : b.Spoken v.source name repo i (v.store.thread thread)) :
    b.commented thread i name repo v = v.openThread thread := by
  have hexisting : (v.store.comments thread).1 = (v.store.thread thread).map (·.ref thread) := rfl
  unfold commented
  dsimp only
  unfold Spoken at h
  rw [hexisting]
  split at h
  · rw [if_pos ‹_›]
    exact erased_of_unmarked h
  · rw [if_neg ‹_›]
    exact written_of_upheld (lookup_openThread v thread) hd h

theorem commented_of_spoken (hlookup : v.store.threads.lookup thread = some cs)
    (hd : (cs.map (·.id)).Nodup) (h : b.Spoken v.source name repo i cs) :
    b.commented thread i name repo v = v := by
  have hthread : v.store.thread thread = cs := by
    unfold Store.thread
    rw [hlookup]
    rfl
  have hopen : v.openThread thread = v := by
    refine Scene.mapStore_congr (g := id) ?_
    unfold Store.comments
    dsimp only
    rw [Store.alterThread_of_lookup rfl hlookup]
    rfl
  rw [← hthread] at hd h
  exact (commented_eq_openThread hd h).trans hopen

end Commenting

end Bridge

end IssueBridge
