import IssueBridge.Proofs.Tracker.Discussion
import IssueBridge.Proofs.Tracker.Numbered

/-! # Comments that were written in the tracker

A comment without a token was written in the tracker. The bridge changes comments only by the ids of
those that it read with a token; as ids are distinct, it never meets one that was written in the tracker.
-/

namespace IssueBridge.Tracker

open Correlation

/-- The body starts with no token. -/
def Comment.native (c : Comment) : Bool := (tokenDigits? (c.body.get?.getD "").toList).isNone

variable {c d : Comment} {cs : List Comment} {k body : String} {n : Nat}

theorem tokenDigits?_eq_none {body : Option String} :
    tokenDigits? (body.getD "").toList = none ↔ token? body = .ok none := by
  unfold token?
  cases tokenDigits? (body.getD "").toList with
  | none => simp
  | some ds =>
    dsimp only
    split <;> simp

theorem Comment.native_iff : c.native ↔ c.mark = .ok none := by
  rw [native, Option.isNone_iff_eq_none, tokenDigits?_eq_none]
  rfl

theorem Comment.not_native (h : c.mark = .ok (some n)) : ¬ c.native := by
  rw [native_iff, h]
  simp

/-- A body with a token is put in the place of one that was not written in the tracker. -/
theorem filter_native_setBody (hbody : token? (some body) ≠ .ok none) :
    ∀ {cs : List Comment}, (∀ d ∈ cs, d.id = k → ¬ d.native) →
      (Store.setBody k body cs).filter Comment.native = cs.filter Comment.native
  | [], _ => rfl
  | d :: cs, h => by
    unfold Store.setBody
    split
    · rename_i hd
      have hnew : ¬ Comment.native { d with body := .given body } := by
        rw [Comment.native_iff]
        exact hbody
      rw [List.filter_cons_of_neg hnew, List.filter_cons_of_neg (h d List.mem_cons_self hd)]
    · rw [List.filter_cons, List.filter_cons,
        filter_native_setBody hbody fun d' hd' => h d' (List.mem_cons_of_mem _ hd')]

theorem filter_native_eraseP : ∀ {cs : List Comment}, (∀ d ∈ cs, d.id = k → ¬ d.native) →
    (cs.eraseP (·.id = k)).filter Comment.native = cs.filter Comment.native
  | [], _ => rfl
  | d :: cs, h => by
    by_cases hd : d.id = k
    · rw [List.eraseP_cons_of_pos (by simpa using hd), List.filter_cons_of_neg (h d List.mem_cons_self hd)]
    · rw [List.eraseP_cons_of_neg (by simpa using hd), List.filter_cons, List.filter_cons,
        filter_native_eraseP fun d' hd' => h d' (List.mem_cons_of_mem _ hd')]

theorem not_native_setBody {k' : String} (hbody : token? (some body) ≠ .ok none) :
    ∀ {cs : List Comment}, (∀ d ∈ cs, d.id = k → ¬ d.native) →
      ∀ d ∈ Store.setBody k' body cs, d.id = k → ¬ d.native
  | [], _ => fun _ hd => by cases hd
  | c :: cs, h => by
    have hrest : ∀ d ∈ Store.setBody k' body cs, d.id = k → ¬ d.native :=
      not_native_setBody hbody fun d' hd' => h d' (List.mem_cons_of_mem _ hd')
    unfold Store.setBody
    split
    · intro d hd hk
      rcases List.mem_cons.mp hd with rfl | hd
      · rw [Comment.native_iff]
        exact hbody
      · exact h d (List.mem_cons_of_mem _ hd) hk
    · intro d hd hk
      rcases List.mem_cons.mp hd with rfl | hd
      · exact h d List.mem_cons_self hk
      · exact hrest d hd hk

namespace Store

variable {s t u : Store} {ref : CommentRef} {refs : List CommentRef} {thread : ThreadId}

def native (s : Store) (thread : ThreadId) : List Comment := (s.thread thread).filter Comment.native

/-- The id of `ref` belongs to no comment of its thread that was written in the tracker, nor is it given
to a new comment. -/
structure Foreign (s : Store) (ref : CommentRef) : Prop where
  fresh : ∀ k, s.added < k → ref.id ≠ "n" ++ toString k
  foreign : ∀ d ∈ s.thread ref.thread, d.id = ref.id → ¬ d.native

/-- Comments have ids of their own, and those that `refs` show with a token are foreign. -/
structure Read (refs : List CommentRef) (s : Store) : Prop where
  threaded : s.Threaded
  foreign : ∀ ref ∈ refs, ∀ n, token? ref.body = .ok (some n) → s.Foreign ref

/-- Where `refs` were read they can still be relied on, and the comments that were written in the tracker
are as they were, in front of new ones. -/
def Guards (refs : List CommentRef) (s t : Store) : Prop :=
  Read refs s → Read refs t ∧ ∀ thread, s.native thread <+: t.native thread

theorem Threaded.stamped (h : s.Threaded) (thread : ThreadId) : Stamped (s.thread thread) s.added := by
  unfold Store.thread
  cases hl : s.threads.lookup thread with
  | none => exact .nil _
  | some cs => exact h thread cs hl

theorem Foreign.of_threads (h : s.Foreign ref) (hthread : t.thread ref.thread = s.thread ref.thread)
    (hadded : s.added ≤ t.added) : t.Foreign ref where
  fresh k hk := h.fresh k (Nat.lt_of_le_of_lt hadded hk)
  foreign := hthread ▸ h.foreign

namespace Guards

theorem refl (s : Store) : Guards refs s s := fun h => ⟨h, fun _ => List.prefix_rfl⟩

theorem trans (h : Guards refs s t) (h' : Guards refs t u) : Guards refs s u := fun hs =>
  ⟨(h' (h hs).1).1, fun thread => ((h hs).2 thread).trans ((h' (h hs).1).2 thread)⟩

theorem of_threads_eq (ht : t.threads = s.threads) (ha : t.added = s.added) : Guards refs s t := by
  have hthread : ∀ id, t.thread id = s.thread id := fun id => by rw [Store.thread, ht, Store.thread]
  intro h
  refine ⟨⟨?_, fun ref href n hn => ?_⟩, fun thread => ?_⟩
  · unfold Threaded
    rw [ht, ha]
    exact h.threaded
  · exact (h.foreign ref href n hn).of_threads (hthread _) (Nat.le_of_eq ha.symm)
  · rw [native, ← hthread]
    exact List.prefix_rfl

theorem update (s : Store) (r : TicketRef) (fs : Fields) : Guards refs s (s.update r fs) :=
  of_threads_eq rfl rfl

theorem create (s : Store) (fs : Fields) : Guards refs s (s.create fs).2 := of_threads_eq rfl rfl

theorem alterThread {f : List Comment → List Comment} {added : Nat} (hadded : s.added ≤ added)
    (hstamped : Read refs s → ∀ cs, Stamped cs s.added → Stamped (f cs) added)
    (hforeign : Read refs s → ∀ ref ∈ refs, ref.thread = thread → s.Foreign ref →
      ∀ d ∈ f (s.thread thread), d.id = ref.id → ¬ d.native)
    (hnative : Read refs s → (s.native thread <+: (f (s.thread thread)).filter Comment.native)) :
    Guards refs s { s with threads := Store.alterThread f thread s.threads, added } := by
  have hthread : ∀ id, Store.thread { s with threads := Store.alterThread f thread s.threads, added } id =
      if id = thread then f (s.thread thread) else s.thread id := thread_alter s f thread
  intro h
  refine ⟨⟨h.threaded.alterThread hadded (hstamped h) thread, fun ref href n hn => ?_⟩, fun id => ?_⟩
  · have hs := h.foreign ref href n hn
    refine ⟨fun k hk => hs.fresh k (Nat.lt_of_le_of_lt hadded hk), ?_⟩
    rw [hthread]
    split
    · exact hforeign h ref href ‹_› hs
    · exact hs.foreign
  · unfold native
    rw [hthread]
    split
    · rename_i hid
      rw [hid]
      exact hnative h
    · exact List.prefix_rfl

theorem comments (s : Store) (thread : ThreadId) : Guards refs s (s.comments thread).2 :=
  alterThread (Nat.le_refl _) (fun _ _ h => h) (fun _ _ _ hr hs => hr ▸ hs.foreign)
    fun _ => List.prefix_rfl

theorem addComment (s : Store) (thread : ThreadId) (body : String) :
    Guards refs s (s.addComment thread body).2 := by
  refine alterThread (Nat.le_succ _) (fun _ _ h => h.add _) (fun _ ref _ hr hs d hd hid => ?_) fun _ => ?_
  · rcases List.mem_append.mp hd with hd | hd
    · exact hs.foreign d (hr ▸ hd) hid
    · rw [List.mem_singleton.mp hd] at hid
      exact absurd hid.symm (hs.fresh _ (Nat.lt_succ_self _))
  · rw [List.filter_append]
    exact List.prefix_append ..

theorem updateComment (s : Store) (href : ref ∈ refs) (hn : token? ref.body = .ok (some n))
    (hbody : token? (some body) ≠ .ok none) : Guards refs s (s.updateComment ref body) := by
  refine alterThread (Nat.le_refl _) (fun _ _ h => h.setBody _ _) (fun _ ref' _ hr hs => ?_) fun h => ?_
  · exact not_native_setBody hbody (hr ▸ hs.foreign)
  · rw [filter_native_setBody hbody (h.foreign ref href n hn).foreign]
    exact List.prefix_rfl

theorem deleteComment (s : Store) (href : ref ∈ refs) (hn : token? ref.body = .ok (some n)) :
    Guards refs s (s.deleteComment ref) := by
  refine alterThread (Nat.le_refl _) (fun _ _ h => h.sublist List.eraseP_sublist)
    (fun _ ref' _ hr hs d hd => ?_) fun h => ?_
  · exact hs.foreign d (hr ▸ List.eraseP_sublist.subset hd)
  · rw [filter_native_eraseP (h.foreign ref href n hn).foreign]
    exact List.prefix_rfl

end Guards

/-- What is read of a thread shows foreign comments only where it shows tokens. -/
theorem Threaded.read (h : s.Threaded) (thread : ThreadId) : Read (s.comments thread).1 s := by
  refine ⟨h, fun ref href n hn => ?_⟩
  obtain ⟨c, hc, rfl⟩ := List.mem_map.mp href
  refine ⟨(h.stamped thread).fresh c hc, fun d hd hid => ?_⟩
  rw [List.inj_on_of_nodup_map (h.stamped thread).distinct hd hc hid]
  exact Comment.not_native hn

end Store

end IssueBridge.Tracker
