import IssueBridge.Proofs.Tracker.Apart
import Mathlib.Data.List.Forall2

/-! # Stores that differ in one ticket

Two stores stand beside each other when they differ in one ticket, in its thread, and in the ids of comments.
Operations on other tickets and threads keep them beside each other.
-/

namespace IssueBridge.Tracker.Store

open Correlation

variable {a : Ailing} {s s' t t' : Store} {r : TicketRef}

/-- The comments have the same body, and they agree on which of the ids read from a thread is theirs. -/
def Alike (pairs : List (CommentRef × CommentRef)) (id : ThreadId) (c d : Comment) : Prop :=
  c.body = d.body ∧ ∀ p ∈ pairs, p.1.thread = id → (c.id = p.1.id ↔ d.id = p.2.id)

structure Tied (a : Ailing) (s t : Store) (p : CommentRef × CommentRef) : Prop where
  thread : p.2.thread = p.1.thread
  body : p.2.body = p.1.body
  elsewhere : p.1.thread ≠ a.thread
  left : p.1.id ∉ a.comments
  right : p.2.id ∉ a.comments
  leftOld : ∀ k, s.added < k → p.1.id ≠ "n" ++ toString k
  rightOld : ∀ k, t.added < k → p.2.id ≠ "n" ++ toString k

theorem Tied.mono {p : CommentRef × CommentRef} (h : Tied a s t p) (hs : s.added ≤ s'.added)
    (ht : t.added ≤ t'.added) : Tied a s' t' p :=
  { h with
    leftOld := fun k hk => h.leftOld k (Nat.lt_of_le_of_lt hs hk)
    rightOld := fun k hk => h.rightOld k (Nat.lt_of_le_of_lt ht hk) }

/-- The stores differ in the ailing ticket and its thread. Elsewhere they differ at most in the ids of comments,
but not in which comments have the ids that were read before. -/
structure Beside (a : Ailing) (pairs : List (CommentRef × CommentRef)) (s t : Store) : Prop where
  length : t.tickets.length = s.tickets.length
  ticket : ∀ r, r ≠ a.ref → t.ticket? r = s.ticket? r
  own : ∀ x, s.ticket? a.ref = some x → ∃ y, t.ticket? a.ref = some y ∧ x.SameBut mirrored y
  thread : ∀ id, id ≠ a.thread → List.Forall₂ (Alike pairs id) (s.thread id) (t.thread id)
  tied : ∀ p ∈ pairs, Tied a s t p
  workflow : t.workflow = s.workflow

namespace Beside

variable {pairs : List (CommentRef × CommentRef)}

theorem update (h : Beside a pairs s t) (hr : r ≠ a.ref) (fs : Fields) :
    Beside a pairs (s.update r fs) (t.update r fs) where
  length := by
    rw [Store.update, Store.update, length_modify, length_modify]
    exact h.length
  ticket r' hr' := by rw [ticket?_update, ticket?_update, h.ticket r' hr']
  own x hx := by
    have hkeep : ∀ u : Store, (u.update r fs).ticket? a.ref = u.ticket? a.ref := by
      intro u
      rw [ticket?_update]
      simp only [hr, if_false, Option.map_id']
    rw [hkeep] at hx ⊢
    exact h.own x hx
  thread := h.thread
  tied p hp := (h.tied p hp).mono (Nat.le_refl _) (Nat.le_refl _)
  workflow := h.workflow

theorem transition (h : Beside a pairs s t) (hr : r ≠ a.ref) (step : String) :
    Beside a pairs (s.transition r step) (t.transition r step) := by
  unfold Store.transition
  rw [h.workflow]
  split
  · exact h.update hr _
  · exact h

theorem map_ticket (h : Beside a pairs s t) {γ : Type} {f : Ticket → γ}
    (hf : ∀ x y, x.SameBut mirrored y → f y = f x) (r : TicketRef) :
    (t.ticket? r).map f = (s.ticket? r).map f := by
  by_cases hr : r = a.ref
  · subst hr
    cases hs : s.ticket? a.ref with
    | none =>
      have hlt : ¬ a.ref < t.tickets.length := by
        rw [h.length, ← ticket?_isSome, hs]
        exact Bool.false_ne_true
      rw [show t.ticket? a.ref = none from List.getElem?_eq_none (Nat.le_of_not_lt hlt)]
    | some x =>
      obtain ⟨y, hy, hxy⟩ := h.own x hs
      rw [hy, Option.map_some, Option.map_some, hf x y hxy]
  · rw [h.ticket r hr]

theorem projects (h : Beside a pairs s t) : t.projects = s.projects := by
  refine List.ext_getElem? fun r => ?_
  have hs : s.projects[r]? = (s.ticket? r).map (·.keyProject) := List.getElem?_map ..
  have ht : t.projects[r]? = (t.ticket? r).map (·.keyProject) := List.getElem?_map ..
  rw [hs, ht]
  refine h.map_ticket (fun x y hxy => ?_) r
  unfold Ticket.keyProject
  rw [hxy.key]

theorem newTicket (h : Beside a pairs s t) (fs : Fields) : t.newTicket fs = s.newTicket fs := by
  unfold Store.newTicket
  simp only [length_filter_keyProject, h.projects, h.length]

theorem search (h : Beside a pairs s t) (q : Query) : t.search q = s.search q := by
  rw [search_eq_filter, search_eq_filter, h.length]
  refine List.filter_congr fun r _ => ?_
  have hanswers := h.map_ticket (fun x y hxy => hxy.answers customField_notMem_mirrored q) r
  have hany : ∀ o : Option Ticket, o.any (·.answers q) = (o.map (·.answers q)).getD false := fun o => by
    cases o <;> rfl
  rw [hany, hany, hanswers]

theorem create (h : Beside a pairs s t) (hs : s.Apart a) (fs : Fields) :
    Beside a pairs (s.create fs).2 (t.create fs).2 where
  length := by
    rw [length_create, length_create, h.length]
  ticket r hr := by
    have hold : ∀ u : Store, (u.create fs).2.ticket? r =
        if r < u.tickets.length then u.ticket? r
        else if r = u.tickets.length then some (u.newTicket fs) else none := by
      intro u
      split
      · exact ticket?_create_of_lt ‹_›
      · split
        · rename_i heq
          rw [heq]
          exact ticket?_create u fs
        · refine List.getElem?_eq_none ?_
          rw [length_create]
          exact Nat.lt_of_le_of_ne (Nat.le_of_not_lt ‹¬ r < _›) (Ne.symm ‹¬ r = _›)
    rw [hold, hold, h.length, h.ticket r hr, h.newTicket]
  own x hx := by
    rw [ticket?_create_of_lt hs.inside] at hx
    rw [ticket?_create_of_lt (h.length.symm ▸ hs.inside)]
    exact h.own x hx
  thread := h.thread
  tied p hp := (h.tied p hp).mono (Nat.le_refl _) (Nat.le_refl _)
  workflow := h.workflow

theorem alters (h : Beside a [] s t) (hs : Alters mirrored (· = a.ref) (· = a.thread) s s')
    (ht : Alters mirrored (· = a.ref) (· = a.thread) t t') : Beside a [] s' t' where
  length := ht.length.trans (h.length.trans hs.length.symm)
  ticket r hr := by rw [hs.ticket?_eq hr, ht.ticket?_eq hr, h.ticket r hr]
  own x hx := by
    obtain ⟨x', hx', hxx'⟩ := hs.ticket?_of_some hx
    obtain ⟨y', hy', hxy'⟩ := h.own x' hx'
    obtain ⟨y, hy, hyy', -⟩ := ht.ticket _ y' hy'
    exact ⟨y, hy, hxx'.symm.trans (hxy'.trans hyy')⟩
  thread id hid := by
    rw [(hs.thread id).resolve_left hid, (ht.thread id).resolve_left hid]
    exact h.thread id hid
  tied p hp := by cases hp
  workflow := ht.workflow.trans (h.workflow.trans hs.workflow.symm)

section Threads

variable {id : ThreadId} {p : CommentRef × CommentRef} {cs ds : List Comment}

theorem alterThread (h : Beside a pairs s t) {f g : List Comment → List Comment} {m n : Nat}
    (hm : s.added ≤ m) (hn : t.added ≤ n)
    (hfg : id ≠ a.thread → List.Forall₂ (Alike pairs id) (f (s.thread id)) (g (t.thread id))) :
    Beside a pairs { s with threads := Store.alterThread f id s.threads, added := m }
      { t with threads := Store.alterThread g id t.threads, added := n } where
  length := h.length
  ticket := h.ticket
  own := h.own
  thread id' hid' := by
    have hs : Store.thread { s with threads := Store.alterThread f id s.threads, added := m } id' =
        if id' = id then f (s.thread id) else s.thread id' := thread_alter s f id id'
    have ht : Store.thread { t with threads := Store.alterThread g id t.threads, added := n } id' =
        if id' = id then g (t.thread id) else t.thread id' := thread_alter t g id id'
    rw [hs, ht]
    by_cases heq : id' = id
    · subst heq
      rw [if_pos rfl, if_pos rfl]
      exact hfg hid'
    · rw [if_neg heq, if_neg heq]
      exact h.thread id' hid'
  tied p hp := (h.tied p hp).mono hm hn
  workflow := h.workflow

theorem alike_setBody (hp : p ∈ pairs) (hid : p.1.thread = id) (body : String)
    (h : List.Forall₂ (Alike pairs id) cs ds) :
    List.Forall₂ (Alike pairs id) (setBody p.1.id body cs) (setBody p.2.id body ds) := by
  induction h with
  | nil => exact .nil
  | @cons c d cs ds hcd h ih =>
    unfold setBody
    by_cases hc : c.id = p.1.id
    · rw [if_pos hc, if_pos ((hcd.2 p hp hid).mp hc)]
      exact .cons ⟨rfl, hcd.2⟩ h
    · rw [if_neg hc, if_neg (mt (hcd.2 p hp hid).mpr hc)]
      exact .cons hcd ih

theorem alike_eraseP (hp : p ∈ pairs) (hid : p.1.thread = id) (h : List.Forall₂ (Alike pairs id) cs ds) :
    List.Forall₂ (Alike pairs id) (cs.eraseP (·.id = p.1.id)) (ds.eraseP (·.id = p.2.id)) := by
  induction h with
  | nil => exact .nil
  | @cons c d cs ds hcd h ih =>
    by_cases hc : c.id = p.1.id
    · rw [List.eraseP_cons_of_pos (by simpa using hc),
        List.eraseP_cons_of_pos (by simpa using (hcd.2 p hp hid).mp hc)]
      exact h
    · rw [List.eraseP_cons_of_neg (by simpa using hc),
        List.eraseP_cons_of_neg (by simpa using mt (hcd.2 p hp hid).mpr hc)]
      exact .cons hcd ih

theorem addComment (h : Beside a pairs s t) (id : ThreadId) (body : String) :
    Beside a pairs (s.addComment id body).2 (t.addComment id body).2 := by
  refine h.alterThread (Nat.le_succ _) (Nat.le_succ _) fun hid => ?_
  refine List.rel_append (h.thread id hid) (.cons ⟨rfl, fun p hp _ => iff_of_false ?_ ?_⟩ .nil)
  · exact Ne.symm ((h.tied p hp).leftOld _ (Nat.lt_succ_self _))
  · exact Ne.symm ((h.tied p hp).rightOld _ (Nat.lt_succ_self _))

theorem updateComment (h : Beside a pairs s t) (hp : p ∈ pairs) (body : String) :
    Beside a pairs (s.updateComment p.1 body) (t.updateComment p.2 body) := by
  unfold Store.updateComment
  rw [(h.tied p hp).thread]
  exact h.alterThread (Nat.le_refl _) (Nat.le_refl _) fun hid => alike_setBody hp rfl body (h.thread _ hid)

theorem deleteComment (h : Beside a pairs s t) (hp : p ∈ pairs) :
    Beside a pairs (s.deleteComment p.1) (t.deleteComment p.2) := by
  unfold Store.deleteComment
  rw [(h.tied p hp).thread]
  exact h.alterThread (Nat.le_refl _) (Nat.le_refl _) fun hid => alike_eraseP hp rfl (h.thread _ hid)

theorem getElem_id_eq_iff (h : (cs.map (·.id)).Nodup) {i j : Nat} (hi : i < cs.length) (hj : j < cs.length) :
    cs[i].id = cs[j].id ↔ i = j := by
  constructor
  · intro heq
    have hsame := List.inj_on_of_nodup_map h (List.getElem_mem hi) (List.getElem_mem hj) heq
    exact (List.Nodup.of_map _ h).getElem_inj_iff.mp hsame
  · rintro rfl
    rfl

/-- Comments with ids of their own on both sides are told apart by the pairs of their ids. -/
theorem id_eq_iff_of_mem_zip (hc : (cs.map (·.id)).Nodup) (hd : (ds.map (·.id)).Nodup) {p q : Comment × Comment}
    (hp : p ∈ cs.zip ds) (hq : q ∈ cs.zip ds) : p.1.id = q.1.id ↔ p.2.id = q.2.id := by
  obtain ⟨i, hi, rfl⟩ := List.mem_iff_getElem.mp hp
  obtain ⟨j, hj, rfl⟩ := List.mem_iff_getElem.mp hq
  rw [List.length_zip] at hi hj
  rw [List.getElem_zip, List.getElem_zip]
  exact (getElem_id_eq_iff hc (by omega) (by omega)).trans (getElem_id_eq_iff hd (by omega) (by omega)).symm

theorem comments (h : Beside a [] s t) (hs : s.Apart a) (ht : t.Apart a) (hid : id ≠ a.thread) :
    Beside a ((s.comments id).1.zip (t.comments id).1) (s.comments id).2 (t.comments id).2 := by
  have hpairs : ∀ p ∈ (s.comments id).1.zip (t.comments id).1, ∃ q ∈ (s.thread id).zip (t.thread id),
      p = (⟨id, q.1.id, q.1.body.get?⟩, ⟨id, q.2.id, q.2.body.get?⟩) := by
    intro p hp
    unfold Store.comments at hp
    rw [List.zip_map] at hp
    obtain ⟨q, hq, rfl⟩ := List.mem_map.mp hp
    exact ⟨q, hq, rfl⟩
  obtain ⟨-, hbodies⟩ := List.forall₂_iff_zip.mp (h.thread id hid)
  constructor
  case length => exact h.length
  case ticket => exact h.ticket
  case own => exact h.own
  case thread =>
    intro id' hid'
    rw [thread_comments, thread_comments]
    obtain ⟨hlength, halike⟩ := List.forall₂_iff_zip.mp (h.thread id' hid')
    refine List.forall₂_iff_zip.mpr ⟨hlength, fun hcd => ⟨(halike hcd).1, fun p hp hpid => ?_⟩⟩
    obtain ⟨q, hq, rfl⟩ := hpairs p hp
    subst hpid
    exact id_eq_iff_of_mem_zip (hs.threaded.stamped id).distinct (ht.threaded.stamped id).distinct hcd hq
  case tied =>
    intro p hp
    obtain ⟨q, hq, rfl⟩ := hpairs p hp
    obtain ⟨hleft, hright⟩ := List.of_mem_zip hq
    exact {
      thread := rfl
      body := congrArg Part.get? (hbodies hq).1.symm
      elsewhere := hid
      left := hs.comment id hid _ hleft
      right := ht.comment id hid _ hright
      leftOld := (hs.threaded.stamped id).fresh _ hleft
      rightOld := (ht.threaded.stamped id).fresh _ hright }
  case workflow => exact h.workflow

theorem forget (h : Beside a pairs s t) : Beside a [] s t where
  length := h.length
  ticket := h.ticket
  own := h.own
  thread id hid := (h.thread id hid).imp fun _ _ hcd => ⟨hcd.1, nofun⟩
  tied := nofun
  workflow := h.workflow

theorem refl (a : Ailing) (s : Store) : Beside a [] s s where
  length := rfl
  ticket _ _ := rfl
  own x hx := ⟨x, hx, .refl _ x⟩
  thread _ _ := List.forall₂_same.mpr fun _ _ => ⟨rfl, nofun⟩
  tied := nofun
  workflow := rfl

theorem map_body (h : Beside a pairs s t) (hid : id ≠ a.thread) :
    (t.thread id).map (·.body) = (s.thread id).map (·.body) := by
  generalize s.thread id = cs, t.thread id = ds, h.thread id hid = halike
  induction halike with
  | nil => rfl
  | cons hcd _ ih => rw [List.map_cons, List.map_cons, hcd.1, ih]

end Threads

end Beside

end IssueBridge.Tracker.Store
