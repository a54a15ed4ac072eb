import IssueBridge.Proofs.Tracker.Fresh

/-! # Tickets and comments with ids

A tracker gives every ticket a key, and an id that no other ticket has; a comment's id is its own in its
thread. No operation changes that, as long as nothing has an id that is given later.
-/

namespace IssueBridge.Tracker.Store

open Correlation

variable {s t : Store} {r r' : TicketRef} {x y : Ticket}

def Keyed (s : Store) : Prop :=
  ∀ x ∈ s.tickets, (∃ k, x.key = .given k) ∧ ∃ n, x.id = .given n

theorem mem_of_ticket? (h : s.ticket? r = some x) : x ∈ s.tickets := List.mem_of_getElem? h

theorem Keyed.put (h : s.Keyed) (hx : s.ticket? r = some x) (hk : y.key = x.key) (hn : y.id = x.id) :
    (s.put r y).Keyed := by
  intro z hz
  rcases List.mem_or_eq_of_mem_set hz with hz | rfl
  · exact h z hz
  · rw [hk, hn]
    exact h x (mem_of_ticket? hx)

theorem Keyed.create (h : s.Keyed) (fs : Fields) : (s.create fs).2.Keyed := by
  intro z hz
  rcases List.mem_append.mp hz with hz | hz
  · exact h z hz
  · rw [List.mem_singleton.mp hz]
    exact ⟨⟨_, rfl⟩, _, rfl⟩

theorem Keyed.of_tickets_eq (h : s.Keyed) (ht : t.tickets = s.tickets) : t.Keyed := by
  unfold Keyed
  rw [ht]
  exact h

theorem eq_of_nodup_map {γ : Type} {f : Ticket → γ} (h : (s.tickets.map f).Nodup) (hx : s.ticket? r = some x)
    (hy : s.ticket? r' = some y) (hxy : f x = f y) : r = r' := by
  have hx' : (s.tickets.map f)[r]? = some (f x) := by
    rw [List.getElem?_map]
    exact congrArg (Option.map f) hx
  have hy' : (s.tickets.map f)[r']? = some (f y) := by
    rw [List.getElem?_map]
    exact congrArg (Option.map f) hy
  have hlt : r < (s.tickets.map f).length := by
    rw [List.length_map]
    exact ticket?_lt hx
  exact (List.getElem?_inj hlt h).mp (hx'.trans (hxy ▸ hy'.symm))

structure Identified (s : Store) : Prop where
  keyed : s.Keyed
  distinct : (s.tickets.map (·.id)).Nodup

namespace Identified

theorem of_tickets_eq (h : s.Identified) (ht : t.tickets = s.tickets) : t.Identified where
  keyed := h.keyed.of_tickets_eq ht
  distinct := ht ▸ h.distinct

theorem put (h : s.Identified) (hx : s.ticket? r = some x) (hk : y.key = x.key) (hn : y.id = x.id) :
    (s.put r y).Identified where
  keyed := h.keyed.put hx hk hn
  distinct := by
    have hids : (s.put r y).tickets.map (·.id) = s.tickets.map (·.id) := by
      obtain ⟨hlt, rfl⟩ := List.getElem?_eq_some_iff.mp hx
      have hlt' : r < (s.tickets.map (·.id)).length := by rwa [List.length_map]
      have hget : (s.tickets.map (·.id))[r] = s.tickets[r].id := List.getElem_map ..
      rw [Store.put, List.map_set, hn, ← hget]
      exact List.set_getElem_self hlt'
    rw [hids]
    exact h.distinct

theorem id_ne (h : s.Identified) (hx : s.ticket? r = some x) (hy : s.ticket? r' = some y) (hr : r ≠ r') :
    x.id.get? ≠ y.id.get? := by
  obtain ⟨-, n, hn⟩ := h.keyed x (mem_of_ticket? hx)
  obtain ⟨-, m, hm⟩ := h.keyed y (mem_of_ticket? hy)
  intro heq
  rw [hn, hm] at heq
  exact hr (eq_of_nodup_map h.distinct hx hy (by rw [hn, hm, Option.some.inj heq]))

end Identified

/-- The ids of tickets differ from each other and from those that new tickets will get. -/
structure Numbered (s : Store) : Prop where
  keyed : s.Keyed
  distinct : (s.tickets.map (·.id)).Nodup
  fresh : ∀ x ∈ s.tickets, ∀ n, s.tickets.length ≤ n → x.id ≠ .given (toString (10001 + n))

namespace Numbered

theorem identified (h : s.Numbered) : s.Identified := ⟨h.keyed, h.distinct⟩

theorem of_tickets_eq (h : s.Numbered) (ht : t.tickets = s.tickets) : t.Numbered where
  keyed := h.keyed.of_tickets_eq ht
  distinct := ht ▸ h.distinct
  fresh := ht ▸ h.fresh

theorem put (h : s.Numbered) (hx : s.ticket? r = some x) (hk : y.key = x.key) (hn : y.id = x.id) :
    (s.put r y).Numbered where
  keyed := h.keyed.put hx hk hn
  distinct := (h.identified.put hx hk hn).distinct
  fresh z hz n hlen := by
    rw [length_put] at hlen
    rcases List.mem_or_eq_of_mem_set hz with hz | rfl
    · exact h.fresh z hz n hlen
    · rw [hn]
      exact h.fresh x (mem_of_ticket? hx) n hlen

theorem create (h : s.Numbered) (fs : Fields) : (s.create fs).2.Numbered where
  keyed := h.keyed.create fs
  distinct := by
    have hids : (s.create fs).2.tickets.map (·.id) =
        s.tickets.map (·.id) ++ [.given (toString (10001 + s.tickets.length))] :=
      List.map_append
    rw [hids, List.nodup_append]
    refine ⟨h.distinct, List.pairwise_singleton _ _, ?_⟩
    intro a ha c hc
    obtain ⟨x, hx, rfl⟩ := List.mem_map.mp ha
    rw [List.mem_singleton.mp hc]
    exact h.fresh x hx _ (Nat.le_refl _)
  fresh z hz n hlen := by
    rw [length_create] at hlen
    rcases List.mem_append.mp hz with hz | hz
    · exact h.fresh z hz n (by omega)
    · rw [List.mem_singleton.mp hz]
      intro hid
      have hnum : 10001 + s.tickets.length = 10001 + n := Text.toString_inj (Part.given.inj hid)
      omega

theorem of_alters {names : List String} {T : TicketRef → Prop} {D : ThreadId → Prop} (h : s.Numbered)
    (ht : Alters names T D s t) : t.Numbered where
  keyed y hy := by
    obtain ⟨r, hr⟩ := List.mem_iff_getElem?.mp hy
    obtain ⟨x, hx, hxy⟩ := ht.ticket?_of_some hr
    rw [hxy.key, hxy.id]
    exact h.keyed x (mem_of_ticket? hx)
  distinct := ht.map_id ▸ h.distinct
  fresh y hy n hlen := by
    rw [ht.length] at hlen
    obtain ⟨r, hr⟩ := List.mem_iff_getElem?.mp hy
    obtain ⟨x, hx, hxy⟩ := ht.ticket?_of_some hr
    rw [hxy.id]
    exact h.fresh x (mem_of_ticket? hx) n hlen

theorem id_ne (h : s.Numbered) (hx : s.ticket? r = some x) (hy : s.ticket? r' = some y) (hr : r ≠ r') :
    x.id.get? ≠ y.id.get? :=
  h.identified.id_ne hx hy hr

end Numbered

/-- A ticket in the place of another that it differs from in mirrored fields only is found with it. -/
theorem search_put (hx : s.ticket? r = some x) (h : x.SameBut mirrored y) (q : Query) :
    (s.put r y).search q = s.search q := by
  rw [search_eq_filter, search_eq_filter, length_put]
  refine List.filter_congr fun r' _ => ?_
  by_cases hr : r = r'
  · subst hr
    rw [ticket?_put_self hx, hx, Option.any_some, Option.any_some, h.answers customField_notMem_mirrored]
  · rw [ticket?_put_of_ne s hr]

/-- No comments stand under the ids that new tickets will get. -/
def Blank (s : Store) : Prop := ∀ n, s.tickets.length ≤ n → s.thread (some (toString (10001 + n))) = []

namespace Blank

theorem create (h : s.Blank) (fs : Fields) : (s.create fs).2.Blank := by
  intro n hn
  rw [length_create] at hn
  exact h n (Nat.le_of_succ_le hn)

theorem put (h : s.Blank) (r : TicketRef) (x : Ticket) : (s.put r x).Blank := by
  intro n hn
  rw [length_put] at hn
  exact h n hn

/-- Where comments of tickets are changed, none are added under the ids of new ones. -/
theorem of_alters {names : List String} {T : TicketRef → Prop} {D : ThreadId → Prop} (h : s.Blank)
    (hs : s.Numbered) (ht : Alters names T D s t)
    (hD : ∀ id, D id → ∃ r x, s.ticket? r = some x ∧ x.id.get? = id) : t.Blank := by
  intro n hn
  rw [ht.length] at hn
  rcases ht.thread (some (toString (10001 + n))) with hd | hsame
  · obtain ⟨r, x, hx, hid⟩ := hD _ hd
    obtain ⟨-, m, hm⟩ := hs.keyed x (mem_of_ticket? hx)
    rw [hm] at hid
    exact absurd (hm.trans (congrArg Part.given (Option.some.inj hid))) (hs.fresh x (mem_of_ticket? hx) n hn)
  · exact hsame.trans (h n hn)

end Blank

section Threads

/-- The ids of comments differ from each other and from those that are given after `n` others. -/
structure Stamped (cs : List Comment) (n : Nat) : Prop where
  distinct : (cs.map (·.id)).Nodup
  fresh : ∀ c ∈ cs, ∀ k, n < k → c.id ≠ "n" ++ toString k

namespace Stamped

variable {cs cs' : List Comment} {m n : Nat}

theorem nil (n : Nat) : Stamped [] n := ⟨List.nodup_nil, fun _ hc => by cases hc⟩

theorem mono (h : Stamped cs n) (hn : n ≤ m) : Stamped cs m :=
  ⟨h.distinct, fun c hc k hk => h.fresh c hc k (Nat.lt_of_le_of_lt hn hk)⟩

theorem sublist (h : Stamped cs n) (hs : cs'.Sublist cs) : Stamped cs' n :=
  ⟨h.distinct.sublist (hs.map _), fun c hc => h.fresh c (hs.subset hc)⟩

theorem setBody (h : Stamped cs n) (k body : String) : Stamped (Store.setBody k body cs) n where
  distinct := by
    rw [map_id_setBody]
    exact h.distinct
  fresh c hc := by
    have hid : c.id ∈ cs.map (·.id) := by
      rw [← map_id_setBody k body]
      exact List.mem_map_of_mem hc
    obtain ⟨c', hc', heq⟩ := List.mem_map.mp hid
    rw [← heq]
    exact h.fresh c' hc'

theorem notMem (h : Stamped cs n) : "n" ++ toString (n + 1) ∉ cs.map (·.id) := by
  intro hmem
  obtain ⟨c, hc, hid⟩ := List.mem_map.mp hmem
  exact h.fresh c hc _ (Nat.lt_succ_self n) hid

theorem add (h : Stamped cs n) (body : Part String) :
    Stamped (cs ++ [⟨"n" ++ toString (n + 1), body⟩]) (n + 1) where
  distinct := by
    rw [List.map_append, List.nodup_append]
    refine ⟨h.distinct, List.pairwise_singleton _ _, ?_⟩
    rintro a ha c hc rfl
    rw [List.mem_singleton.mp hc] at ha
    exact h.notMem ha
  fresh c hc k hk := by
    rcases List.mem_append.mp hc with hc | hc
    · exact h.fresh c hc k (Nat.lt_of_succ_lt hk)
    · rw [List.mem_singleton.mp hc]
      intro hid
      have hnum : n + 1 = k := Text.toString_inj ((String.append_right_inj "n").mp hid)
      omega

end Stamped

def Threaded (s : Store) : Prop :=
  ∀ id cs, s.threads.lookup id = some cs → Stamped cs s.added

/-- Ids that differ from each other and do not look like those that are given later. -/
theorem Threaded.of_ids (h : ∀ p ∈ s.threads,
    (p.2.map (·.id)).Nodup ∧ ∀ c ∈ p.2, c.id.toList.head? ≠ some 'n') : s.Threaded := by
  intro id cs hcs
  obtain ⟨before, after, heq, -⟩ := List.lookup_eq_some_iff.mp hcs
  obtain ⟨hdistinct, hfront⟩ := h (id, cs) (heq ▸ List.mem_append_right _ List.mem_cons_self)
  refine ⟨hdistinct, fun c hc k _ hk => hfront c hc ?_⟩
  rw [hk, String.toList_append]
  rfl

theorem Threaded.alterThread (h : s.Threaded) {f : List Comment → List Comment} {n : Nat}
    (hn : s.added ≤ n) (hf : ∀ cs, Stamped cs s.added → Stamped (f cs) n) (id : ThreadId) :
    Threaded { s with threads := Store.alterThread f id s.threads, added := n } := by
  intro id' cs hcs
  dsimp only at hcs ⊢
  rw [lookup_alterThread] at hcs
  split at hcs
  · rw [← Option.some.inj hcs]
    refine hf _ ?_
    cases hold : s.threads.lookup id with
    | none => exact .nil _
    | some cs => exact h id cs hold
  · exact (h id' cs hcs).mono hn

end Threads

end IssueBridge.Tracker.Store
