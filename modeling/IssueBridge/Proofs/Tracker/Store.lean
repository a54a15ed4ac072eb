import IssueBridge.Proofs.Tracker.Ticket
import IssueBridge.Tracker.Store
import Mathlib.Data.List.Induction

/-! # What an operation changes in the store

Operations on one ticket change the fields they name, those on one thread its comments. `Alters` says
so for any number of operations: which fields of which tickets may differ, and which threads.
-/

namespace IssueBridge.Tracker.Store

open Correlation

variable {s t u : Store} {r r' : TicketRef}

section Tickets

theorem ticket?_modify (s : Store) (r r' : TicketRef) (f : Ticket → Ticket) :
    (s.modify r f).ticket? r' = (s.ticket? r').map fun x => if r = r' then f x else x :=
  List.getElem?_modify ..

theorem ticket?_update (s : Store) (r r' : TicketRef) (fs : Fields) :
    (s.update r fs).ticket? r' = (s.ticket? r').map fun x => if r = r' then x.update fs else x :=
  ticket?_modify ..

theorem length_modify (s : Store) (r : TicketRef) (f : Ticket → Ticket) :
    (s.modify r f).tickets.length = s.tickets.length :=
  List.length_modify ..

theorem ticket?_isSome : (s.ticket? r).isSome ↔ r < s.tickets.length := by
  simp [ticket?]

theorem ticket?_lt {x : Ticket} (h : s.ticket? r = some x) : r < s.tickets.length :=
  (List.getElem?_eq_some_iff.mp h).1

theorem search_eq_filter (s : Store) (q : Query) :
    s.search q = (List.range s.tickets.length).filter fun r => (s.ticket? r).any (·.answers q) := by
  unfold search ticket?
  induction s.tickets using List.reverseRecOn with
  | nil => rfl
  | append_singleton l x ih =>
    have hl : ∀ r ∈ List.range l.length, (l ++ [x])[r]? = l[r]? := fun r hr =>
      List.getElem?_append_left (List.mem_range.mp hr)
    rw [List.zipIdx_append, List.filter_append, List.map_append, ih, List.length_append,
      List.length_singleton, List.range_succ, List.filter_append]
    congr 1
    · exact List.filter_congr fun r hr => by rw [hl r hr]
    · by_cases hx : x.answers q <;> simp [hx]

theorem mem_search {q : Query} : r ∈ s.search q ↔ ∃ x, s.ticket? r = some x ∧ x.answers q := by
  rw [search_eq_filter, List.mem_filter, List.mem_range, ← ticket?_isSome, Option.any_eq_true]
  constructor
  · rintro ⟨-, h⟩
    exact h
  · rintro ⟨x, hx, ha⟩
    exact ⟨by rw [hx]; rfl, x, hx, ha⟩

end Tickets

section Put

def put (s : Store) (r : TicketRef) (x : Ticket) : Store := { s with tickets := s.tickets.set r x }

variable {x y : Ticket}

theorem ticket?_put_self (h : s.ticket? r = some x) (y : Ticket) : (s.put r y).ticket? r = some y :=
  List.getElem?_set_self (ticket?_lt h)

theorem ticket?_put_of_ne (s : Store) (h : r ≠ r') (y : Ticket) : (s.put r y).ticket? r' = s.ticket? r' :=
  List.getElem?_set_ne h

theorem length_put (s : Store) (r : TicketRef) (y : Ticket) :
    (s.put r y).tickets.length = s.tickets.length :=
  List.length_set ..

theorem put_put (s : Store) (r : TicketRef) (x y : Ticket) : (s.put r x).put r y = s.put r y := by
  simp only [put, List.set_set]

theorem put_self (h : s.ticket? r = some x) : s.put r x = s := by
  have hs : s.tickets.set r x = s.tickets := by
    obtain ⟨hlt, rfl⟩ := List.getElem?_eq_some_iff.mp h
    exact List.set_getElem_self hlt
  rw [put, hs]

theorem update_eq_put (h : s.ticket? r = some x) (fs : Fields) :
    s.update r fs = s.put r (x.update fs) := by
  have hs : s.tickets.modify r (·.update fs) = s.tickets.set r (x.update fs) := by
    refine List.ext_getElem? fun r' => ?_
    by_cases hr : r = r'
    · subst hr
      have hx : s.tickets[r]? = some x := h
      rw [List.getElem?_modify_eq, List.getElem?_set_self (ticket?_lt h), hx]
      rfl
    · rw [List.getElem?_modify_ne _ _ hr, List.getElem?_set_ne hr]
  rw [update, modify, put, hs]

end Put

section Threads

theorem lookup_alterThread (f : List Comment → List Comment) (id id' : ThreadId) :
    ∀ ts : List (ThreadId × List Comment), (alterThread f id ts).lookup id' =
      if id' = id then some (f ((ts.lookup id).getD [])) else ts.lookup id'
  | [] => by
    by_cases h : id' = id
    · simp [alterThread, h]
    · have hb : (id' == id) = false := beq_eq_false_iff_ne.mpr h
      simp [alterThread, List.lookup_cons, h, hb]
  | (n, cs) :: ts => by
    have ih := lookup_alterThread f id id' ts
    by_cases hn : n = id
    · subst hn
      by_cases h : id' = n
      · simp [alterThread, h]
      · have hb : (id' == n) = false := beq_eq_false_iff_ne.mpr h
        simp [alterThread, List.lookup_cons, h, hb]
    · have hid : (id == n) = false := beq_eq_false_iff_ne.mpr (Ne.symm hn)
      rw [alterThread, if_neg hn]
      by_cases h : id' = n
      · subst h
        simp [hn]
      · have hb : (id' == n) = false := beq_eq_false_iff_ne.mpr h
        simp only [List.lookup_cons, hb, hid]
        exact ih

theorem lookup_alterThread_self {id : ThreadId} {ts : List (ThreadId × List Comment)} {cs : List Comment}
    (h : ts.lookup id = some cs) (f : List Comment → List Comment) :
    (alterThread f id ts).lookup id = some (f cs) := by
  rw [lookup_alterThread, if_pos rfl, h, Option.getD_some]

theorem alterThread_of_lookup {f : List Comment → List Comment} {id : ThreadId} {cs : List Comment}
    (hf : f cs = cs) : ∀ {ts : List (ThreadId × List Comment)}, ts.lookup id = some cs →
      alterThread f id ts = ts
  | (n, cs') :: ts, h => by
    by_cases hn : n = id
    · subst hn
      rw [List.lookup_cons_self, Option.some.injEq] at h
      rw [alterThread, if_pos rfl, h, hf]
    · have hid : (id == n) = false := beq_eq_false_iff_ne.mpr (Ne.symm hn)
      rw [List.lookup_cons, hid] at h
      rw [alterThread, if_neg hn, alterThread_of_lookup hf h]

theorem thread_alter (s : Store) (f : List Comment → List Comment) (id id' : ThreadId) :
    thread { s with threads := alterThread f id s.threads } id' =
      if id' = id then f (s.thread id) else s.thread id' := by
  unfold thread
  dsimp only
  rw [lookup_alterThread]
  split <;> rfl

theorem thread_comments (s : Store) (id id' : ThreadId) :
    (s.comments id).2.thread id' = s.thread id' := by
  refine (thread_alter s _ id id').trans ?_
  split
  · rename_i h
    rw [h]
  · rfl

theorem map_id_setBody (k body : String) :
    ∀ cs : List Comment, (setBody k body cs).map (·.id) = cs.map (·.id)
  | [] => rfl
  | c :: cs => by
    unfold setBody
    split
    · rfl
    · rw [List.map_cons, List.map_cons, map_id_setBody k body cs]

structure InThread (id : ThreadId) (s t : Store) : Prop where
  tickets : t.tickets = s.tickets
  workflow : t.workflow = s.workflow
  others : ∀ id', id' ≠ id → t.threads.lookup id' = s.threads.lookup id'

namespace InThread

variable {id : ThreadId}

theorem refl (s : Store) : InThread id s s := ⟨rfl, rfl, fun _ _ => rfl⟩

theorem trans (h : InThread id s t) (h' : InThread id t u) : InThread id s u where
  tickets := h'.tickets.trans h.tickets
  workflow := h'.workflow.trans h.workflow
  others id' hid := (h'.others id' hid).trans (h.others id' hid)

theorem alterThread (s : Store) (f : List Comment → List Comment) (n : Nat) :
    InThread id s { s with threads := Store.alterThread f id s.threads, added := n } where
  tickets := rfl
  workflow := rfl
  others id' hid := by
    dsimp only
    rw [lookup_alterThread, if_neg hid]

end InThread

end Threads

/-- The stores hold as many tickets and differ at most in the fields `names` of the tickets in `T` and
in the threads in `D`. -/
structure Alters (names : List String) (T : TicketRef → Prop) (D : ThreadId → Prop) (s t : Store) :
    Prop where
  length : t.tickets.length = s.tickets.length
  ticket : ∀ r x, s.ticket? r = some x →
    ∃ y, t.ticket? r = some y ∧ x.SameBut names y ∧ (T r ∨ y = x)
  thread : ∀ id, D id ∨ t.thread id = s.thread id
  workflow : t.workflow = s.workflow

namespace Alters

variable {names names' : List String} {T T' : TicketRef → Prop} {D D' : ThreadId → Prop}

theorem refl (s : Store) : Alters names T D s s :=
  ⟨rfl, fun _ x h => ⟨x, h, .refl .., .inr rfl⟩, fun _ => .inr rfl, rfl⟩

theorem trans (h : Alters names T D s t) (h' : Alters names T D t u) : Alters names T D s u where
  length := h'.length.trans h.length
  ticket r x hx := by
    obtain ⟨y, hy, hxy, ht⟩ := h.ticket r x hx
    obtain ⟨z, hz, hyz, ht'⟩ := h'.ticket r y hy
    refine ⟨z, hz, hxy.trans hyz, ?_⟩
    rcases ht with ht | rfl
    · exact .inl ht
    · exact ht'
  thread id := by
    rcases h.thread id with hd | he
    · exact .inl hd
    · exact (h'.thread id).imp_right fun he' => he'.trans he
  workflow := h'.workflow.trans h.workflow

theorem mono (h : Alters names T D s t) (hn : names ⊆ names') (hT : ∀ r, T r → T' r)
    (hD : ∀ id, D id → D' id) : Alters names' T' D' s t where
  length := h.length
  ticket r x hx := by
    obtain ⟨y, hy, hxy, ht⟩ := h.ticket r x hx
    exact ⟨y, hy, hxy.mono hn, ht.imp_left (hT r)⟩
  thread id := (h.thread id).imp_left (hD id)
  workflow := h.workflow

theorem of_threads (ht : t.tickets = s.tickets) (hw : t.workflow = s.workflow)
    (h : ∀ id, D id ∨ t.thread id = s.thread id) : Alters names T D s t where
  length := congrArg List.length ht
  ticket r x hx := ⟨x, by rw [ticket?, ht]; exact hx, .refl .., .inr rfl⟩
  thread := h
  workflow := hw

theorem update (s : Store) (r : TicketRef) {fs : Fields} (h : fs.map (·.1) ⊆ names) (hT : T r) :
    Alters names T D s (s.update r fs) where
  length := length_modify ..
  ticket r' x hx := by
    rw [ticket?_update, hx]
    by_cases hr : r = r'
    · exact ⟨x.update fs, by rw [Option.map_some, if_pos hr], x.sameBut_update h, .inl (hr ▸ hT)⟩
    · exact ⟨x, by rw [Option.map_some, if_neg hr], .refl .., .inr rfl⟩
  thread _ := .inr rfl
  workflow := rfl

theorem alterThread (s : Store) (f : List Comment → List Comment) (id : ThreadId) (n : Nat)
    (hD : D id) :
    Alters names T D s { s with threads := Store.alterThread f id s.threads, added := n } :=
  of_threads rfl rfl fun id' => by
    by_cases h : id' = id
    · exact .inl (h ▸ hD)
    · exact .inr ((thread_alter s f id id').trans (if_neg h))

theorem addComment (s : Store) (id : ThreadId) (body : String) (hD : D id) :
    Alters names T D s (s.addComment id body).2 :=
  alterThread s _ id _ hD

theorem updateComment (s : Store) (c : CommentRef) (body : String) (hD : D c.thread) :
    Alters names T D s (s.updateComment c body) :=
  alterThread s _ c.thread _ hD

theorem deleteComment (s : Store) (c : CommentRef) (hD : D c.thread) :
    Alters names T D s (s.deleteComment c) :=
  alterThread s _ c.thread _ hD

theorem comments (s : Store) (id : ThreadId) : Alters names T D s (s.comments id).2 :=
  of_threads rfl rfl fun id' => .inr (by rw [thread_comments])

theorem put {x y : Ticket} (hx : s.ticket? r = some x) (h : x.SameBut names y) (hT : T r) :
    Alters names T D s (s.put r y) where
  length := length_put ..
  ticket r' z hz := by
    by_cases hr : r = r'
    · subst hr
      obtain rfl := Option.some.inj (hx.symm.trans hz)
      exact ⟨y, ticket?_put_self hx y, h, .inl hT⟩
    · exact ⟨z, (ticket?_put_of_ne s hr y).trans hz, .refl .., .inr rfl⟩
  thread _ := .inr rfl
  workflow := rfl

theorem of_inThread {id : ThreadId} (h : InThread id s t) (hD : D id) : Alters names T D s t :=
  of_threads h.tickets h.workflow fun id' => by
    by_cases hid : id' = id
    · exact .inl (hid ▸ hD)
    · exact .inr (by rw [Store.thread, h.others id' hid, Store.thread])

theorem ticket?_eq (h : Alters names T D s t) (hr : ¬ T r) : t.ticket? r = s.ticket? r := by
  cases hx : s.ticket? r with
  | none =>
    have hlt : ¬ r < t.tickets.length := by
      rw [h.length, ← ticket?_isSome, hx]
      exact Bool.false_ne_true
    exact List.getElem?_eq_none (Nat.le_of_not_lt hlt)
  | some x =>
    obtain ⟨y, hy, -, hT | rfl⟩ := h.ticket r x hx
    · exact absurd hT hr
    · exact hy

theorem tickets_eq (h : Alters names (fun _ => False) D s t) : t.tickets = s.tickets :=
  List.ext_getElem? fun _ => h.ticket?_eq not_false

theorem ticket?_of_some {y : Ticket} (h : Alters names T D s t)
    (hy : t.ticket? r = some y) : ∃ x, s.ticket? r = some x ∧ x.SameBut names y := by
  have hlt := ticket?_lt hy
  rw [h.length] at hlt
  obtain ⟨x, hx⟩ := Option.isSome_iff_exists.mp (ticket?_isSome.mpr hlt)
  obtain ⟨y', hy', hxy, -⟩ := h.ticket r x hx
  rw [hy, Option.some.injEq] at hy'
  exact ⟨x, hx, hy' ▸ hxy⟩

theorem map_id (h : Alters names T D s t) : t.tickets.map (·.id) = s.tickets.map (·.id) := by
  refine List.ext_getElem? fun r => ?_
  rw [List.getElem?_map, List.getElem?_map]
  show (t.ticket? r).map _ = (s.ticket? r).map _
  cases hy : t.ticket? r with
  | none =>
    have hnone : s.ticket? r = none := by
      rw [← Option.not_isSome_iff_eq_none, ticket?_isSome, ← h.length, ← ticket?_isSome, hy]
      exact Bool.false_ne_true
    rw [hnone]
  | some y =>
    obtain ⟨x, hx, hxy⟩ := h.ticket?_of_some hy
    rw [hx, Option.map_some, Option.map_some, hxy.id]

/-- A query is answered by the same tickets if the updates leave the custom fields alone. -/
theorem search (h : Alters mirrored T D s t) (q : Query) : t.search q = s.search q := by
  rw [search_eq_filter, search_eq_filter, h.length]
  refine List.filter_congr fun r hr => ?_
  obtain ⟨x, hx⟩ := Option.isSome_iff_exists.mp (ticket?_isSome.mpr (List.mem_range.mp hr))
  obtain ⟨y, hy, hxy, -⟩ := h.ticket r x hx
  rw [hx, hy, Option.any_some, Option.any_some, hxy.answers customField_notMem_mirrored]

end Alters

end IssueBridge.Tracker.Store
