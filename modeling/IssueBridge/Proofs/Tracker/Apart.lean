import IssueBridge.Proofs.Tracker.Fresh
import IssueBridge.Proofs.Tracker.Native

/-! # What one ticket goes by

Calls to the tracker name a ticket by its key, its thread by the ticket's id, and a comment by an id of its own.
When no other ticket or comment goes by these, now or later, what becomes of one ticket is no matter of the
others.
-/

namespace IssueBridge.Tracker

/-- A ticket whose calls may fail: its place, its key, its thread and the ids of its comments. -/
structure Ailing where
  ref : TicketRef
  key : Option String
  thread : ThreadId
  comments : List String

namespace Store

variable {a : Ailing} {s : Store} {k : TicketRef} {x : Ticket}

def projects (s : Store) : List String := s.tickets.map (·.keyProject)

theorem length_filter_keyProject (s : Store) (p : String) :
    (s.tickets.filter (·.keyProject = p)).length = s.projects.count p := by
  rw [projects, List.count, List.countP_map, List.countP_eq_length_filter]
  exact congrArg List.length (List.filter_congr fun x _ => (beq_eq_decide ..).symm)

theorem projects_update (s : Store) (r : TicketRef) (fs : Fields) : (s.update r fs).projects = s.projects := by
  refine List.ext_getElem? fun r' => ?_
  have hold : s.projects[r']? = (s.ticket? r').map (·.keyProject) := List.getElem?_map ..
  have hnew : (s.update r fs).projects[r']? = ((s.update r fs).ticket? r').map (·.keyProject) := List.getElem?_map ..
  have hkey : ∀ x : Ticket, Ticket.keyProject (if r = r' then x.update fs else x) = x.keyProject := by
    intro x
    have hupdate : (x.update fs).key = x.key := rfl
    unfold Ticket.keyProject
    split
    · rw [hupdate]
    · rfl
  rw [hold, hnew, ticket?_update, Option.map_map]
  exact congrArg (Option.map · (s.ticket? r')) (funext hkey)

/-- No other ticket, thread or comment goes by what the ailing ticket goes by, nor will one that is yet to
come. -/
structure Apart (a : Ailing) (s : Store) : Prop where
  inside : a.ref < s.tickets.length
  key : ∀ r x, r ≠ a.ref → s.ticket? r = some x → x.key.get? ≠ a.key
  laterKey : ∀ p n, s.projects.count p < n → a.key ≠ some (p ++ "-" ++ toString n)
  thread : ∀ r x, r ≠ a.ref → s.ticket? r = some x → x.thread? ≠ some a.thread
  laterThread : ∀ n, s.tickets.length ≤ n → a.thread ≠ some (toString (10001 + n))
  own : ∀ x, s.ticket? a.ref = some x → x.thread? = some a.thread
  comment : ∀ id, id ≠ a.thread → ∀ c ∈ s.thread id, c.id ∉ a.comments
  laterComment : ∀ k, s.added < k → "n" ++ toString k ∉ a.comments
  threaded : s.Threaded

namespace Apart

theorem update (h : s.Apart a) (r : TicketRef) (fs : Fields) : (s.update r fs).Apart a := by
  have hticket : ∀ r' y, (s.update r fs).ticket? r' = some y →
      ∃ x, s.ticket? r' = some x ∧ y.key = x.key ∧ y.thread? = x.thread? := by
    intro r' y hy
    rw [ticket?_update] at hy
    obtain ⟨x, hx, rfl⟩ := Option.map_eq_some_iff.mp hy
    refine ⟨x, hx, ?_⟩
    split <;> exact ⟨rfl, rfl⟩
  have hprojects := projects_update s r fs
  constructor
  case inside => exact (length_modify s r _).symm ▸ h.inside
  case key =>
    intro r' y hr hy
    obtain ⟨x, hx, hkey, -⟩ := hticket r' y hy
    exact hkey ▸ h.key r' x hr hx
  case laterKey => exact hprojects ▸ h.laterKey
  case thread =>
    intro r' y hr hy
    obtain ⟨x, hx, -, hthread⟩ := hticket r' y hy
    exact hthread ▸ h.thread r' x hr hx
  case laterThread => exact (length_modify s r _).symm ▸ h.laterThread
  case own =>
    intro y hy
    obtain ⟨x, hx, -, hthread⟩ := hticket _ y hy
    exact hthread ▸ h.own x hx
  case comment => exact h.comment
  case laterComment => exact h.laterComment
  case threaded => exact h.threaded

theorem transition (h : s.Apart a) (r : TicketRef) (step : String) : (s.transition r step).Apart a := by
  unfold Store.transition
  split
  · exact h.update r _
  · exact h

theorem create (h : s.Apart a) (fs : Fields) : (s.create fs).2.Apart a := by
  have hticket : ∀ r x, (s.create fs).2.ticket? r = some x →
      s.ticket? r = some x ∨ r = s.tickets.length ∧ x = s.newTicket fs := by
    intro r x hx
    have hlt := ticket?_lt hx
    rw [length_create] at hlt
    rcases Nat.lt_succ_iff_lt_or_eq.mp hlt with hlt | rfl
    · exact .inl (ticket?_create_of_lt hlt ▸ hx)
    · rw [ticket?_create] at hx
      exact .inr ⟨rfl, (Option.some.inj hx).symm⟩
  have hprojects : ∀ p, s.projects.count p ≤ (s.create fs).2.projects.count p := by
    intro p
    unfold projects
    rw [show (s.create fs).2.tickets = s.tickets ++ [s.newTicket fs] from rfl, List.map_append,
      List.count_append]
    exact Nat.le_add_right _ _
  constructor
  case inside =>
    rw [length_create]
    exact Nat.lt_succ_of_lt h.inside
  case key =>
    intro r x hr hx
    rcases hticket r x hx with hx | ⟨-, rfl⟩
    · exact h.key r x hr hx
    · have hlater := h.laterKey (projectKey fs) _ (Nat.lt_succ_self _)
      rw [← length_filter_keyProject] at hlater
      exact hlater.symm
  case laterKey => exact fun p n hn => h.laterKey p n (Nat.lt_of_le_of_lt (hprojects p) hn)
  case thread =>
    intro r x hr hx
    rcases hticket r x hx with hx | ⟨-, rfl⟩
    · exact h.thread r x hr hx
    · exact fun heq => h.laterThread _ (Nat.le_refl _) (Option.some.inj heq).symm
  case laterThread =>
    intro n hn
    rw [length_create] at hn
    exact h.laterThread n (Nat.le_of_succ_le hn)
  case own =>
    intro x hx
    rw [ticket?_create_of_lt h.inside] at hx
    exact h.own x hx
  case comment => exact h.comment
  case laterComment => exact h.laterComment
  case threaded => exact h.threaded

theorem alterThread (h : s.Apart a) {f : List Comment → List Comment} {n : Nat} {id : ThreadId}
    (hn : s.added ≤ n) (hf : ∀ cs, Stamped cs s.added → Stamped (f cs) n)
    (hcomment : id ≠ a.thread → ∀ c ∈ f (s.thread id), c.id ∉ a.comments) :
    Apart a { s with threads := Store.alterThread f id s.threads, added := n } where
  inside := h.inside
  key := h.key
  laterKey := h.laterKey
  thread := h.thread
  laterThread := h.laterThread
  own := h.own
  comment id' hid' c hc := by
    have hthread : Store.thread { s with threads := Store.alterThread f id s.threads, added := n } id' =
        if id' = id then f (s.thread id) else s.thread id' := thread_alter s f id id'
    rw [hthread] at hc
    split at hc
    · exact hcomment (‹id' = id› ▸ hid') c hc
    · exact h.comment id' hid' c hc
  laterComment k hk := h.laterComment k (Nat.lt_of_le_of_lt hn hk)
  threaded := h.threaded.alterThread hn hf id

theorem comments (h : s.Apart a) (id : ThreadId) : (s.comments id).2.Apart a :=
  h.alterThread (Nat.le_refl _) (fun _ hs => hs) (h.comment id)

theorem addComment (h : s.Apart a) (id : ThreadId) (body : String) : (s.addComment id body).2.Apart a := by
  refine h.alterThread (Nat.le_succ _) (fun _ hs => hs.add _) fun hid c hc => ?_
  rcases List.mem_append.mp hc with hc | hc
  · exact h.comment id hid c hc
  · rw [List.mem_singleton.mp hc]
    exact h.laterComment _ (Nat.lt_succ_self _)

theorem updateComment (h : s.Apart a) (c : CommentRef) (body : String) : (s.updateComment c body).Apart a := by
  refine h.alterThread (Nat.le_refl _) (fun _ hs => hs.setBody _ _) fun hid d hd => ?_
  have hmem : d.id ∈ (s.thread c.thread).map (·.id) := by
    rw [← map_id_setBody c.id body]
    exact List.mem_map_of_mem hd
  obtain ⟨d', hd', heq⟩ := List.mem_map.mp hmem
  exact heq ▸ h.comment _ hid d' hd'

theorem deleteComment (h : s.Apart a) (c : CommentRef) : (s.deleteComment c).Apart a :=
  h.alterThread (Nat.le_refl _) (fun _ hs => hs.sublist List.eraseP_sublist) fun hid d hd =>
    h.comment _ hid d (List.eraseP_sublist.subset hd)

end Apart

/-- The keys of tickets differ from each other and from those that new tickets will get. -/
structure Named (s : Store) : Prop where
  distinct : (s.tickets.map (·.key)).Nodup
  fresh : ∀ x ∈ s.tickets, ∀ p n, s.projects.count p < n → x.key ≠ .given (p ++ "-" ++ toString n)

/-- Comments in different threads have different ids. -/
def Parted (s : Store) : Prop :=
  ∀ id id', id ≠ id' → ∀ c ∈ s.thread id, ∀ d ∈ s.thread id', c.id ≠ d.id

def ailing (s : Store) (k : TicketRef) (x : Ticket) : Ailing where
  ref := k
  key := x.key.get?
  thread := x.id.get?
  comments := (s.thread x.id.get?).map (·.id)

theorem apart_ailing (hnum : s.Numbered) (hnamed : s.Named) (hthreads : s.Threaded) (hparted : s.Parted)
    (hx : s.ticket? k = some x) : s.Apart (s.ailing k x) := by
  have hmem := mem_of_ticket? hx
  obtain ⟨⟨key, hkey⟩, id, hid⟩ := hnum.keyed x hmem
  have hkeyed : (s.ailing k x).key = some key := congrArg Part.get? hkey
  have hthread : (s.ailing k x).thread = some id := congrArg Part.get? hid
  constructor
  case inside => exact ticket?_lt hx
  case key =>
    intro r y hr hy heq
    obtain ⟨⟨key', hkey'⟩, -⟩ := hnum.keyed y (mem_of_ticket? hy)
    rw [hkey', hkeyed] at heq
    have hsame : y.key = x.key := by rw [hkey, hkey', Option.some.inj heq]
    exact hr (eq_of_nodup_map hnamed.distinct hy hx hsame)
  case laterKey =>
    intro p n hn heq
    rw [hkeyed] at heq
    exact hnamed.fresh x hmem p n hn (hkey.trans (congrArg Part.given (Option.some.inj heq)))
  case thread =>
    intro r y hr hy heq
    exact hnum.id_ne hy hx hr (Ticket.get?_id heq)
  case laterThread =>
    intro n hn heq
    rw [hthread] at heq
    exact hnum.fresh x hmem n hn (hid.trans (congrArg Part.given (Option.some.inj heq)))
  case own =>
    intro y hy
    obtain rfl := Option.some.inj (hx.symm.trans hy)
    rw [hthread, Ticket.thread?, hid]
  case comment =>
    intro id' hid' c hc hmem
    obtain ⟨d, hd, heq⟩ := List.mem_map.mp hmem
    exact hparted _ _ hid' c hc d hd heq.symm
  case laterComment =>
    intro n hn hmem
    obtain ⟨d, hd, heq⟩ := List.mem_map.mp hmem
    exact (hthreads.stamped _).fresh d hd n hn heq
  case threaded => exact hthreads

end Store

end IssueBridge.Tracker
