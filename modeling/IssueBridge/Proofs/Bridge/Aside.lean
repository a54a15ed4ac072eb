import IssueBridge.Proofs.Bridge.Run
import IssueBridge.Proofs.Bridge.Spare

/-! # Deliveries about other issues

While what is found for an issue is found for no other id, deliveries about other issues leave it as it
is, with all its comments. They may make tickets, but none that is found for this issue.
-/

namespace IssueBridge

open Step Tracker Correlation

namespace Bridge

variable {b : Bridge} {repo : Repo} {id : Int} {r : TicketRef} {thread : ThreadId} {s t : Store}
  {q : Query}

structure Owned (b : Bridge) (id : Int) (r : TicketRef) (thread : ThreadId) (s : Store) : Prop where
  apart : ∀ p ∈ b.settings.repos, ∀ id', id' ≠ id → r ∉ b.finds s p.2.project id'
  thread : ∃ x, s.ticket? r = some x ∧ x.thread? = some thread
  numbered : s.Numbered

/-- The issue is carried by one ticket, which is found for no other id. -/
structure Carried (b : Bridge) (repo : Repo) (id : Int) (r : TicketRef) (thread : ThreadId)
    (s : Store) : Prop extends b.Owned id r thread s where
  sole : b.finds s repo.project id = [r]

theorem mem_repos_of_lookup {name : String} (h : b.settings.repos.lookup name = some repo) :
    (name, repo) ∈ b.settings.repos := by
  obtain ⟨before, after, heq, -⟩ := List.lookup_eq_some_iff.mp h
  exact heq ▸ List.mem_append_right _ List.mem_cons_self

/-- Where the projects' keys hold no quotes, a ticket that is found is found for its own id only. -/
theorem Carried.of_sole {name : String} (hb : ∀ p ∈ b.settings.repos, '\x27' ∉ p.2.project.toList)
    (hr : (name, repo) ∈ b.settings.repos) (hs : s.Numbered) (h : b.finds s repo.project id = [r])
    (hthread : ∃ x, s.ticket? r = some x ∧ x.thread? = some thread) : b.Carried repo id r thread s where
  sole := h
  apart p hp id' hid hmem := by
    have hown : r ∈ s.search (query b.fieldIds repo.project id) := by
      rw [search_of_finds (hb _ hr) (h ▸ List.cons_ne_nil _ _), h]
      exact List.mem_singleton_self r
    rw [← search_of_finds (hb p hp) (List.ne_nil_of_mem hmem)] at hmem
    obtain ⟨x, hx, hanswers⟩ := Store.mem_search.mp hown
    obtain ⟨y, hy, hanswers'⟩ := Store.mem_search.mp hmem
    rw [hx, Option.some.injEq] at hy
    subst hy
    exact hid (Ticket.answers_unique hanswers' hanswers rfl)
  thread := hthread
  numbered := hs

namespace Owned

theorem of_search (h : b.Owned id r thread s) (hsearch : ∀ q, t.search q = s.search q)
    (hn : t.Numbered) (hticket : ∀ x, s.ticket? r = some x → ∃ y, t.ticket? r = some y ∧ y.id = x.id) :
    b.Owned id r thread t where
  apart p hp id' hid := by
    rw [finds_congr hsearch]
    exact h.apart p hp id' hid
  thread := by
    obtain ⟨x, hx, hthread⟩ := h.thread
    obtain ⟨y, hy, hid⟩ := hticket x hx
    refine ⟨y, hy, ?_⟩
    unfold Ticket.thread? at hthread ⊢
    rwa [hid]
  numbered := hn

theorem of_tickets_eq (h : b.Owned id r thread s) (ht : t.tickets = s.tickets) :
    b.Owned id r thread t := by
  refine h.of_search (fun q => by unfold Store.search; rw [ht]) (h.numbered.of_tickets_eq ht) fun x hx => ?_
  exact ⟨x, by rw [Store.ticket?, ht]; exact hx, rfl⟩

theorem put (h : b.Owned id r thread s) {r' : TicketRef} {x y : Ticket} (hx : s.ticket? r' = some x)
    (hxy : x.SameBut mirrored y) : b.Owned id r thread (s.put r' y) := by
  refine h.of_search (Store.search_put hx hxy) (h.numbered.put hx hxy.key hxy.id) fun z hz => ?_
  by_cases hr : r' = r
  · subst hr
    rw [hx, Option.some.injEq] at hz
    exact ⟨y, Store.ticket?_put_self hx y, hz ▸ hxy.id⟩
  · exact ⟨z, (Store.ticket?_put_of_ne s hr y).trans hz, rfl⟩

theorem create (h : b.Owned id r thread s) (fs : Fields) : b.Owned id r thread (s.create fs).2 := by
  obtain ⟨x, hx, hthread⟩ := h.thread
  have hlt := Store.ticket?_lt hx
  constructor
  case apart =>
    intro p hp id' hid hmem
    obtain ⟨q, hq, hmem⟩ := mem_finds hmem
    rw [Store.search_create] at hmem
    have hold : r ∈ s.search q := by
      refine (List.mem_append.mp hmem).resolve_right fun hnew => ?_
      split at hnew
      · exact Nat.ne_of_lt hlt (List.mem_singleton.mp hnew)
      · cases hnew
    refine h.apart p hp id' hid ?_
    rw [finds_of_read? hq]
    exact hold
  case thread => exact ⟨x, (Store.ticket?_create_of_lt hlt).trans hx, hthread⟩
  case numbered => exact h.numbered.create fs

end Owned

namespace Carried

theorem of_tickets_eq (h : b.Carried repo id r thread s) (ht : t.tickets = s.tickets) :
    b.Carried repo id r thread t where
  toOwned := h.toOwned.of_tickets_eq ht
  sole := (finds_congr (fun q => by unfold Store.search; rw [ht]) _ _).trans h.sole

/-- The query that finds the ticket finds it for no other id. -/
theorem poised (h : b.Carried repo id r thread s) {q : Query} (hid : q.id = id) (hs : s.search q = [r]) :
    b.Poised q s where
  numbered := h.numbered
  exclusive r' hr' p hp id' hne := by
    rw [hs] at hr'
    rw [List.mem_singleton.mp hr']
    exact h.apart p hp id' fun heq => hne (heq.trans hid.symm)

end Carried

/-- Where a query finds tickets for its own id only, it goes on to do so, and what it yields stays. -/
def Frame.aside (b : Bridge) (q : Query) : Frame where
  rel v w := b.Poised q v.store → b.Poised q w.store ∧ v.store.Yields q w.store
  trans h h' hv := ⟨(h' (h hv).1).1, (h hv).2.trans (h' (h hv).1).2⟩
  noted h hv := by
    rw [h.store]
    exact ⟨hv, .refl ..⟩

theorem keeps_handleIssue_aside {name : String} {a : IssueAction} {e : GitHub.IssueEvent}
    (hr : (name, repo) ∈ b.settings.repos) (hi : e.issue.id ≠ q.id) :
    Keeps (Frame.aside b q) (b.handleIssue a e repo) := by
  by_cases ha : a = .opened
  · subst ha
    have hopened : Keeps (Frame.aside b q) (b.opened e.issue repo) := by
      intro w hw
      rcases creates_opened b e.issue repo w with ⟨fs, hfs, -, hs⟩ | ⟨-, hs⟩
      · rw [hs.store]
        exact ⟨hw.create hfs, .create fun ha => hi (hfs.id_of_answers ha)⟩
      · exact (Frame.aside b q).noted hs hw
    exact hopened.map _
  · intro w hw
    rcases altersFound_handleIssue ha e w with hs | ⟨r, hf, halters⟩
    · rw [hs]
      exact ⟨hw, .refl ..⟩
    · have hsub := fields_subset_mirrored a
      refine ⟨hw.of_alters halters hsub, .of_alters halters hsub ?_ fun _ _ _ _ => not_false⟩
      rintro _ hmem rfl
      exact hw.exclusive _ hmem _ hr _ hi (hf ▸ List.mem_singleton_self _)

theorem keeps_handleComment_aside {name : String} {a : CommentAction} {e : GitHub.CommentEvent}
    (hr : (name, repo) ∈ b.settings.repos) (hi : e.issue.id ≠ q.id) :
    Keeps (Frame.aside b q) (b.handleComment a e repo) := by
  intro w hw
  rcases turning_handleComment b a e repo w with hs | ⟨r, hf, hs | ⟨y, thread, hy, hthread, hturned⟩⟩
  · rw [hs]
    exact ⟨hw, .refl ..⟩
  · rw [hs]
    exact ⟨hw, .refl ..⟩
  · have halters : Store.Alters [] (fun _ => False) (· = thread) w.store _ :=
      hturned.alters (keeps_handleComment b a e repo w).1.workflow
    refine ⟨hw.of_alters halters (List.nil_subset _), .of_alters halters (List.nil_subset _) (fun _ _ => not_false) ?_⟩
    rintro r' hmem x hx heq
    have hne : r' ≠ r := by
      rintro rfl
      exact hw.exclusive _ hmem _ hr _ hi (hf ▸ List.mem_singleton_self _)
    exact hw.numbered.id_ne hx hy hne (heq.trans (Ticket.get?_id hthread).symm)

theorem handles_aside {kind : String} {body : ByteArray}
    (h : ∀ e, Event.read? kind body = some (.ok e) → e.subject.id ≠ q.id) :
    b.Handles (Frame.aside b q) kind body := by
  intro e handler repo hread hhandler hrepo
  have hi := h e hread
  have hr := mem_repos_of_lookup hrepo
  cases e with
  | issue e =>
    obtain ⟨a, -, rfl⟩ := Option.map_eq_some_iff.mp hhandler
    exact (keeps_handleIssue_aside hr hi).discard
  | comment e =>
    obtain ⟨a, -, rfl⟩ := Option.map_eq_some_iff.mp hhandler
    exact (keeps_handleComment_aside hr hi).discard

/-- An issue that is left aside stays carried, and its comments stay as they are. -/
theorem Carried.aside {v w : World} (h : b.Carried repo id r thread v.store)
    (haside : ∀ q : Query, q.id = id → (Frame.aside b q).rel v w) :
    b.Carried repo id r thread w.store ∧ w.store.thread thread = v.store.thread thread := by
  obtain ⟨q, hq, hmem⟩ := mem_finds (h.sole ▸ List.mem_singleton_self r)
  have hid := Query.id_of_read?_text hq
  have hs : v.store.search q = [r] := (finds_of_read? hq _).symm.trans h.sole
  obtain ⟨hpoised, hyields⟩ := haside q hid (h.poised hid hs)
  obtain ⟨x, hx, hthread⟩ := h.thread
  have hs' := hyields.search.trans hs
  have hown : r ∈ w.store.search q := hs' ▸ List.mem_singleton_self r
  have hsame := hyields.thread r hmem x hx
  rw [Ticket.get?_id hthread] at hsame
  refine ⟨⟨⟨?_, ⟨x, (hyields.ticket r hmem).trans hx, hthread⟩, hpoised.numbered⟩, ?_⟩, hsame⟩
  · exact fun p hp id' hne => hpoised.exclusive r hown p hp id' fun heq => hne (heq.trans hid)
  · exact (finds_of_read? hq _).trans hs'

end Bridge

end IssueBridge
