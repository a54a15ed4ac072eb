import IssueBridge.Bridge.Schedule
import IssueBridge.Proofs.Bridge.Event

/-! # What an operation may change

A pass adds tickets for listed issues only and otherwise changes mirrored fields and comments of the
tickets that are found for them. Together with what an event may change this bounds every operation,
wherever a failure ends it.
-/

namespace IssueBridge

open Step Tracker

/-- What no operation changes of a ticket: all but the mirrored fields. -/
structure Tracker.Ticket.Kept (githubId : String) (x y : Ticket) : Prop where
  others : x.SameBut mirrored y
  key : y.key = x.key
  id : y.id = x.id
  project : y.project = x.project
  sourceId : y.sourceId (customField githubId) = x.sourceId (customField githubId)
  labels : y.field "labels" = x.field "labels"
  fixVersions : y.field "fixVersions" = x.field "fixVersions"
  versions : y.field "versions" = x.field "versions"

theorem Tracker.Ticket.SameBut.kept {x y : Ticket} (h : x.SameBut mirrored y) (githubId : String) :
    x.Kept githubId y where
  others := h
  key := h.key
  id := h.id
  project := h.project
  sourceId := h.sourceId (customField_notMem_mirrored githubId)
  labels := congrArg (·.getD .null) (h.field "labels" (by decide))
  fixVersions := congrArg (·.getD .null) (h.field "fixVersions" (by decide))
  versions := congrArg (·.getD .null) (h.field "versions" (by decide))

/-- All tickets are still there, and of each of them everything that is kept. -/
def Tracker.Store.Retains (githubId : String) (s t : Store) : Prop :=
  ∀ r x, s.ticket? r = some x → ∃ y, t.ticket? r = some y ∧ x.Kept githubId y

theorem Tracker.Store.Retains.refl (githubId : String) (s : Store) : s.Retains githubId s := fun _ x hx =>
  ⟨x, hx, (Ticket.SameBut.refl _ x).kept _⟩

theorem Tracker.Ticket.Kept.trans {githubId : String} {x y z : Ticket} (h : x.Kept githubId y)
    (h' : y.Kept githubId z) : x.Kept githubId z where
  others := h.others.trans h'.others
  key := h'.key.trans h.key
  id := h'.id.trans h.id
  project := h'.project.trans h.project
  sourceId := h'.sourceId.trans h.sourceId
  labels := h'.labels.trans h.labels
  fixVersions := h'.fixVersions.trans h.fixVersions
  versions := h'.versions.trans h.versions

theorem Tracker.Store.Retains.trans {githubId : String} {s t u : Store} (h : s.Retains githubId t)
    (h' : t.Retains githubId u) : s.Retains githubId u := by
  intro r x hx
  obtain ⟨y, hy, hxy⟩ := h r x hx
  obtain ⟨z, hz, hyz⟩ := h' r y hy
  exact ⟨z, hz, hxy.trans hyz⟩

namespace Bridge

variable {b : Bridge} {src : Source} {s t u : Store} {r : TicketRef} {x y : Ticket}

/-- The search for the id of an issue that a repository lists finds the ticket. Where the key of the
repository's project holds no quote, the ticket carries this id in this project. -/
def Listed (b : Bridge) (src : Source) (s : Store) (r : TicketRef) : Prop :=
  ∃ name repo i, (name, repo) ∈ b.settings.repos ∧ i ∈ src.listing repo.owner name ∧
    r ∈ b.finds s repo.project i.id ∧
    ('\x27' ∉ repo.project.toList → r ∈ s.search (query b.fieldIds repo.project i.id))

/-- The ticket was made for an issue that a repository lists, and carries its id unless the field of the
address stands in the way. -/
def MadeFor (b : Bridge) (src : Source) (y : Ticket) : Prop :=
  ∃ name repo i, (name, repo) ∈ b.settings.repos ∧ i ∈ src.listing repo.owner name ∧
    y.project = repo.project ∧
    (b.fieldIds.githubUrl ≠ some b.fieldIds.githubId →
      y.sourceId (customField b.fieldIds.githubId) = .int i.id)

/-- What a pass may change of a store. -/
structure PassReach (b : Bridge) (src : Source) (s t : Store) : Prop where
  old : ∀ r x, s.ticket? r = some x →
    ∃ y, t.ticket? r = some y ∧ x.SameBut mirrored y ∧ (y = x ∨ b.Listed src t r)
  new : ∀ r y, s.tickets.length ≤ r → t.ticket? r = some y → b.MadeFor src y
  thread : ∀ id, t.thread id = s.thread id ∨
    ∃ r y, t.ticket? r = some y ∧ y.thread? = some id ∧ b.Listed src t r

theorem MadeFor.of_sameBut (h : b.MadeFor src x) (hxy : x.SameBut mirrored y) : b.MadeFor src y := by
  obtain ⟨name, repo, i, hr, hi, hp, hid⟩ := h
  refine ⟨name, repo, i, hr, hi, hxy.project.trans hp, fun hu => ?_⟩
  rw [hxy.sourceId (customField_notMem_mirrored _)]
  exact hid hu

/-- A ticket that is found is still found when mirrored fields were changed. -/
theorem Listed.mono (h : b.Listed src s r)
    (hst : ∀ x, s.ticket? r = some x → ∃ y, t.ticket? r = some y ∧ x.SameBut mirrored y) :
    b.Listed src t r := by
  have hsearch : ∀ q, r ∈ s.search q → r ∈ t.search q := by
    intro q hq
    obtain ⟨x, hx, ha⟩ := Store.mem_search.mp hq
    obtain ⟨y, hy, hxy⟩ := hst x hx
    exact Store.mem_search.mpr ⟨y, hy, by rw [hxy.answers customField_notMem_mirrored, ha]⟩
  obtain ⟨name, repo, i, hr, hi, hf, hs⟩ := h
  refine ⟨name, repo, i, hr, hi, ?_, fun hp => hsearch _ (hs hp)⟩
  unfold finds at hf ⊢
  cases hq : Correlation.Query.read? (query b.fieldIds repo.project i.id).text with
  | none =>
    rw [hq] at hf
    exact hf
  | some q =>
    rw [hq] at hf
    exact hsearch q hf

theorem Listed.of_finds {name : String} {repo : Repo} {i : GitHub.Issue}
    (hr : (name, repo) ∈ b.settings.repos) (hi : i ∈ src.listing repo.owner name)
    (h : b.finds s repo.project i.id = [r]) : b.Listed src s r := by
  have hmem : r ∈ b.finds s repo.project i.id := h ▸ List.mem_singleton_self r
  refine ⟨name, repo, i, hr, hi, hmem, fun hp => ?_⟩
  rw [search_of_finds hp (List.ne_nil_of_mem hmem)]
  exact hmem

namespace PassReach

theorem refl (s : Store) : b.PassReach src s s where
  old _ x hx := ⟨x, hx, .refl .., .inl rfl⟩
  new _ _ hlt hy := absurd (Store.ticket?_lt hy) (Nat.not_lt.mpr hlt)
  thread _ := .inl rfl

theorem listed (h : b.PassReach src s t) (hr : b.Listed src s r) : b.Listed src t r :=
  hr.mono fun x hx => by
    obtain ⟨y, hy, hxy, -⟩ := h.old r x hx
    exact ⟨y, hy, hxy⟩

theorem trans (h : b.PassReach src s t) (h' : b.PassReach src t u) : b.PassReach src s u where
  old r x hx := by
    obtain ⟨y, hy, hxy, ht⟩ := h.old r x hx
    obtain ⟨z, hz, hyz, hu⟩ := h'.old r y hy
    refine ⟨z, hz, hxy.trans hyz, ?_⟩
    rcases hu with rfl | hu
    · exact ht.imp_right h'.listed
    · exact .inr hu
  new r z hlt hz := by
    by_cases hr : r < t.tickets.length
    · obtain ⟨y, hy⟩ := Option.isSome_iff_exists.mp (Store.ticket?_isSome.mpr hr)
      obtain ⟨z', hz', hyz, -⟩ := h'.old r y hy
      rw [hz, Option.some.injEq] at hz'
      exact (h.new r y hlt hy).of_sameBut (hz' ▸ hyz)
    · exact h'.new r z (Nat.le_of_not_lt hr) hz
  thread id := by
    rcases h'.thread id with hu | hu
    · rw [hu]
      refine (h.thread id).imp_right fun ⟨r, y, hy, hid, hr⟩ => ?_
      obtain ⟨z, hz, hyz, -⟩ := h'.old r y hy
      exact ⟨r, z, hz, hyz.thread?.trans hid, h'.listed hr⟩
    · exact .inr hu

theorem of_create {name : String} {repo : Repo} {i : GitHub.Issue} {fs : Fields}
    (hr : (name, repo) ∈ b.settings.repos) (hi : i ∈ src.listing repo.owner name)
    (hfs : b.Drafts i repo fs)
    (h : (s.create fs).2.Alters mirrored (· = s.tickets.length) (fun _ => False) t) :
    b.PassReach src s t where
  old r x hx := by
    have hlt := Store.ticket?_lt hx
    obtain ⟨y, hy, hxy, hT⟩ := h.ticket r x ((Store.ticket?_create_of_lt hlt).trans hx)
    exact ⟨y, hy, hxy, .inl (hT.resolve_left (Nat.ne_of_lt hlt))⟩
  new r y hlt hy := by
    obtain ⟨x, hx, hxy⟩ := h.ticket?_of_some hy
    have hr' := Store.ticket?_lt hx
    rw [Store.length_create] at hr'
    obtain rfl : r = s.tickets.length := Nat.le_antisymm (Nat.lt_succ_iff.mp hr') hlt
    rw [Store.ticket?_create, Option.some.injEq] at hx
    subst hx
    exact .of_sameBut ⟨name, repo, i, hr, hi, hfs.project s, fun hu => hfs.sourceId hu s⟩ hxy
  thread id := .inl (h.thread_eq id)

theorem of_alters {name : String} {repo : Repo} {i : GitHub.Issue}
    (hr : (name, repo) ∈ b.settings.repos) (hi : i ∈ src.listing repo.owner name)
    (hf : b.finds s repo.project i.id = [r])
    (h : s.Alters mirrored (· = r) (fun id => ∃ x, s.ticket? r = some x ∧ x.thread? = some id) t) :
    b.PassReach src s t := by
  have hlisted : b.Listed src t r := (Listed.of_finds hr hi hf).mono fun x hx => by
    obtain ⟨y, hy, hxy, -⟩ := h.ticket r x hx
    exact ⟨y, hy, hxy⟩
  refine ⟨fun r' x hx => ?_, fun r' y hlt hy => ?_, fun id => ?_⟩
  · obtain ⟨y, hy, hxy, rfl | he⟩ := h.ticket r' x hx
    · exact ⟨y, hy, hxy, .inr hlisted⟩
    · exact ⟨y, hy, hxy, .inl he⟩
  · have hlt' := Store.ticket?_lt hy
    rw [h.length] at hlt'
    exact absurd hlt' (Nat.not_lt.mpr hlt)
  · rcases h.thread id with ⟨x, hx, hid⟩ | he
    · obtain ⟨y, hy, hxy, -⟩ := h.ticket r x hx
      exact .inr ⟨r, y, hy, hxy.thread?.trans hid, hlisted⟩
    · exact .inl he

end PassReach

end Bridge

def Frame.passReach (b : Bridge) : Frame where
  rel v w := Frame.surroundings.rel v w ∧ b.PassReach v.source v.store w.store
  trans h h' := ⟨Frame.surroundings.trans h.1 h'.1, h.2.trans (h.1.1 ▸ h'.2)⟩
  noted h := ⟨Frame.surroundings.noted h, h.store ▸ .refl _⟩

namespace Bridge

variable {b : Bridge} {src : Source} {s t : Store}

theorem stepwise_passReach (b : Bridge) : b.Stepwise (.passReach b) where
  source h := h.1.1
  ensure {name repo i} w hr hi := by
    by_cases h : ∃ p n, outcome (b.findIssue repo.project i.id) w = .error (.issueNotFound p n)
    · obtain ⟨p, n, h⟩ := h
      rcases ensureTicket_of_notFound name h with ⟨fs, hfs, hrel⟩ | ⟨-, hs⟩
      · exact ⟨hrel.2, .of_create hr hi hfs hrel.1⟩
      · exact (Frame.passReach b).noted hs
    · exact (Frame.passReach b).noted (ensureTicket_of_found name fun p n hn => h ⟨p, n, hn⟩)
  sync since w hr hi := by
    rcases syncIssue_cases b _ _ since _ w with hs | ⟨r, hf, hrel⟩
    · exact (Frame.passReach b).noted hs
    · exact ⟨hrel.2, .of_alters hr hi hf hrel.1⟩

theorem passReach_syncAll (b : Bridge) (w : World) :
    b.PassReach w.source w.store (after b.syncAll w).store :=
  ((stepwise_passReach b).syncAll w).2

theorem PassReach.retains (h : b.PassReach src s t) : s.Retains b.fieldIds.githubId t := by
  intro r x hx
  obtain ⟨y, hy, hxy, -⟩ := h.old r x hx
  exact ⟨y, hy, hxy.kept _⟩

theorem fields_subset_mirrored : ∀ a : IssueAction, a.fields ⊆ mirrored := by
  intro a
  cases a <;> decide

theorem EventReach.retains {repo : Repo} {e : Event} (h : b.EventReach repo s t e) :
    s.Retains b.fieldIds.githubId t := by
  intro r x hx
  cases e with
  | issue e =>
    obtain ⟨a, -, ha⟩ := h
    split at ha
    · obtain ⟨y, rfl⟩ := ha
      exact ⟨x, (List.getElem?_append_left (Store.ticket?_lt hx)).trans hx,
        (Ticket.SameBut.refl _ x).kept _⟩
    · obtain ⟨r', -, halters⟩ := ha
      obtain ⟨y, hy, hxy, -⟩ := halters.ticket r x hx
      exact ⟨y, hy, (hxy.mono (fields_subset_mirrored a)).kept _⟩
  | comment e =>
    obtain ⟨a, r', y, thread, -, -, -, -, hturned⟩ := h
    refine ⟨x, ?_, (Ticket.SameBut.refl _ x).kept _⟩
    rw [Store.ticket?, hturned.tickets]
    exact hx

theorem DeliveryReach.retains {kind : String} {body : ByteArray} (h : b.DeliveryReach kind body s t) :
    s.Retains b.fieldIds.githubId t := by
  rcases h with rfl | ⟨e, repo, -, -, -, h⟩
  · exact fun r x hx => ⟨x, hx, (Ticket.SameBut.refl _ x).kept _⟩
  · exact h.retains

end Bridge

inductive Operation
  /-- A delivery is handled. -/
  | deliver (kind delivery : String) (body : ByteArray)
  /-- A delivery that was acknowledged is handled. -/
  | process (kind delivery : String) (body : ByteArray)
  | pass
  /-- The scheduler runs its job. -/
  | job
  /-- The pass before the first delivery. -/
  | presync

namespace Operation

def run (b : Bridge) : Operation → Step Unit
  | deliver kind delivery body => discard (b.dispatch kind delivery body)
  | process kind delivery body => b.process kind delivery body
  | pass => discard b.syncAll
  | job => Schedule.runJob b
  | presync => discard (Schedule.presync b)

/-- What an operation may change of a store. -/
def Reach (b : Bridge) (src : Source) : Operation → Store → Store → Prop
  | deliver kind _ body => b.DeliveryReach kind body
  | process kind _ body => b.DeliveryReach kind body
  | pass => b.PassReach src
  | job => b.PassReach src
  | presync => b.PassReach src

end Operation

namespace Bridge

variable {b : Bridge}

theorem Stepwise.job {F : Frame} (h : b.Stepwise F) : Keeps F (Schedule.runJob b) :=
  Keeps.get.bind fun _ => by
    split
    · refine (Keeps.say _ _).bind fun _ => h.syncAll.observe.bind fun o => ?_
      cases o <;> exact .say _ _
    · exact .pure _

theorem Stepwise.presync {F : Frame} (h : b.Stepwise F) : Keeps F (Schedule.presync b) :=
  (Keeps.say _ _).bind fun _ => h.syncAll.bind fun _ => (Keeps.say _ _).bind fun _ => .pure _

theorem passReach_job (b : Bridge) (w : World) :
    b.PassReach w.source w.store (after (Schedule.runJob b) w).store :=
  ((stepwise_passReach b).job w).2

theorem passReach_presync (b : Bridge) (w : World) :
    b.PassReach w.source w.store (after (Schedule.presync b) w).store :=
  ((stepwise_passReach b).presync w).2

theorem retains_of_reach {src : Source} {s t : Store} : ∀ {op : Operation},
    op.Reach b src s t → s.Retains b.fieldIds.githubId t
  | .deliver _ _ _, h => DeliveryReach.retains h
  | .process _ _ _, h => DeliveryReach.retains h
  | .pass, h => PassReach.retains h
  | .job, h => PassReach.retains h
  | .presync, h => PassReach.retains h

theorem reach_run (b : Bridge) (w : World) : ∀ op : Operation,
    op.Reach b w.source w.store (after (op.run b) w).store
  | .deliver kind delivery body => by
    unfold Operation.run
    rw [after_discard]
    exact reach_dispatch b kind delivery body w
  | .process kind delivery body => reach_process b kind delivery body w
  | .pass => by
    unfold Operation.run
    rw [after_discard]
    exact passReach_syncAll b w
  | .job => passReach_job b w
  | .presync => by
    unfold Operation.run
    rw [after_discard]
    exact passReach_presync b w

/-- Every operation stays inside its frame, whatever fails: no ticket is lost, none loses what is kept,
and what else is changed is within the reach of the operation. -/
theorem operation_reach (b : Bridge) (op : Operation) (w : World) :
    w.store.Retains b.fieldIds.githubId (after (op.run b) w).store ∧
      op.Reach b w.source w.store (after (op.run b) w).store :=
  ⟨retains_of_reach (reach_run b w op), reach_run b w op⟩

end Bridge

end IssueBridge
