import IssueBridge.Proofs.Bridge.Delivered
import IssueBridge.Proofs.Bridge.Mirror
import IssueBridge.Proofs.Bridge.Order

/-! # Two ways to a counterpart

The counterpart of an issue is created when the issue is opened, or by the first pass that lists it. A ticket
that an event created differs from one that a pass created and settled, but after the pass they agree in
all fields and in the bodies of their comments.
-/

namespace IssueBridge

open Step Tracker Correlation

namespace Projector

variable {p : Projector} {i j : GitHub.Issue} {repo : Repo} {d d' field : String}

/-- What is not mirrored of a new ticket depends on the id and the address of its issue only. -/
theorem get?_newFieldsOf_congr (hid : j.id = i.id) (hurl : j.url = i.url) (h : field ∉ mirrored) :
    (p.newFieldsOf j repo d').get? field = (p.newFieldsOf i repo d).get? field := by
  have hne : ∀ name ∈ mirrored, field ≠ name := fun name hn heq => h (heq ▸ hn)
  have hbase : (p.baseFields j repo d').get? field = (p.baseFields i repo d).get? field := by
    unfold baseFields
    rw [hid, Fields.get?_set, Fields.get?_set]
    split
    · rfl
    · simp only [Fields.get?_cons, if_neg (hne "summary" (by decide)), if_neg (hne "description" (by decide))]
  have hassigned : (withAssignee (p.baseFields j repo d') (p.mappedUser j.assigneeLogin)).get? field =
      (withAssignee (p.baseFields i repo d) (p.mappedUser i.assigneeLogin)).get? field := by
    rw [get?_withAssignee (hne "assignee" (by decide)), get?_withAssignee (hne "assignee" (by decide)), hbase]
  unfold newFieldsOf urlFields
  rw [hurl]
  split
  · split
    · exact hassigned
    · rw [Fields.get?_set, Fields.get?_set, hassigned]
  · exact hassigned

theorem get?_issueType_newFieldsOf :
    (p.newFieldsOf i repo d).get? "issuetype" = some (named repo.issueType) := by
  rw [get?_newFieldsOf (by decide) fun id _ => (customField_ne (by decide) id).symm]
  exact Fields.get?_set_of_ne (customField_ne (by decide) _).symm

end Projector

namespace Bridge

variable {b : Bridge} {v u : Scene} {name : String} {repo : Repo} {i j : GitHub.Issue} {d d' : String}
  {r r' : TicketRef} {x y y' : Ticket} {src : Source} {q : Query} {t t' : Store} {thread : ThreadId}
  {workflow : Table String}

section Bodies

/-- The bodies of comments that are written to an empty thread, up to one that cannot be rendered. -/
def bodies (b : Bridge) : List GitHub.Comment → List (Tracker.Part String)
  | [] => []
  | c :: rest =>
    match Logged.result (b.commentBody c) with
    | .ok body => .given body :: bodies b rest
    | .error _ => []

theorem map_body_written : ∀ (l : List GitHub.Comment) (v : Scene),
    ((b.written thread [] l v).store.thread thread).map (·.body) =
      (v.store.thread thread).map (·.body) ++ b.bodies l
  | [], v => (List.append_nil _).symm
  | c :: rest, v => by
    unfold written bodies
    cases Logged.result (b.commentBody c) with
    | error f => exact (List.append_nil _).symm
    | ok body =>
      refine (map_body_written rest (v.addComment thread body)).trans ?_
      rw [thread_addComment, List.map_append, List.append_assoc]
      rfl

def remarkBodies (b : Bridge) (src : Source) (name : String) (repo : Repo) (i : GitHub.Issue) :
    List (Tracker.Part String) :=
  if i.comments = 0 then [] else b.bodies (src.remarks repo.owner name i.number)

theorem map_body_commented (h : v.store.thread thread = []) :
    ((b.commented thread i name repo v).store.thread thread).map (·.body) =
      b.remarkBodies v.source name repo i := by
  have hopen : (v.openThread thread).store.thread thread = [] := (thread_openThread v thread).trans h
  have hexisting : (v.store.comments thread).1 = [] := by
    unfold Store.comments
    rw [h]
    rfl
  unfold commented remarkBodies
  dsimp only
  rw [hexisting]
  split
  · show ((v.openThread thread).store.thread thread).map _ = []
    rw [hopen]
    rfl
  · rw [map_body_written, hopen]
    rfl

end Bodies

section Poised

theorem steady_poised (b : Bridge) (src : Source) (q : Query) :
    b.Steady src fun v => v.source = src ∧ b.Poised q v.store ∧ v.store.Blank where
  numbered h := h.2.1.numbered
  ensure {name repo i v} _ _ h := by
    obtain ⟨hsource, hpoised, hblank⟩ := h
    unfold ensured
    split
    · rename_i d _ hd
      have hsame : (v.store.newTicket (b.newFieldsOf i repo d)).SameBut mirrored
          (settled v.store.workflow repo i (v.store.newTicket (b.newFieldsOf i repo d))) :=
        (sameBut_settled ..).mono (by simp [mirrored])
      have hcreated : b.Poised q (v.store.create (b.newFieldsOf i repo d)).2 := hpoised.create ⟨d, hd, .inl rfl⟩
      exact ⟨hsource, hcreated.put (Store.ticket?_create ..) hsame, (hblank.create _).put _ _⟩
    · exact ⟨hsource, hpoised, hblank⟩
  sync {name repo i v} _ _ h := by
    obtain ⟨hsource, hpoised, hblank⟩ := h
    have halters := alters_synced b name repo i v
    refine ⟨(durable_source src).synced hsource, hpoised.of_alters halters (List.Subset.refl _), ?_⟩
    refine hblank.of_alters hpoised.numbered halters ?_
    rintro id ⟨r, x, -, hx, hid⟩
    exact ⟨r, x, hx, hid⟩

end Poised

section Arriving

/-- The ticket is the only counterpart of the issue, which is listed for the first time: it was new, and has become
what a pass makes of a new ticket. -/
structure Arrives (b : Bridge) (workflow : Table String) (src : Source) (name : String) (repo : Repo)
    (i : GitHub.Issue) (d : String) (t : Store) (r : TicketRef) (y : Ticket) : Prop where
  sole : t.search (query b.fieldIds repo.project i.id) = [r]
  ticket : t.ticket? r = some y
  origin : ∃ (s : Store) (j : GitHub.Issue) (d' : String), j.id = i.id ∧ j.url = i.url ∧
    Starts workflow repo i (s.newTicket (b.newFieldsOf j repo d')) y
  mirrors : b.Mirrors workflow repo i d y
  bodies : (t.thread y.id.get?).map (·.body) = b.remarkBodies src name repo i

/-- A new ticket that was not settled becomes what it would have become otherwise, if the labels ask for no more
than one type. -/
theorem starts_refreshed_new (htypes : ∀ t ∈ typesOf repo i, ∀ t' ∈ typesOf repo i, t = t')
    (htype : x.fieldsGiven.get? "issuetype" = some (named repo.issueType))
    (hstatus : x.fieldsGiven.get? "status" = some (Store.status "To Do")) :
    Starts workflow repo i x (b.refreshed workflow repo i d x) := by
  have hfollows := follows_refreshed b workflow repo i d x
  constructor
  case same => exact hfollows.same
  case newType =>
    by_cases hany : (typesOf repo i).any x.issueType.isText
    · -- The default is one of the types that the labels ask for, and thus the only one.
      rw [hfollows.keptType hany, htype]
      rw [issueType_of_get? htype] at hany
      obtain ⟨type, hmem, heq⟩ := List.any_eq_true.mp hany
      have hdefault : repo.issueType = type := by simpa [Value.isText] using heq
      cases hl : typesOf repo i with
      | nil => rfl
      | cons first rest =>
        have hfirst := htypes first (hl ▸ List.mem_cons_self) type hmem
        rw [List.headD_cons, hfirst, hdefault]
    · exact hfollows.newType hany
  case status =>
    rw [hfollows.status, Ticket.statusCategory_of_get? hstatus, hstatus]
    by_cases hclosed : i.state = "closed"
    · cases harrival : arrival? workflow (steps repo done) <;>
        simp [wantedTransition, hclosed, Value.isText, harrival]
    · simp [wantedTransition, hclosed, Value.isText]

theorem Arrives.agree (h : b.Arrives workflow src name repo i d t r y)
    (h' : b.Arrives workflow src name repo i d t' r' y') :
    (∀ field, y'.fieldsGiven.get? field = y.fieldsGiven.get? field) ∧ y'.rest = y.rest ∧
      (t'.thread y'.id.get?).map (·.body) = (t.thread y.id.get?).map (·.body) := by
  obtain ⟨s, j, dj, hjid, hjurl, hstarts⟩ := h.origin
  obtain ⟨s', j', dj', hjid', hjurl', hstarts'⟩ := h'.origin
  have hrest : y'.rest = y.rest := by
    rw [hstarts'.same.rest, hstarts.same.rest]
    rfl
  refine ⟨fun field => ?_, hrest, h'.bodies.trans h.bodies.symm⟩
  by_cases hm : field ∈ mirrored
  · simp only [mirrored, List.mem_cons, List.not_mem_nil, or_false] at hm
    rcases hm with rfl | rfl | rfl | rfl | rfl | rfl
    · exact h'.mirrors.summary.trans h.mirrors.summary.symm
    · exact h'.mirrors.description.trans h.mirrors.description.symm
    · exact h'.mirrors.assignee.trans h.mirrors.assignee.symm
    · exact hstarts'.status.trans hstarts.status.symm
    · exact hstarts'.newType.trans hstarts.newType.symm
    · exact h'.mirrors.components.trans h.mirrors.components.symm
  · have hstatus : field ≠ "status" := fun heq => hm (heq ▸ by decide)
    rw [hstarts'.same.field _ hm, hstarts.same.field _ hm, Store.get?_newTicket hstatus,
      Store.get?_newTicket hstatus]
    exact Projector.get?_newFieldsOf_congr (hjid'.trans hjid.symm) (hjurl'.trans hjurl.symm) hm

/-- The only counterpart of an issue is brought up to date, and nothing else is done to it. -/
theorem refreshed_spared (hb : b.Seeks repo) (hdesc : Logged.result (b.description i) = .ok d)
    (h : u.store.Spares (query b.fieldIds repo.project i.id) v.store)
    (h' : (b.synced name repo i v).store.Spares (query b.fieldIds repo.project i.id) t)
    (hs : u.store.search (query b.fieldIds repo.project i.id) = [r]) (hx : u.store.ticket? r = some x)
    (hblank : u.store.thread x.id.get? = []) :
    t.search (query b.fieldIds repo.project i.id) = [r] ∧
      t.ticket? r = some (b.refreshed u.store.workflow repo i d x) ∧
      (t.thread (b.refreshed u.store.workflow repo i d x).id.get?).map (·.body) =
        b.remarkBodies v.source name repo i := by
  have hr : r ∈ u.store.search (query b.fieldIds repo.project i.id) := hs ▸ List.mem_singleton_self r
  have hx' : v.store.ticket? r = some x := (h.ticket r hr).trans hx
  have hs' := h.search.trans hs
  obtain ⟨hsynced, hy⟩ := refreshed_synced name hb hdesc hs' hx'
  have hr' := hsynced ▸ List.mem_singleton_self r
  have hid := (follows_refreshed b v.store.workflow repo i d x).same.id
  have hthread := h'.thread r hr' _ hy
  have hbefore : v.store.thread x.id.get? = [] := (h.thread r hr x hx).trans hblank
  rw [h.workflow] at hy hid hthread
  refine ⟨h'.search.trans hsynced, (h'.ticket r hr').trans hy, ?_⟩
  rw [hthread, hid, synced_eq ((hb.finds_eq _ _).trans hs'), broughtUp_eq hx' hdesc]
  exact map_body_commented (v := v.put r _) hbefore

end Arriving

section Passing

variable {w : World} (hb : b.Seeks repo) (hr : (name, repo) ∈ b.settings.repos)
  (hi : i ∈ w.source.listing repo.owner name) (hd : (b.listedIds w.source).count i.id ≤ 1)
  (hdesc : Logged.result (b.description i) = .ok d) (hw : w.Calm) (hran : b.Ran w)

include hb hr hi hd hdesc hw hran

/-- A pass creates the counterpart of an issue that has none, and brings it up to date. -/
theorem arrives_alone (hn : w.store.Numbered) (hblank : w.store.Blank)
    (hnone : w.store.search (query b.fieldIds repo.project i.id) = []) :
    ∃ r y, b.Arrives w.store.workflow w.source name repo i d (after b.syncAll w).store r y := by
  have hpoised : b.Poised (query b.fieldIds repo.project i.id) w.store := ⟨hn, .of_nil hnone⟩
  obtain ⟨u, u', ⟨-, -, hu⟩, ⟨hsource, -⟩, hbefore, hbetween, hafter⟩ :=
    (steady_poised b w.source _).around (v := w.scene) (fun h => h.2.1.exclusive) hd hr hi
      ⟨rfl, hpoised, hblank⟩
  have hs : u.store.search (query b.fieldIds repo.project i.id) = [] := hbefore.search.trans hnone
  have hworkflow : u.store.workflow = w.store.workflow := hbefore.workflow
  rw [ensured_of_nil ((hb.finds_eq u.store i.id).trans hs) hdesc] at hbetween
  have hsole : (b.created repo i d u).store.search (query b.fieldIds repo.project i.id) =
      [u.store.tickets.length] := by
    rw [carriers_created hb.url hdesc, hs, if_pos ⟨rfl, rfl⟩, List.nil_append]
  have hid : (settled u.store.workflow repo i (u.store.newTicket (b.newFieldsOf i repo d))).id =
      .given (toString (10001 + u.store.tickets.length)) := (sameBut_settled ..).id
  obtain ⟨hsearch, hticket, hbodies⟩ := refreshed_spared hb hdesc hbetween hafter hsole
    (ticket?_created b repo i d u) (by rw [hid]; exact hu _ (Nat.le_refl _))
  have hcreated : (b.created repo i d u).store.workflow = w.store.workflow := hworkflow
  rw [hcreated, hworkflow] at hticket hbodies
  rw [hsource] at hbodies
  rw [(shows_of_ran hw hn.keyed hran).store]
  refine ⟨_, _, hsearch, hticket, ⟨u.store, i, d, rfl, rfl, ?_⟩, mirrors_refreshed .., hbodies⟩
  exact starts_refreshed _ _ _ _ _ (Store.get?_status_newTicket u.store _)

theorem arrives_next (htypes : ∀ t ∈ typesOf repo i, ∀ t' ∈ typesOf repo i, t = t') {s : Store}
    (hn : s.Numbered) (hblank : s.Blank)
    (hnone : s.search (query b.fieldIds repo.project i.id) = []) (hjid : j.id = i.id) (hjurl : j.url = i.url)
    (hdesc' : Logged.result (b.description j) = .ok d')
    (hs : w.store = (s.create (b.newFieldsOf j repo d')).2) :
    ∃ r y, b.Arrives s.workflow w.source name repo i d (after b.syncAll w).store r y := by
  have hdraft : b.Drafts j repo (b.newFieldsOf j repo d') := ⟨d', hdesc', .inl rfl⟩
  have hpoised : b.Poised (query b.fieldIds repo.project i.id) w.store :=
    hs ▸ Poised.create ⟨hn, .of_nil hnone⟩ hdraft
  have hsole : w.store.search (query b.fieldIds repo.project i.id) = [s.tickets.length] := by
    rw [hs, Store.search_create, hnone, if_pos ((hdraft.answers_iff hb.url s _ _).mpr ⟨rfl, hjid⟩)]
    rfl
  have hx : w.store.ticket? s.tickets.length = some (s.newTicket (b.newFieldsOf j repo d')) :=
    hs ▸ Store.ticket?_create ..
  have hmem : s.tickets.length ∈ w.store.search (query b.fieldIds repo.project i.id) :=
    hsole ▸ List.mem_singleton_self _
  have hworkflow : w.store.workflow = s.workflow := by
    rw [hs]
    rfl
  have hblank' : w.store.Blank := hs ▸ hblank.create _
  obtain ⟨u, u', -, ⟨hsource, -⟩, hbefore, hbetween, hafter⟩ :=
    (steady_poised b w.source _).around (v := w.scene) (fun h => h.2.1.exclusive) hd hr hi
      ⟨rfl, hpoised, hblank'⟩
  have hfound : u.store.search (query b.fieldIds repo.project i.id) = [s.tickets.length] :=
    hbefore.search.trans hsole
  rw [ensured_of_ne_nil (by rw [hb.finds_eq u.store i.id, hfound]; exact List.cons_ne_nil _ _)] at hbetween
  have hthread : u.store.thread (s.newTicket (b.newFieldsOf j repo d')).id.get? = [] := by
    have hthread : u.store.thread (s.newTicket (b.newFieldsOf j repo d')).id.get? =
        w.store.thread _ := hbefore.thread _ hmem _ hx
    rw [hthread, hs]
    exact hblank _ (Nat.le_refl _)
  obtain ⟨hsearch, hticket, hbodies⟩ := refreshed_spared hb hdesc hbetween hafter hfound
    ((hbefore.ticket _ hmem).trans hx) hthread
  rw [hbefore.workflow.trans hworkflow] at hticket hbodies
  rw [hsource] at hbodies
  rw [(shows_of_ran hw hpoised.numbered.keyed hran).store]
  refine ⟨_, _, hsearch, hticket, ⟨s, j, d', hjid, hjurl, ?_⟩, mirrors_refreshed .., hbodies⟩
  refine starts_refreshed_new htypes ?_ (Store.get?_status_newTicket s _)
  exact (Store.get?_newTicket (by decide)).trans Projector.get?_issueType_newFieldsOf

end Passing

section Opening

variable {op : Operation} {e : GitHub.IssueEvent} {w₀ w w' : World}

theorem leaves_opened (hr : b.settings.repos.lookup e.repository.name = some repo)
    (hevent : op.event? = some (.issue e)) (haction : IssueAction.named? e.action = some .opened)
    (hissue : e.issue.isPullRequest = false) (hdesc : Logged.result (b.description e.issue) = .ok d) :
    Leaves v (op.run b) (v.create (b.newFieldsOf e.issue repo d)) := by
  have hdoes : Does v (b.handleIssue .opened e repo) _ (v.create (b.newFieldsOf e.issue repo d)) :=
    (does_opened v repo hdesc).map _
  exact leaves_run hevent ((Accepts.of_issue hissue haction hr).leaves_handle hdoes.discard.leaves)

/-- It does not matter whether the counterpart of an issue is created by an event or by a pass. An issue that
no ticket carries is listed, and its labels ask for one type at most. If it is opened with the same id and
address, and a pass follows, the issue has one counterpart, which has the same fields and the same bodies
of comments as if there had been the pass alone. -/
theorem opened_converges (hb : b.Seeks repo) (hr : b.settings.repos.lookup name = some repo)
    (hi : i ∈ w.source.listing repo.owner name) (hd : (b.listedIds w.source).count i.id ≤ 1)
    (htypes : ∀ t ∈ typesOf repo i, ∀ t' ∈ typesOf repo i, t = t')
    (hdesc : Logged.result (b.description i) = .ok d)
    (hn : w₀.store.Numbered) (hblank : w₀.store.Blank)
    (hnone : w₀.store.search (query b.fieldIds repo.project i.id) = [])
    (hevent : op.event? = some (.issue e)) (haction : IssueAction.named? e.action = some .opened)
    (hname : e.repository.name = name) (hid : e.issue.id = i.id) (hurl : e.issue.url = i.url)
    (hdesc' : Logged.result (b.description e.issue) = .ok d')
    (hw₀ : w₀.Calm) (hw : w.Calm) (hw' : w'.Calm) (hstore : w.store = w₀.store)
    (hstore' : w'.store = (after (op.run b) w₀).store) (hsource : w'.source = w.source)
    (hran : b.Ran w) (hran' : b.Ran w') :
    ∃ r y r' y', (after b.syncAll w).store.search (query b.fieldIds repo.project i.id) = [r] ∧
      (after b.syncAll w).store.ticket? r = some y ∧
      (after b.syncAll w').store.search (query b.fieldIds repo.project i.id) = [r'] ∧
      (after b.syncAll w').store.ticket? r' = some y' ∧
      (∀ field, y'.fieldsGiven.get? field = y.fieldsGiven.get? field) ∧ y'.rest = y.rest ∧
      ((after b.syncAll w').store.thread y'.id.get?).map (·.body) =
        ((after b.syncAll w).store.thread y.id.get?).map (·.body) := by
  have hrepos := mem_repos_of_lookup hr
  have hshows : w₀.Shows w₀.scene := ⟨hw₀, rfl⟩
  rw [← hstore] at hn hblank hnone
  obtain ⟨r, y, h⟩ := arrives_alone hb hrepos hi hd hdesc hw hran hn hblank hnone
  rw [← hsource] at hi hd h
  have hopened : ∃ r y, b.Arrives w.store.workflow w'.source name repo i d (after b.syncAll w').store r y := by
    cases hissue : e.issue.isPullRequest with
    | true =>
      -- An event about a pull request is passed over, so that the pass finds no counterpart either.
      have hleaves : Leaves w₀.scene (op.run b) w₀.scene := leaves_run hevent fun delivery =>
        (does_handle_of_pullRequest (e := .issue e) w₀.scene b hissue delivery).leaves
      have hsame : w'.store = w.store := (hstore'.trans (hleaves w₀ hshows).store).trans hstore.symm
      rw [← hsame] at hn hblank hnone ⊢
      exact arrives_alone hb hrepos hi hd hdesc hw' hran' hn hblank hnone
    | false =>
      have hleaves := leaves_opened (v := w₀.scene) (hname ▸ hr) hevent haction hissue hdesc'
      have hcreated : w'.store = (w.store.create (b.newFieldsOf e.issue repo d')).2 := by
        rw [hstore', (hleaves w₀ hshows).store, hstore]
        rfl
      exact arrives_next hb hrepos hi hd hdesc hw' hran' htypes hn hblank hnone hid hurl hdesc' hcreated
  obtain ⟨r', y', h'⟩ := hopened
  exact ⟨r, y, r', y', h.sole, h.ticket, h'.sole, h'.ticket, h.agree h'⟩

def closedWorld : World := { smallWorld with
  source :=
    { issues := [("acme/app", [
        .obj [("id", .int 7), ("number", .int 1), ("title", .str "New"), ("state", .str "closed"),
          ("comments", .int 1)]])]
      comments := [("acme/app#1", [.obj [("id", .int 5), ("body", .str "Hello")]])] } }

def oldOpened : Operation := .deliver "issues" "a"
  ("\x7b\"action\":\"opened\",\"issue\":\x7b\"id\":7,\"number\":1,\"title\":\"Old\"\x7d," ++
    "\"repository\":\x7b\"name\":\"app\"\x7d\x7d").toUTF8

def openedWorld : World := { closedWorld with store := (after (oldOpened.run small) closedWorld).store }

theorem event?_oldOpened : oldOpened.event? = some (.issue
    { action := "opened", issue := { id := 7, number := 1, title := "Old" }, repository := { name := "app" } }) := by
  with_unfolding_all rfl

theorem opened_converges_small : ∃ r y r' y',
    (after small.syncAll closedWorld).store.search (query small.fieldIds "AB" 7) = [r] ∧
      (after small.syncAll closedWorld).store.ticket? r = some y ∧
      (after small.syncAll openedWorld).store.search (query small.fieldIds "AB" 7) = [r'] ∧
      (after small.syncAll openedWorld).store.ticket? r' = some y' ∧
      (∀ field, y'.fieldsGiven.get? field = y.fieldsGiven.get? field) ∧ y'.rest = y.rest ∧
      ((after small.syncAll openedWorld).store.thread y'.id.get?).map (·.body) =
        ((after small.syncAll closedWorld).store.thread y.id.get?).map (·.body) := by
  have hlisted : ∃ i ∈ closedWorld.source.listing "acme" "app", i.id = 7 ∧ i.url = "" ∧
      typesOf { owner := "acme", project := "AB", issueType := "Task" } i = [] ∧
      (small.listedIds closedWorld.source).count i.id ≤ 1 ∧
      (Logged.result (small.description i)).toOption.isSome := by
    decide +kernel
  obtain ⟨i, hi, hid, hurl, htypes, hd, hsome⟩ := hlisted
  obtain ⟨d, hdesc⟩ := Option.isSome_iff_exists.mp hsome
  have hopened : (Logged.result (small.description { id := 7, number := 1, title := "Old" })).toOption.isSome := by
    decide +kernel
  obtain ⟨d', hdesc'⟩ := Option.isSome_iff_exists.mp hopened
  have hn : closedWorld.store.Numbered := ⟨nofun, List.nodup_nil, nofun⟩
  have hran : small.Ran closedWorld := ran_of_toOption (by decide +kernel)
  have hran' : small.Ran openedWorld := ran_of_toOption (by decide +kernel)
  have hseeks : small.Seeks { owner := "acme", project := "AB", issueType := "Task" } :=
    ⟨by decide, by decide, by decide⟩
  have hrepo : small.settings.repos.lookup "app" = some { owner := "acme", project := "AB", issueType := "Task" } := rfl
  have hcalm : closedWorld.Calm := fun _ _ _ => rfl
  have hcalm' : openedWorld.Calm := fun _ _ _ => rfl
  have hstore' : openedWorld.store = (after (oldOpened.run small) closedWorld).store := rfl
  have hend := opened_converges hseeks hrepo hi hd (by rw [htypes]; exact nofun) (eq_ok_of_toOption hdesc) hn
    (fun _ _ => rfl) rfl event?_oldOpened rfl rfl hid.symm hurl.symm (eq_ok_of_toOption hdesc') hcalm hcalm hcalm'
    rfl hstore' rfl hran hran'
  rw [hid] at hend
  exact hend

end Opening

end Bridge

end IssueBridge
