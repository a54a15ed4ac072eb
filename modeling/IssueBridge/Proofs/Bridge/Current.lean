import IssueBridge.Proofs.Bridge.Carrier
import IssueBridge.Proofs.Bridge.Delivered
import IssueBridge.Proofs.Bridge.Handled

/-! # A ticket that is kept current

Events about an issue, from its opening on and in between others, keep its ticket current: the ticket is found
again by each of them, it has the texts that were told last, and its status is where the closings and
reopenings led it.
-/

namespace IssueBridge

open Step Tracker Correlation

/-- What the event tells of the issue with the id in the repository, if it is acted upon. -/
def Event.news? (name : String) (id : Int) : Event → Option (IssueAction × GitHub.IssueEvent)
  | .issue e =>
    if e.repository.name = name ∧ e.issue.id = id ∧ e.issue.isPullRequest = false then
      (IssueAction.named? e.action).map fun a => (a, e)
    else none
  | .comment _ => none

structure Delivery where
  kind : String
  name : String
  body : ByteArray

namespace Delivery

def event? (d : Delivery) : Option Event := (Event.read? d.kind d.body).bind (·.toOption)

def news? (name : String) (id : Int) (d : Delivery) : Option (IssueAction × GitHub.IssueEvent) :=
  d.event?.bind (Event.news? name id)

/-- The delivery tells news of the issue, or it is not about this issue. -/
def Regards (name : String) (id : Int) (d : Delivery) : Prop :=
  (∃ n, d.news? name id = some n) ∨ ∀ e, d.event? = some e → e.subject.id ≠ id

end Delivery

def news (name : String) (id : Int) (run : List (Delivery × Except Failure Bool)) :
    List (IssueAction × GitHub.IssueEvent) :=
  run.filterMap (·.1.news? name id)

section

variable {name : String} {id : Int} {d : Delivery} (o : Except Failure Bool)
  (run : List (Delivery × Except Failure Bool))

theorem news_cons_some {n : IssueAction × GitHub.IssueEvent} (h : d.news? name id = some n) :
    news name id ((d, o) :: run) = n :: news name id run :=
  List.filterMap_cons_some h

theorem news_cons_none (h : d.news? name id = none) :
    news name id ((d, o) :: run) = news name id run :=
  List.filterMap_cons_none h

end

def lastEdited (i : GitHub.Issue) (news : List (IssueAction × GitHub.IssueEvent)) : GitHub.Issue :=
  ((news.filter (·.1 = .edited)).map (·.2.issue)).getLastD i

theorem lastEdited_cons (i : GitHub.Issue) (n : IssueAction × GitHub.IssueEvent)
    (news : List (IssueAction × GitHub.IssueEvent)) :
    lastEdited i (n :: news) = lastEdited (if n.1 = .edited then n.2.issue else i) news := by
  unfold lastEdited
  by_cases h : n.1 = .edited
  · rw [List.filter_cons_of_pos (by simpa using h), List.map_cons, List.getLastD_cons, if_pos h]
  · rw [List.filter_cons_of_neg (by simpa using h), if_neg h]

namespace Tracker

/-- The category after some steps, one after the other; a step that is not known leads nowhere. -/
def led (workflow : Table String) (category : String) (steps : List String) : String :=
  steps.foldl (fun category step => (workflow.lookup step).getD category) category

theorem led_eq (workflow : Table String) (steps : List String) (category : String) :
    led workflow category steps = (arrival? workflow steps).getD category := by
  unfold led
  induction steps generalizing category with
  | nil => rfl
  | cons step steps ih =>
    rw [List.foldl_cons, ih, arrival?_cons]
    cases arrival? workflow steps <;> rfl

end Tracker

namespace Bridge

variable {b : Bridge} {name : String} {repo : Repo} {id : Int} {i : GitHub.Issue} {category d : String}
  {s t : Store} {r : TicketRef} {x y : Ticket} {a : IssueAction} {e : GitHub.IssueEvent} {v v' : Scene}
  {workflow : Table String} {q : Query} {delivery : Delivery} {w : World}
  {run : List (Delivery × Except Failure Bool)}

/-- The category of a ticket after an event: closings and reopenings take the steps of their transition. -/
def categoryAfter (workflow : Table String) (repo : Repo) (category : String) (a : IssueAction) : String :=
  led workflow category ((a.transition?.map (steps repo)).getD [])

theorem text_notMem_fields (ha : a ≠ .edited) : ∀ field ∈ textNames, field ∉ a.fields := by
  cases a with
  | edited => exact absurd rfl ha
  | _ => decide

section Telling

/-- One ticket carries the id. It has the texts of the issue, and its status is in the category. -/
structure Current (b : Bridge) (repo : Repo) (id : Int) (i : GitHub.Issue) (category : String) (s : Store)
    (r : TicketRef) (x : Ticket) : Prop where
  sole : s.search (query b.fieldIds repo.project id) = [r]
  ticket : s.ticket? r = some x
  summary : x.fieldsGiven.get? "summary" = some (.str i.title)
  description : ∃ d, Logged.result (b.description i) = .ok d ∧
    x.fieldsGiven.get? "description" = some (.str d)
  status : x.fieldsGiven.get? "status" = some (Store.status category)

namespace Current

theorem of_yields (h : b.Current repo id i category s r x)
    (hst : s.Yields (query b.fieldIds repo.project id) t) : b.Current repo id i category t r x where
  sole := hst.search.trans h.sole
  ticket := (hst.ticket r (h.sole ▸ List.mem_singleton_self r)).trans h.ticket
  summary := h.summary
  description := h.description
  status := h.status

theorem opened (hb : b.Seeks repo) (hnone : s.search (query b.fieldIds repo.project i.id) = [])
    (hd : Logged.result (b.description i) = .ok d) :
    b.Current repo i.id i "To Do" (s.create (b.newFieldsOf i repo d)).2 s.tickets.length
      (s.newTicket (b.newFieldsOf i repo d)) where
  sole := by
    have hdraft : b.Drafts i repo (b.newFieldsOf i repo d) := ⟨d, hd, .inl rfl⟩
    rw [Store.search_create, hnone, if_pos ((hdraft.answers_iff hb.url s _ _).mpr ⟨rfl, rfl⟩), List.nil_append]
  ticket := Store.ticket?_create ..
  summary := (Store.get?_newTicket (by decide)).trans Projector.get?_summary_newFieldsOf
  description := ⟨d, hd, (Store.get?_newTicket (by decide)).trans Projector.get?_description_newFieldsOf⟩
  status := Store.get?_status_newTicket ..

theorem becomes (h : b.Current repo id i category s r x) (hxy : b.Becomes workflow repo a e.issue x y) :
    b.Current repo id (if a = .edited then e.issue else i) (categoryAfter workflow repo category a)
      (s.put r y) r y where
  sole := (Store.search_put h.ticket (hxy.same.mono (fields_subset_mirrored a)) _).trans h.sole
  ticket := Store.ticket?_put_self h.ticket y
  summary := by
    split
    · rename_i ha
      exact (hxy.text ha).1
    · rename_i ha
      exact (hxy.same.field _ (text_notMem_fields ha _ List.mem_cons_self)).trans h.summary
  description := by
    split
    · rename_i ha
      exact (hxy.text ha).2
    · rename_i ha
      obtain ⟨d, hd, hx⟩ := h.description
      exact ⟨d, hd, (hxy.same.field _ (text_notMem_fields ha _ (.tail _ List.mem_cons_self))).trans hx⟩
  status := by
    rw [hxy.status, h.status, categoryAfter]
    cases a.transition? with
    | none => rfl
    | some name =>
      show ((arrival? workflow (steps repo name)).map Store.status).or _ = some (Store.status (led _ _ _))
      rw [Option.map_some, Option.getD_some, led_eq]
      cases arrival? workflow (steps repo name) <;> rfl

end Current

end Telling

section Dispatching

/-- Deliveries are dispatched one after the other, in worlds with the property `P`, each with its result. -/
inductive Dispatches (b : Bridge) (P : World → Prop) :
    List (Delivery × Except Failure Bool) → Store → Store → Prop
  | nil (s : Store) : Dispatches b P [] s s
  | cons {d : Delivery} {run : List (Delivery × Except Failure Bool)} {t : Store} (w : World) (hw : P w)
      (h : Dispatches b P run (after (b.dispatch d.kind d.name d.body) w).store t) :
      Dispatches b P ((d, outcome (b.dispatch d.kind d.name d.body) w) :: run) w.store t

theorem Delivery.of_news? (h : delivery.news? name id = some (a, e)) :
    delivery.event? = some (.issue e) ∧ e.repository.name = name ∧ e.issue.id = id ∧
      e.issue.isPullRequest = false ∧ IssueAction.named? e.action = some a := by
  obtain ⟨e', hevent, hnews⟩ := Option.bind_eq_some_iff.mp h
  cases e' with
  | comment e' => cases hnews
  | issue e' =>
    obtain ⟨⟨hname, hid, hissue⟩, hnews⟩ := Option.ite_none_right_eq_some.mp hnews
    obtain ⟨a', ha, heq⟩ := Option.map_eq_some_iff.mp hnews
    cases heq
    exact ⟨hevent, hname, hid, hissue, ha⟩

theorem Delivery.news?_of_other (name : String) (h : ∀ e, delivery.event? = some e → e.subject.id ≠ id) :
    delivery.news? name id = none := by
  refine Option.eq_none_iff_forall_ne_some.mpr fun n hn => ?_
  obtain ⟨hevent, -, hid, -⟩ := of_news? hn
  exact h _ hevent hid

theorem does_news {touched : Touched} (hr : b.settings.repos.lookup name = some repo)
    (h : delivery.news? name id = some (a, e)) (hv : Does v (b.handleIssue a e repo) (.ok touched) v') :
    Does v (b.dispatch delivery.kind delivery.name delivery.body) (.ok true) v' := by
  obtain ⟨hevent, rfl, -, hissue, ha⟩ := Delivery.of_news? h
  rw [dispatch_eq (read?_eq_ok hevent)]
  exact (Accepts.of_issue hissue ha hr).does_handle hv.discard _

theorem dispatch_aside (hother : ∀ e, delivery.event? = some e → e.subject.id ≠ q.id) (hw : b.Poised q w.store) :
    b.Poised q (after (b.dispatch delivery.kind delivery.name delivery.body) w).store ∧
      w.store.Yields q (after (b.dispatch delivery.kind delivery.name delivery.body) w).store :=
  keeps_dispatch (handles_aside fun e he => hother e (event?_of_read? he)) delivery.name w hw

structure Awaited (b : Bridge) (repo : Repo) (id : Int) (workflow : Table String) (s : Store) : Prop where
  numbered : s.Numbered
  none : s.search (query b.fieldIds repo.project id) = []
  workflow : s.workflow = workflow

/-- The ticket is current, and it will be found again. -/
structure Followed (b : Bridge) (repo : Repo) (id : Int) (workflow : Table String) (i : GitHub.Issue)
    (category : String) (s : Store) (r : TicketRef) : Prop where
  poised : b.Poised (query b.fieldIds repo.project id) s
  current : ∃ x, b.Current repo id i category s r x
  workflow : s.workflow = workflow

theorem Awaited.aside (h : b.Awaited repo id workflow w.store)
    (hother : ∀ e, delivery.event? = some e → e.subject.id ≠ id) :
    b.Awaited repo id workflow (after (b.dispatch delivery.kind delivery.name delivery.body) w).store := by
  obtain ⟨hpoised, hyields⟩ := dispatch_aside (q := query b.fieldIds repo.project id) hother
    ⟨h.numbered, .of_nil h.none⟩
  exact ⟨hpoised.numbered, hyields.search.trans h.none, hyields.workflow.trans h.workflow⟩

theorem Followed.aside (h : b.Followed repo id workflow i category w.store r)
    (hother : ∀ e, delivery.event? = some e → e.subject.id ≠ id) :
    b.Followed repo id workflow i category
      (after (b.dispatch delivery.kind delivery.name delivery.body) w).store r := by
  obtain ⟨hpoised, hyields⟩ := dispatch_aside (q := query b.fieldIds repo.project id) hother h.poised
  obtain ⟨x, hx⟩ := h.current
  exact ⟨hpoised, ⟨x, hx.of_yields hyields⟩, hyields.workflow.trans h.workflow⟩

/-- The opening makes a ticket that is followed from then on. -/
theorem Awaited.opened (h : b.Awaited repo id workflow w.store) (hb : b.Seeks repo)
    (hr : b.settings.repos.lookup name = some repo) (hw : w.Calm)
    (hnews : delivery.news? name id = some (.opened, e))
    (hd : Logged.result (b.description e.issue) = .ok d) :
    outcome (b.dispatch delivery.kind delivery.name delivery.body) w = .ok true ∧
      ∃ r, b.Followed repo id workflow e.issue "To Do"
        (after (b.dispatch delivery.kind delivery.name delivery.body) w).store r := by
  obtain ⟨-, -, rfl, -⟩ := Delivery.of_news? hnews
  have hopened : Does w.scene (b.handleIssue .opened e repo) _ (w.scene.create (b.newFieldsOf e.issue repo d)) :=
    (does_opened w.scene repo hd).map _
  obtain ⟨ho, hv⟩ := does_news hr hnews hopened w ⟨hw, rfl⟩
  have hpoised : b.Poised (query b.fieldIds repo.project e.issue.id) w.store := ⟨h.numbered, .of_nil h.none⟩
  refine ⟨ho, w.store.tickets.length, ?_⟩
  rw [hv.store]
  exact ⟨hpoised.create ⟨d, hd, .inl rfl⟩, ⟨_, .opened hb h.none hd⟩, h.workflow⟩

/-- Any other news are handled, and the ticket goes on to be followed. -/
theorem Followed.told (h : b.Followed repo id workflow i category w.store r) (hb : b.Seeks repo)
    (hr : b.settings.repos.lookup name = some repo) (hw : w.Calm)
    (hnews : delivery.news? name id = some (a, e)) (ha : a ≠ .opened)
    (hd : a = .edited → ∃ d, Logged.result (b.description e.issue) = .ok d) :
    outcome (b.dispatch delivery.kind delivery.name delivery.body) w = .ok true ∧
      b.Followed repo id workflow (if a = .edited then e.issue else i) (categoryAfter workflow repo category a)
        (after (b.dispatch delivery.kind delivery.name delivery.body) w).store r := by
  obtain ⟨-, -, rfl, -⟩ := Delivery.of_news? hnews
  obtain ⟨x, hx⟩ := h.current
  obtain ⟨⟨k, hk⟩, -⟩ := h.poised.numbered.keyed x (Store.mem_of_ticket? hx.ticket)
  obtain ⟨touched, y, hdoes, hxy⟩ := does_handleIssue (v := w.scene) ha
    ((hb.finds_eq w.store e.issue.id).trans hx.sole) hx.ticket hk hd
  obtain ⟨ho, hv⟩ := does_news hr hnews hdoes w ⟨hw, rfl⟩
  have hworkflow : w.scene.store.workflow = workflow := h.workflow
  rw [hworkflow] at hxy
  refine ⟨ho, ?_⟩
  rw [hv.store]
  exact ⟨h.poised.put hx.ticket (hxy.same.mono (fields_subset_mirrored a)), ⟨y, hx.becomes hxy⟩, h.workflow⟩

end Dispatching

section Running

variable (hb : b.Seeks repo) (hr : b.settings.repos.lookup name = some repo)

include hb hr

/-- Deliveries after the opening keep the ticket current. -/
theorem Dispatches.followed (hrun : b.Dispatches World.Calm run s t) :
    ∀ {i : GitHub.Issue} {category : String}, (∀ p ∈ run, p.1.Regards name id) →
      (∀ n ∈ news name id run, n.1 ≠ .opened ∧
        (n.1 = .edited → ∃ d, Logged.result (b.description n.2.issue) = .ok d)) →
      b.Followed repo id workflow i category s r →
      b.Followed repo id workflow (lastEdited i (news name id run))
        ((news name id run).foldl (fun category n => categoryAfter workflow repo category n.1) category) t r ∧
        ∀ p ∈ run, (p.1.news? name id).isSome → p.2 = .ok true := by
  induction hrun with
  | nil s => exact fun _ _ h => ⟨h, fun _ hp => by cases hp⟩
  | @cons delivery run t w hw hrun ih =>
    intro i category hregards hnews h
    have hrest : ∀ p ∈ run, p.1.Regards name id := fun p hp => hregards p (List.mem_cons_of_mem _ hp)
    rcases hregards _ List.mem_cons_self with ⟨⟨a, e⟩, hfirst⟩ | hother
    · rw [news_cons_some _ _ hfirst] at hnews ⊢
      obtain ⟨ha, hd⟩ := hnews _ List.mem_cons_self
      obtain ⟨ho, htold⟩ := h.told hb hr hw hfirst ha hd
      obtain ⟨hfollowed, htrue⟩ := ih hrest (fun n hn => hnews n (List.mem_cons_of_mem _ hn)) htold
      rw [lastEdited_cons, List.foldl_cons]
      exact ⟨hfollowed, List.forall_mem_cons.mpr ⟨fun _ => ho, htrue⟩⟩
    · have hfirst := Delivery.news?_of_other name hother
      rw [news_cons_none _ _ hfirst] at hnews ⊢
      obtain ⟨hfollowed, htrue⟩ := ih hrest hnews (h.aside hother)
      refine ⟨hfollowed, List.forall_mem_cons.mpr ⟨fun hsome => ?_, htrue⟩⟩
      rw [hfirst] at hsome
      cases hsome

/-- Deliveries before the opening change nothing for the issue. -/
theorem Dispatches.opened (hrun : b.Dispatches World.Calm run s t) :
    ∀ {e : GitHub.IssueEvent} {rest : List (IssueAction × GitHub.IssueEvent)},
      (∀ p ∈ run, p.1.Regards name id) → news name id run = (.opened, e) :: rest →
      (∀ n ∈ rest, n.1 ≠ .opened) → (∀ n ∈ (.opened, e) :: rest, n.1 = .opened ∨ n.1 = .edited →
        ∃ d, Logged.result (b.description n.2.issue) = .ok d) →
      b.Awaited repo id workflow s →
      (∃ r, b.Followed repo id workflow (lastEdited e.issue rest)
        (rest.foldl (fun category n => categoryAfter workflow repo category n.1) "To Do") t r) ∧
        ∀ p ∈ run, (p.1.news? name id).isSome → p.2 = .ok true := by
  induction hrun with
  | nil s =>
    intro _ _ _ hnews
    cases hnews
  | @cons delivery run t w hw hrun ih =>
    intro e rest hregards hnews honce hrendered h
    have hrest : ∀ p ∈ run, p.1.Regards name id := fun p hp => hregards p (List.mem_cons_of_mem _ hp)
    rcases hregards _ List.mem_cons_self with ⟨n, hfirst⟩ | hother
    · rw [news_cons_some _ _ hfirst, List.cons.injEq] at hnews
      obtain ⟨rfl, rfl⟩ := hnews
      obtain ⟨d, hd⟩ := hrendered _ List.mem_cons_self (.inl rfl)
      obtain ⟨ho, r, hopened⟩ := h.opened hb hr hw hfirst hd
      obtain ⟨hfollowed, htrue⟩ := hrun.followed hb hr hrest (fun n hn =>
        ⟨honce n hn, fun hedited => hrendered n (List.mem_cons_of_mem _ hn) (.inr hedited)⟩) hopened
      exact ⟨⟨r, hfollowed⟩, List.forall_mem_cons.mpr ⟨fun _ => ho, htrue⟩⟩
    · have hfirst := Delivery.news?_of_other name hother
      rw [news_cons_none _ _ hfirst] at hnews
      obtain ⟨hfollowed, htrue⟩ := ih hrest hnews honce hrendered (h.aside hother)
      refine ⟨hfollowed, List.forall_mem_cons.mpr ⟨fun hsome => ?_, htrue⟩⟩
      rw [hfirst] at hsome
      cases hsome

/-- Events about an issue keep its ticket current. No ticket carries the id at first. Of the deliveries in a run
in which no call fails, some are about other issues; those about this one begin with its opening, and it is
not opened again. Then one ticket carries the id in the end. It has the texts that were told last, its status is
where the closings and reopenings led it from the one it was created with, and all these deliveries were
handled. -/
theorem dispatches_keep_current {rest : List (IssueAction × GitHub.IssueEvent)} (hn : s.Numbered)
    (hnone : s.search (query b.fieldIds repo.project id) = []) (hrun : b.Dispatches World.Calm run s t)
    (hregards : ∀ p ∈ run, p.1.Regards name id) (hnews : news name id run = (.opened, e) :: rest)
    (honce : ∀ n ∈ rest, n.1 ≠ .opened)
    (hrendered : ∀ n ∈ (.opened, e) :: rest, n.1 = .opened ∨ n.1 = .edited →
      ∃ d, Logged.result (b.description n.2.issue) = .ok d) :
    (∃ r x, b.Current repo id (lastEdited e.issue rest)
      (rest.foldl (fun category n => categoryAfter s.workflow repo category n.1) "To Do") t r x) ∧
      ∀ p ∈ run, (p.1.news? name id).isSome → p.2 = .ok true := by
  obtain ⟨⟨r, hfollowed⟩, htrue⟩ := hrun.opened hb hr hregards hnews honce hrendered ⟨hn, hnone, rfl⟩
  exact ⟨⟨r, hfollowed.current⟩, htrue⟩

end Running

section Closing

def steppedRepo : Repo where
  owner := "acme"
  project := "AB"
  issueType := "Task"
  transitions := [("Done", ["Start", "Finish"])]

def stepped : Bridge := { small with settings := { repos := [("app", steppedRepo)] } }

def told (action title : String) (id : Int) : Delivery where
  kind := "issues"
  name := "a"
  body := ("\x7b\"action\":\"" ++ action ++ "\",\"issue\":\x7b\"id\":" ++ toString id ++
    ",\"number\":1,\"title\":\"" ++ title ++ "\"\x7d,\"repository\":\x7b\"name\":\"app\"\x7d\x7d").toUTF8

def stepWorld : World := { smallWorld with
  store := { workflow := [("Start", "In Progress"), ("Finish", "Done")] } }

def stepAfter (d : Delivery) (w : World) : World :=
  { stepWorld with store := (after (stepped.dispatch d.kind d.name d.body) w).store }

theorem dispatches_stepAfter (hw : w.Calm)
    (h : stepped.Dispatches World.Calm run (stepAfter delivery w).store t) :
    stepped.Dispatches World.Calm
      ((delivery, outcome (stepped.dispatch delivery.kind delivery.name delivery.body) w) :: run) w.store t :=
  .cons w hw h

def steppedWorld : World :=
  stepAfter (told "closed" "New" 7) (stepAfter (told "edited" "New" 7) (stepAfter (told "opened" "Other" 8)
    (stepAfter (told "opened" "Old" 7) stepWorld)))

def eventOld : GitHub.IssueEvent where
  action := "opened"
  issue := { id := 7, number := 1, title := "Old" }
  repository := { name := "app" }

def eventNew : GitHub.IssueEvent where
  action := "closed"
  issue := { id := 7, number := 1, title := "New" }
  repository := { name := "app" }

theorem news?_opened : (told "opened" "Old" 7).news? "app" 7 = some (.opened, eventOld) := by
  with_unfolding_all rfl

theorem event?_other : (told "opened" "Other" 8).event? = some (.issue
    { action := "opened", issue := { id := 8, number := 1, title := "Other" }, repository := { name := "app" } }) := by
  with_unfolding_all rfl

theorem news?_edited :
    (told "edited" "New" 7).news? "app" 7 = some (.edited, { eventNew with action := "edited" }) := by
  with_unfolding_all rfl

theorem news?_closed : (told "closed" "New" 7).news? "app" 7 = some (.closed, eventNew) := by
  with_unfolding_all rfl

theorem id_of_other : ∀ e, (told "opened" "Other" 8).event? = some e → e.subject.id ≠ 7 := by
  intro e he
  rw [event?_other, Option.some.injEq] at he
  rw [← he]
  decide

theorem dispatches_keep_current_closing : ∃ r x,
    stepped.Current steppedRepo 7 { id := 7, number := 1, title := "New" } "Done" steppedWorld.store r x := by
  have hcalm : ∀ w : World, w.faults = smallWorld.faults → w.Calm := by
    intro w hw history c _
    rw [hw]
    rfl
  have hrun : stepped.Dispatches World.Calm _ stepWorld.store steppedWorld.store :=
    dispatches_stepAfter (hcalm _ rfl) (dispatches_stepAfter (hcalm _ rfl) (dispatches_stepAfter (hcalm _ rfl)
      (dispatches_stepAfter (hcalm _ rfl) (.nil steppedWorld.store))))
  have hregards : ∀ d ∈ [told "opened" "Old" 7, told "opened" "Other" 8, told "edited" "New" 7,
      told "closed" "New" 7], d.Regards "app" 7 := by
    simp only [List.forall_mem_cons]
    exact ⟨.inl ⟨_, news?_opened⟩, .inr id_of_other, .inl ⟨_, news?_edited⟩, .inl ⟨_, news?_closed⟩, nofun⟩
  have hnews : ∀ o₁ o₂ o₃ o₄, news "app" 7 [(told "opened" "Old" 7, o₁), (told "opened" "Other" 8, o₂),
      (told "edited" "New" 7, o₃), (told "closed" "New" 7, o₄)] =
        [(.opened, eventOld), (.edited, { eventNew with action := "edited" }), (.closed, eventNew)] := by
    intro o₁ o₂ o₃ o₄
    rw [news_cons_some o₁ _ news?_opened, news_cons_none o₂ _ (Delivery.news?_of_other _ id_of_other),
      news_cons_some o₃ _ news?_edited, news_cons_some o₄ _ news?_closed]
    rfl
  have hrendered : ∀ i ∈ [eventOld.issue, eventNew.issue],
      (Logged.result (stepped.description i)).toOption.isSome := by
    decide +kernel
  have hdescribed : ∀ i ∈ [eventOld.issue, eventNew.issue],
      ∃ d, Logged.result (stepped.description i) = .ok d := by
    intro i hi
    obtain ⟨d, h⟩ := Option.isSome_iff_exists.mp (hrendered i hi)
    exact ⟨d, eq_ok_of_toOption h⟩
  have hnum : stepWorld.store.Numbered := ⟨nofun, List.nodup_nil, nofun⟩
  have hrepo : stepped.settings.repos.lookup "app" = some steppedRepo := rfl
  refine (dispatches_keep_current ⟨by decide, by decide, by decide⟩ hrepo hnum rfl hrun
    (fun p hp => hregards p.1 (List.mem_map_of_mem hp)) (hnews _ _ _ _) ?_ fun n hn _ => ?_).1
  · decide
  · simp only [List.mem_cons, List.not_mem_nil, or_false] at hn
    rcases hn with rfl | rfl | rfl
    · exact hdescribed _ List.mem_cons_self
    · exact hdescribed _ (.tail _ List.mem_cons_self)
    · exact hdescribed _ (.tail _ List.mem_cons_self)

end Closing

end Bridge

end IssueBridge
