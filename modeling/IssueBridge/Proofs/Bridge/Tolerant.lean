import IssueBridge.Proofs.Bridge.Carrier
import IssueBridge.Proofs.Bridge.Refresh
import IssueBridge.Proofs.Bridge.Retry
import IssueBridge.Proofs.Bridge.Served
import IssueBridge.Proofs.Tracker.Asked

/-! # Updates that may fail

Bringing a ticket up to date fails only with its first update, and creating one only with the creation. All
later calls are made whichever of them fail, except that a transition ends with its first step that fails.
-/

namespace IssueBridge

open Step Tracker

namespace Bridge

variable {b : Bridge} {u : Course} {r : TicketRef} {x y : Ticket} {i : GitHub.Issue} {repo : Repo} {d : String}
  {w : World} {names : List String}

section Rules

def updatesOf (fields : LabelRule → Except Failure (Option Fields)) : List Fields :=
  LabelRule.all.filterMap fun rule => (fields rule).toOption.join

theorem updatesOf_eq {fields : LabelRule → Except Failure (Option Fields)} {o o' : Option Fields}
    (h : fields LabelRule.issueType = .ok o) (h' : fields LabelRule.component = .ok o') :
    updatesOf fields = o.toList ++ o'.toList := by
  unfold updatesOf LabelRule.all
  rw [List.filterMap_cons, List.filterMap_cons, h, h']
  cases o <;> cases o' <;> rfl

/-- The rules send their updates one after the other, whichever of these fail. -/
theorem proceeds_rules {f : LabelRule → Step Unit} {o o' : Option Fields} (hu : u.Holds r names x)
    (h : Proceeds u (f LabelRule.issueType) (.ok ())
      (u.askAll (.update x.key.get?) (fun fs s => s.update r fs) o.toList))
    (h' : ∀ v names, v.Holds r names x → Proceeds v (f LabelRule.component) (.ok ())
      (v.askAll (.update x.key.get?) (fun fs s => s.update r fs) o'.toList)) :
    Proceeds u (LabelRule.all.forM f) (.ok ())
      (u.askAll (.update x.key.get?) (fun fs s => s.update r fs) (o.toList ++ o'.toList)) := by
  obtain ⟨names', hv⟩ := hu.askAll_update x.key.get? o
  rw [Course.askAll_append]
  exact h.bind ((h' _ names' hv).bind (.pure ()))

end Rules

section Updating

theorem proceeds_view (hx : u.store.ticket? r = some x) : Proceeds u (view r) (.ok x) u := by
  refine Proceeds.get_bind fun w hw => ?_
  have hstore : w.store = u.store := congrArg Course.store hw
  rw [hstore, hx]
  exact .pure _

theorem proceeds_pushAssignee (hu : u.Holds r names x) (hk : x.key ≠ .missing) :
    Proceeds u (b.pushAssignee r i) (.ok ())
      (u.ask (.update x.key.get? (assigneeFields (b.mappedUser i.assigneeLogin)))
        (·.update r (assigneeFields (b.mappedUser i.assigneeLogin)))) := by
  obtain ⟨y, hy, hsame⟩ := hu
  have huser := Proceeds.ofLogged (u := u) (b.blind_assignee? i.assigneeLogin)
  rw [b.result_assignee?] at huser
  rw [← hsame.key]
  exact huser.bind ((proceeds_update hy (hsame.key ▸ hk) _).contain _ _)

theorem holds_assigned (hu : u.Holds r names x) (key user : Option String) :
    (u.ask (.update key (assigneeFields user)) (·.update r (assigneeFields user))).Holds r
      ("assignee" :: names) x :=
  (hu.mono (List.subset_cons_self ..)).ask_update (by simp [assigneeFields])

def wantedSteps (repo : Repo) (i : GitHub.Issue) (x : Ticket) : List String :=
  ((wantedTransition i.state x.statusCategory).map (steps repo)).getD []

theorem proceeds_pushStatus (repo : Repo) (i : GitHub.Issue) (hu : u.Holds r names x) (hk : x.key ≠ .missing)
    (hstatus : "status" ∉ names) : Proceeds u (pushStatus r i repo) (.ok ())
      (Course.askUntil (.transition x.key.get?) (fun step s => s.transition r step) u (wantedSteps repo i x)) := by
  obtain ⟨y, hy, hsame⟩ := hu
  unfold wantedSteps
  rw [← hsame.key, ← hsame.statusCategory hstatus]
  refine (proceeds_view hy).bind ?_
  cases wantedTransition i.state y.statusCategory with
  | none => exact .pure ()
  | some name =>
    obtain ⟨o, htransitions⟩ := proceeds_transitions hy (hsame.key ▸ hk) (steps repo name)
    exact htransitions.contain _ _

theorem proceeds_pushRule {rule : LabelRule} {o : Option Fields} (hx : u.store.ticket? r = some x)
    (hk : x.key ≠ .missing) (ho : rule.reconcileFields x repo i.labelNames = .ok o) :
    Proceeds u (pushRule r i repo rule) (.ok ())
      (u.askAll (.update x.key.get?) (fun fs s => s.update r fs) o.toList) := by
  refine (proceeds_view hx).bind ?_
  rw [ho]
  refine (Proceeds.ofExcept (.ok o)).bind ?_
  cases o with
  | none => exact .pure ()
  | some fs => exact (proceeds_update hx hk fs).contain _ _

theorem issueType_reconcileFields (h : y.issueType = x.issueType) (repo : Repo) (labels : List String) :
    LabelRule.issueType.reconcileFields y repo labels = LabelRule.issueType.reconcileFields x repo labels := by
  unfold LabelRule.issueType
  dsimp only
  rw [h]

theorem proceeds_pushRules (repo : Repo) (i : GitHub.Issue) (hu : u.Holds r names x) (hk : x.key ≠ .missing)
    (htype : "issuetype" ∉ names) : Proceeds u (LabelRule.all.forM (pushRule r i repo)) (.ok ())
      (u.askAll (.update x.key.get?) (fun fs s => s.update r fs)
        (updatesOf fun rule => rule.reconcileFields x repo i.labelNames)) := by
  obtain ⟨o, ho⟩ : ∃ o, LabelRule.issueType.reconcileFields x repo i.labelNames = .ok o :=
    reconcileFields_eq_ok List.mem_cons_self ..
  obtain ⟨o', ho'⟩ : ∃ o, LabelRule.component.reconcileFields x repo i.labelNames = .ok o :=
    reconcileFields_eq_ok (List.mem_cons_of_mem _ List.mem_cons_self) ..
  rw [updatesOf_eq ho ho']
  refine proceeds_rules hu ?_ fun v names' hv => ?_
  · obtain ⟨y, hy, hsame⟩ := hu
    rw [← issueType_reconcileFields (hsame.issueType htype)] at ho
    rw [← hsame.key]
    exact proceeds_pushRule hy (hsame.key ▸ hk) ho
  · obtain ⟨y, hy, hsame⟩ := hv
    rw [← hsame.key]
    exact proceeds_pushRule hy (hsame.key ▸ hk) ho'

/-- The update of the texts decides what becomes of everything that follows. -/
theorem proceeds_pushText {o : Except Failure Unit} {v : Course} (hd : Logged.result (b.description i) = .ok d)
    (h : Proceeds u (Tracker.update r (textFields i d)) o v) : Proceeds u (b.pushText r i) o v := by
  have hfields := Proceeds.ofLogged (u := u) (b.blind_updatedFields i)
  rw [b.result_updatedFields, hd] at hfields
  exact hfields.bind h

/-- The calls after the first, when a ticket is brought up to date: one update of the assignee, the steps of the
transition that is wanted up to the first that fails, and one update for each rule that wants one. -/
def furtherCalls (b : Bridge) (repo : Repo) (i : GitHub.Issue) (x : Ticket) (faults : Faults)
    (history : List Call) : List Call :=
  let assign := .update x.key.get? (assigneeFields (b.mappedUser i.assigneeLogin))
  assign :: (faults.upToFailure (assign :: history) ((wantedSteps repo i x).map (.transition x.key.get?)) ++
    (updatesOf fun rule => rule.reconcileFields x repo i.labelNames).map (.update x.key.get?))

theorem proceeds_further (repo : Repo) (hu : u.Holds r ["summary", "description"] x) (hk : x.key ≠ .missing) :
    ∃ v, Proceeds u (do
      b.pushAssignee r i
      pushStatus r i repo
      LabelRule.all.forM (pushRule r i repo)) (.ok ()) v ∧
        v.history = (b.furtherCalls repo i x u.faults u.history).reverse ++ u.history := by
  have hassigned := holds_assigned hu x.key.get? (b.mappedUser i.assigneeLogin)
  have hmoved := (hassigned.mono (List.subset_cons_self "status" _)).askUntil_transition List.mem_cons_self
    x.key.get? (wantedSteps repo i x)
  have hassign := proceeds_pushAssignee (b := b) (i := i) hu hk
  have hstatus := proceeds_pushStatus repo i hassigned hk (by decide)
  have hrules := proceeds_pushRules repo i hmoved hk (by decide)
  refine ⟨_, hassign.bind (hstatus.bind hrules), ?_⟩
  rw [Course.history_askAll, Course.history_askUntil, Course.faults_ask, Course.history_ask, furtherCalls,
    List.reverse_cons, List.reverse_append]
  simp only [List.append_assoc, List.singleton_append]

/-- The update fails exactly if that of the texts does, and then nothing more is asked. -/
theorem proceeds_updateFromSource (repo : Repo) (hx : u.store.ticket? r = some x)
    (hd : Logged.result (b.description i) = .ok d) :
    ∃ o v v', Proceeds u (Tracker.update r (textFields i d)) o v ∧ Proceeds u (b.updateFromSource r i repo) o v' ∧
      v'.history = match o with
        | .error _ => .update x.key.get? (textFields i d) :: u.history
        | .ok _ =>
          (b.furtherCalls repo i x u.faults (.update x.key.get? (textFields i d) :: u.history)).reverse ++
            .update x.key.get? (textFields i d) :: u.history := by
  by_cases hk : x.key = .missing
  · obtain ⟨f, hupdate⟩ := proceeds_update_of_keyless hx hk (textFields i d)
    exact ⟨_, _, _, hupdate, (proceeds_pushText hd hupdate).bind_error, Course.history_ask ..⟩
  · have hupdate := proceeds_update hx hk (textFields i d)
    have htexts : (u.ask (.update x.key.get? (textFields i d)) (·.update r (textFields i d))).Holds r
        ["summary", "description"] x := Course.Holds.ask_update ⟨x, hx, .refl _ x⟩ (List.Subset.refl _)
    obtain ⟨v, hfurther, hhistory⟩ := proceeds_further (b := b) (i := i) repo htexts hk
    rw [Course.faults_ask, Course.history_ask] at hhistory
    have htext := proceeds_pushText hd hupdate
    cases hanswer : u.answer (.update x.key.get? (textFields i d)) with
    | ok _ =>
      rw [hanswer] at hupdate htext
      exact ⟨_, _, v, hupdate, htext.bind hfurther, hhistory⟩
    | error f =>
      rw [hanswer] at hupdate htext
      exact ⟨_, _, _, hupdate, htext.bind_error, Course.history_ask ..⟩

end Updating

section Creating

/-- The calls that settle a new ticket: the steps to the end of the workflow if its issue is closed, up to the
first that fails, and one update for each rule that wants one. -/
def settlingCalls (repo : Repo) (i : GitHub.Issue) (key : Option String) (faults : Faults)
    (history : List Call) : List Call :=
  faults.upToFailure history ((if i.state = "closed" then steps repo done else []).map (.transition key)) ++
    (updatesOf fun rule => rule.creationFields repo i.labelNames).map (.update key)

theorem proceeds_closeNew (repo : Repo) (i : GitHub.Issue) (hx : u.store.ticket? r = some x)
    (hk : x.key ≠ .missing) : Proceeds u (closeNew r i repo) (.ok ())
      (Course.askUntil (.transition x.key.get?) (fun step s => s.transition r step) u
        (if i.state = "closed" then steps repo done else [])) := by
  unfold closeNew
  split
  · obtain ⟨o, htransitions⟩ := proceeds_transitions hx hk (steps repo done)
    exact htransitions.contain _ _
  · exact .pure ()

theorem proceeds_fillIn {rule : LabelRule} {o : Option Fields} (hk : x.key ≠ .missing)
    (ho : rule.creationFields repo i.labelNames = .ok o) (hu : u.Holds r names x) :
    Proceeds u (fillIn r i repo rule) (.ok ())
      (u.askAll (.update x.key.get?) (fun fs s => s.update r fs) o.toList) := by
  obtain ⟨y, hy, hsame⟩ := hu
  unfold fillIn
  rw [ho, ← hsame.key]
  refine (Proceeds.ofExcept (.ok o)).bind ?_
  cases o with
  | none => exact .pure ()
  | some fs => exact (proceeds_update hy (hsame.key ▸ hk) fs).contain _ _

theorem proceeds_settleNew (repo : Repo) (i : GitHub.Issue) (hx : u.store.ticket? r = some x)
    (hk : x.key ≠ .missing) : ∃ v, Proceeds u (settleNew r i repo) (.ok ()) v ∧
      v.history = (settlingCalls repo i x.key.get? u.faults u.history).reverse ++ u.history := by
  have hclosed := proceeds_closeNew repo i hx hk
  have hmoved := Course.Holds.askUntil_transition ⟨x, hx, .refl ["status"] x⟩ List.mem_cons_self x.key.get?
    (if i.state = "closed" then steps repo done else [])
  obtain ⟨o, ho⟩ : ∃ o, LabelRule.issueType.creationFields repo i.labelNames = .ok o :=
    creationFields_eq_ok List.mem_cons_self ..
  obtain ⟨o', ho'⟩ : ∃ o, LabelRule.component.creationFields repo i.labelNames = .ok o :=
    creationFields_eq_ok (List.mem_cons_of_mem _ List.mem_cons_self) ..
  have hrules := proceeds_rules hmoved (proceeds_fillIn hk ho hmoved) fun _ _ => proceeds_fillIn hk ho'
  refine ⟨_, hclosed.bind hrules, ?_⟩
  rw [Course.history_askAll, Course.history_askUntil, settlingCalls, updatesOf_eq ho ho', List.reverse_append,
    List.append_assoc]

def Made (v : Course) : Except Failure TicketRef → Prop
  | .ok r => ∃ y, v.store.ticket? r = some y ∧ y.key ≠ .missing
  | .error _ => True

theorem made_create (u : Course) (fs : Fields) :
    Made (u.ask (.create fs) fun s => (s.create fs).2)
      ((u.answer (.create fs)).map fun _ => u.store.tickets.length) := by
  cases hanswer : u.answer (.create fs) with
  | error f => exact trivial
  | ok _ =>
    refine ⟨u.store.newTicket fs, ?_, nofun⟩
    rw [Course.ask_of_ok hanswer]
    exact Store.ticket?_create u.store fs

theorem made_createTicket (u : Course) (fs : Fields) :
    ∃ o v, Proceeds u (createTicket fs) o v ∧ v.faults = u.faults ∧ Made v o := by
  obtain ⟨last, before, -, hcreates⟩ := proceeds_createTicket u fs
  exact ⟨_, _, hcreates, Course.faults_ask _ _ _, made_create { u with history := before } last⟩

theorem proceeds_warnUnmapped (u : Course) (b : Bridge) (i : GitHub.Issue) :
    Proceeds u (b.warnUnmapped i) (.ok ()) u := by
  unfold warnUnmapped
  split
  · exact .say _ _
  · exact .pure ()

/-- The creation of the ticket decides whether anything follows. -/
theorem proceeds_createFromSource (u : Course) (repo : Repo) (hd : Logged.result (b.description i) = .ok d) :
    ∃ o v v', Proceeds u (createTicket (b.newFieldsOf i repo d)) o v ∧
      Proceeds u (b.createFromSource i repo) o v' ∧
      match o with
      | .error _ => v'.history = v.history
      | .ok r => ∃ y, v.store.ticket? r = some y ∧
        v'.history = (settlingCalls repo i y.key.get? u.faults v.history).reverse ++ v.history := by
  obtain ⟨o, v, hcreate, hfaults, hmade⟩ := made_createTicket u (b.newFieldsOf i repo d)
  have hfields := Proceeds.ofLogged (u := u) (b.blind_newFields i repo)
  rw [b.result_newFields, hd] at hfields
  have hopened : Proceeds u (b.opened i repo) o v := hfields.bind hcreate
  cases o with
  | error f =>
    exact ⟨.error f, v, v, hcreate, (proceeds_warnUnmapped u b i).bind hopened.bind_error, rfl⟩
  | ok r =>
    obtain ⟨y, hy, hk⟩ := hmade
    obtain ⟨v', hsettle, hhistory⟩ := proceeds_settleNew repo i hy hk
    rw [hfaults] at hhistory
    exact ⟨.ok r, v, v', hcreate, (proceeds_warnUnmapped u b i).bind (hopened.bind (hsettle.bind (.pure r))),
      y, hy, hhistory⟩

end Creating

/-- An issue whose description can be rendered. Bringing its ticket up to date comes to what the update of the texts
comes to: if that fails, it was the only call, and otherwise all further calls are made, whichever of them fail.
Creating a ticket comes to what the creation comes to: if that fails, nothing follows, and otherwise the ticket is
settled, whichever of the calls for it fail. -/
theorem only_first_call_fails (repo : Repo) (w : World) (hd : Logged.result (b.description i) = .ok d) :
    (∀ r x, w.store.ticket? r = some x →
      outcome (b.updateFromSource r i repo) w = outcome (Tracker.update r (textFields i d)) w ∧
      (after (b.updateFromSource r i repo) w).history =
        match outcome (Tracker.update r (textFields i d)) w with
        | .error _ => .update x.key.get? (textFields i d) :: w.history
        | .ok _ =>
          (b.furtherCalls repo i x w.faults (.update x.key.get? (textFields i d) :: w.history)).reverse ++
            .update x.key.get? (textFields i d) :: w.history) ∧
    outcome (b.createFromSource i repo) w = outcome (createTicket (b.newFieldsOf i repo d)) w ∧
      match outcome (createTicket (b.newFieldsOf i repo d)) w with
      | .error _ => (after (b.createFromSource i repo) w).history =
          (after (createTicket (b.newFieldsOf i repo d)) w).history
      | .ok r => ∃ y, (after (createTicket (b.newFieldsOf i repo d)) w).store.ticket? r = some y ∧
          (after (b.createFromSource i repo) w).history =
            (settlingCalls repo i y.key.get? w.faults
              (after (createTicket (b.newFieldsOf i repo d)) w).history).reverse ++
                (after (createTicket (b.newFieldsOf i repo d)) w).history := by
  constructor
  · intro r x hx
    obtain ⟨o, v, v', htext, hwhole, hhistory⟩ := proceeds_updateFromSource (u := w.course) repo hx hd
    rw [(htext w rfl).1, (hwhole w rfl).1]
    exact ⟨rfl, (congrArg Course.history (hwhole w rfl).2).trans hhistory⟩
  · obtain ⟨o, v, v', hcreate, hwhole, hhistory⟩ := proceeds_createFromSource w.course repo hd
    obtain ⟨hc, hv⟩ := hcreate w rfl
    obtain ⟨ho, hv'⟩ := hwhole w rfl
    rw [hc, ho]
    refine ⟨rfl, ?_⟩
    have hstore : v.store = (after (createTicket (b.newFieldsOf i repo d)) w).store := congrArg Course.store hv.symm
    have hold : v.history = (after (createTicket (b.newFieldsOf i repo d)) w).history :=
      congrArg Course.history hv.symm
    have hnew : v'.history = (after (b.createFromSource i repo) w).history := congrArg Course.history hv'.symm
    rw [← hold, ← hnew, ← hstore]
    exact hhistory

def obstructedRepo : Repo where
  project := "AB"
  issueTypeOf := [("bug", "Bug")]
  transitions := [("To Do", ["Reopen", "Restart"])]

def obstructedIssue : GitHub.Issue where
  id := 7
  number := 1
  labels := [⟨"bug"⟩]

def obstructedTicket : Ticket where
  key := .given "AB-1"
  id := .given "10001"
  fields := .given [("status", Store.status "Done")]

/-- A world in which steps of the workflow fail, and every call that follows an update. -/
def obstructedWorld : World := { smallWorld with
  store := { tickets := [obstructedTicket] }
  faults := fun history c =>
    match history, c with
    | _, .transition .. => .failed (.connection "reset")
    | .update .. :: _, _ => .failed (.connection "reset")
    | _, _ => .served }

theorem only_first_call_fails_obstructed :
    outcome (small.updateFromSource 0 obstructedIssue obstructedRepo) obstructedWorld = .ok () ∧
      (after (small.updateFromSource 0 obstructedIssue obstructedRepo) obstructedWorld).history.map Call.name =
        ["issue.update", "issue.update", "transition_issue", "issue.update", "issue.update"] ∧
      outcome (small.createFromSource obstructedIssue obstructedRepo) obstructedWorld = .ok 1 ∧
      (after (small.createFromSource obstructedIssue obstructedRepo) obstructedWorld).history.map Call.name =
        ["issue.update", "create_issue"] := by
  have hrendered : (Logged.result (small.description obstructedIssue)).toOption.isSome := by decide +kernel
  obtain ⟨d, hd⟩ := Option.isSome_iff_exists.mp hrendered
  obtain ⟨hupdate, hcreate, hsettle⟩ := only_first_call_fails obstructedRepo obstructedWorld (eq_ok_of_toOption hd)
  obtain ⟨hupdated, hfurther⟩ := hupdate 0 obstructedTicket rfl
  have htext : outcome (Tracker.update 0 (textFields obstructedIssue d)) obstructedWorld = .ok () := rfl
  have hcreated : outcome (createTicket (small.newFieldsOf obstructedIssue obstructedRepo d)) obstructedWorld =
      .ok 1 := rfl
  rw [htext] at hupdated hfurther
  rw [hcreated] at hcreate hsettle
  obtain ⟨y, hy, hsettle⟩ := hsettle
  cases hy
  refine ⟨hupdated, ?_, hcreate, ?_⟩
  · rw [hfurther]
    rfl
  · rw [hsettle]
    rfl

end Bridge

end IssueBridge
