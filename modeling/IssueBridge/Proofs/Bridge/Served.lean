import IssueBridge.Proofs.Bridge.Refresh

/-! # Steps of a pass that are served

When no call fails, what a pass does for one issue is a function of the scene. It fails only where
something cannot be rendered or read, and then it fails again whenever it is tried.
-/

namespace IssueBridge

open Step Tracker

namespace Bridge

variable {b : Bridge} {v : Scene} {project : String} {id : Int} {r : TicketRef} {x : Ticket} {k : String}
  {i : GitHub.Issue} {repo : Repo} {d : String}

section Finding

theorem does_search_query (project : String) (id : Int) :
    Does v (search (query b.fieldIds project id).text) (.ok (b.finds v.store project id)) v :=
  does_search _

theorem does_findIssue_of_nil (h : b.finds v.store project id = []) :
    Does v (b.findIssue project id) (.error (.issueNotFound project id)) v := by
  have hsearch := does_search_query (b := b) (v := v) project id
  rw [h] at hsearch
  exact hsearch.bind (.throw _)

theorem does_findIssue_of_sole (h : b.finds v.store project id = [r]) :
    Does v (b.findIssue project id) (.ok r) v := by
  have hsearch := does_search_query (b := b) (v := v) project id
  rw [h] at hsearch
  exact hsearch.bind (.pure _)

theorem does_findIssue_of_several {r' : TicketRef} {refs : List TicketRef}
    (h : b.finds v.store project id = r :: r' :: refs) :
    Does v (b.findIssue project id)
      (.error (ambiguity project id (keys v.store (r :: r' :: refs)))) v := by
  have hsearch := does_search_query (b := b) (v := v) project id
  rw [h] at hsearch
  refine hsearch.bind (.get_bind fun w hw => ?_)
  dsimp only
  rw [hw.store]
  exact (Does.say _ _).bind (.throw _)

end Finding

section Updating

theorem does_view (h : v.store.ticket? r = some x) : Does v (view r) (.ok x) v := by
  refine Does.get_bind fun w hw => ?_
  rw [hw.store, h]
  exact .pure _

theorem does_pushText (hx : v.store.ticket? r = some x) (hk : x.key = .given k)
    (hd : Logged.result (b.description i) = .ok d) :
    Does v (b.pushText r i) (.ok ()) (v.put r (x.update (textFields i d))) := by
  have hfields := Does.ofLogged (v := v) (b.blind_updatedFields i)
  rw [b.result_updatedFields, hd] at hfields
  exact hfields.bind (does_update hx hk _)

theorem does_pushText_of_error {f : Failure} (hd : Logged.result (b.description i) = .error f) :
    Does v (b.pushText r i) (.error f) v := by
  have hfields := Does.ofLogged (v := v) (b.blind_updatedFields i)
  rw [b.result_updatedFields, hd] at hfields
  exact hfields.bind_error

theorem does_pushAssignee (hx : v.store.ticket? r = some x) (hk : x.key = .given k) :
    Does v (b.pushAssignee r i) (.ok ())
      (v.put r (x.update (assigneeFields (b.mappedUser i.assigneeLogin)))) := by
  have huser := Does.ofLogged (v := v) (b.blind_assignee? i.assigneeLogin)
  rw [b.result_assignee?] at huser
  exact huser.bind ((does_update hx hk _).leaves.contain _ _)

theorem does_pushStatus (repo : Repo) (i : GitHub.Issue) (hx : v.store.ticket? r = some x)
    (hk : x.key = .given k) :
    Does v (pushStatus r i repo) (.ok ()) (v.put r (placed v.store.workflow repo i x)) := by
  refine (does_view hx).bind ?_
  unfold placed
  cases wantedTransition i.state x.statusCategory with
  | none =>
    dsimp only
    rw [Scene.put_self hx]
    exact .pure _
  | some name => exact (does_transitions (steps repo name) hx hk).leaves.contain _ _

theorem does_pushRule {rule : LabelRule} {o : Option Fields} (hx : v.store.ticket? r = some x)
    (hk : x.key = .given k) (ho : rule.reconcileFields x repo i.labelNames = .ok o) :
    Does v (pushRule r i repo rule) (.ok ()) (v.put r (pushed repo i x rule)) := by
  have hfields := Does.ofExcept (v := v) (rule.reconcileFields x repo i.labelNames)
  rw [ho] at hfields
  refine (does_view hx).bind ?_
  rw [ho]
  refine hfields.bind ?_
  unfold pushed
  rw [ho]
  cases o with
  | none =>
    rw [show x.receive (Except.ok none : Except Failure (Option Fields)).toOption.join = x from rfl,
      Scene.put_self hx]
    exact .pure _
  | some fs => exact (does_update hx hk fs).leaves.contain _ _

theorem reconcileFields_eq_ok {rule : LabelRule} (h : rule ∈ LabelRule.all) (x : Ticket) (repo : Repo)
    (labels : List String) : ∃ o, rule.reconcileFields x repo labels = .ok o := by
  rcases LabelRule.mem_all_iff.mp h with rfl | rfl
  · unfold LabelRule.issueType
    dsimp only
    cases LabelRule.mapped repo.issueTypeOf labels <;> exact ⟨_, rfl⟩
  · exact ⟨_, rfl⟩

theorem does_pushRules (repo : Repo) (i : GitHub.Issue) (hx : v.store.ticket? r = some x)
    (hk : x.key = .given k) :
    Does v (LabelRule.all.forM (pushRule r i repo)) (.ok ())
      (v.put r (LabelRule.all.foldl (pushed repo i) x)) := by
  refine does_forM_put (fun x _ => x.key_receive _) (fun rule hr y hy hky => ?_) hx hk
  obtain ⟨o, ho⟩ := reconcileFields_eq_ok hr y repo i.labelNames
  exact does_pushRule hy hky ho

theorem does_updateFromSource (hx : v.store.ticket? r = some x) (hk : x.key = .given k)
    (hd : Logged.result (b.description i) = .ok d) :
    Does v (b.updateFromSource r i repo) (.ok ())
      (v.put r (b.refreshed v.store.workflow repo i d x)) := by
  have htext := does_pushText hx hk hd
  have hassign := does_pushAssignee (b := b) (i := i)
    (Scene.ticket?_put_self hx (x.update (textFields i d))) hk
  rw [Scene.put_put] at hassign
  have hstatus := does_pushStatus repo i
    (Scene.ticket?_put_self hx (b.briefed i d x)) hk
  rw [Scene.put_put] at hstatus
  have hkey : (placed v.store.workflow repo i (b.briefed i d x)).key = .given k :=
    (sameBut_placed ..).key.trans hk
  have hrules := does_pushRules repo i (Scene.ticket?_put_self hx _) hkey
  rw [Scene.put_put] at hrules
  exact htext.bind (hassign.bind (hstatus.bind hrules))

end Updating

section Creating

theorem creationFields_eq_ok {rule : LabelRule} (h : rule ∈ LabelRule.all) (repo : Repo)
    (labels : List String) : ∃ o, rule.creationFields repo labels = .ok o := by
  rcases LabelRule.mem_all_iff.mp h with rfl | rfl
  · exact ⟨_, rfl⟩
  · unfold LabelRule.component
    dsimp only
    cases LabelRule.mapped repo.componentOf labels <;> exact ⟨_, rfl⟩

theorem does_fillIn {rule : LabelRule} {o : Option Fields} (hx : v.store.ticket? r = some x)
    (hk : x.key = .given k) (ho : rule.creationFields repo i.labelNames = .ok o) :
    Does v (fillIn r i repo rule) (.ok ()) (v.put r (filled repo i x rule)) := by
  have hfields := Does.ofExcept (v := v) (rule.creationFields repo i.labelNames)
  rw [ho] at hfields
  unfold fillIn filled
  rw [ho]
  refine hfields.bind ?_
  cases o with
  | none =>
    rw [show x.receive (Except.ok none : Except Failure (Option Fields)).toOption.join = x from rfl,
      Scene.put_self hx]
    exact .pure _
  | some fs => exact (does_update hx hk fs).leaves.contain _ _

theorem does_fillRules (repo : Repo) (i : GitHub.Issue) (hx : v.store.ticket? r = some x)
    (hk : x.key = .given k) :
    Does v (LabelRule.all.forM (fillIn r i repo)) (.ok ())
      (v.put r (LabelRule.all.foldl (filled repo i) x)) := by
  refine does_forM_put (fun x _ => x.key_receive _) (fun rule hr y hy hky => ?_) hx hk
  obtain ⟨o, ho⟩ := creationFields_eq_ok hr repo i.labelNames
  exact does_fillIn hy hky ho

theorem does_settleNew (hx : v.store.ticket? r = some x) (hk : x.key = .given k) :
    Does v (settleNew r i repo) (.ok ()) (v.put r (settled v.store.workflow repo i x)) := by
  have hclosed : Does v (closeNew r i repo) (.ok ()) (v.put r (closedIf v.store.workflow repo i x)) := by
    unfold closeNew closedIf
    split
    · exact (does_transitions (steps repo done) hx hk).leaves.contain _ _
    · rw [Scene.put_self hx]
      exact .pure _
  have hkey : (closedIf v.store.workflow repo i x).key = .given k := by
    rw [closedIf_eq]
    exact (x.key_receive _).trans hk
  have hrules := does_fillRules repo i (Scene.ticket?_put_self hx _) hkey
  rw [Scene.put_put] at hrules
  exact hclosed.bind hrules

theorem does_warnUnmapped (b : Bridge) (i : GitHub.Issue) : Does v (b.warnUnmapped i) (.ok ()) v := by
  unfold warnUnmapped
  split
  · exact .say _ _
  · exact .pure _

/-- The first attempt to create a ticket is served, so that there is no second. -/
theorem does_createTicket (v : Scene) (fs : Fields) :
    Does v (createTicket fs) (.ok v.store.tickets.length) (v.create fs) :=
  (does_create v fs).observe.bind (.pure _)

/-- The scene in which the counterpart of an issue was created and settled. -/
def created (b : Bridge) (repo : Repo) (i : GitHub.Issue) (d : String) (v : Scene) : Scene :=
  let fs := b.newFieldsOf i repo d
  (v.create fs).put v.store.tickets.length (settled v.store.workflow repo i (v.store.newTicket fs))

theorem does_opened (v : Scene) (repo : Repo) (hd : Logged.result (b.description i) = .ok d) :
    Does v (b.opened i repo) (.ok v.store.tickets.length) (v.create (b.newFieldsOf i repo d)) := by
  have hfields := Does.ofLogged (v := v) (b.blind_newFields i repo)
  rw [b.result_newFields, hd] at hfields
  exact hfields.bind (does_createTicket v _)

theorem does_createFromSource (v : Scene) (repo : Repo) (hd : Logged.result (b.description i) = .ok d) :
    Does v (b.createFromSource i repo) (.ok v.store.tickets.length) (b.created repo i d v) := by
  have hnew : (v.create (b.newFieldsOf i repo d)).store.ticket? v.store.tickets.length =
      some (v.store.newTicket (b.newFieldsOf i repo d)) := Store.ticket?_create ..
  exact (does_warnUnmapped b i).bind ((does_opened v repo hd).bind ((does_settleNew hnew rfl).bind (.pure _)))

theorem does_createFromSource_of_error {f : Failure} (v : Scene) (repo : Repo)
    (hd : Logged.result (b.description i) = .error f) :
    Does v (b.createFromSource i repo) (.error f) v := by
  have hfields := Does.ofLogged (v := v) (b.blind_newFields i repo)
  rw [b.result_newFields, hd] at hfields
  have hopened : Does v (b.opened i repo) (.error f) v := hfields.bind_error
  exact (does_warnUnmapped b i).bind hopened.bind_error

def ensured (b : Bridge) (repo : Repo) (i : GitHub.Issue) (v : Scene) : Scene :=
  match b.finds v.store repo.project i.id, Logged.result (b.description i) with
  | [], .ok d => b.created repo i d v
  | _, _ => v

theorem does_recordError (repository : String) (issue : Option Int) (f : Failure) :
    Does v (recordError repository issue f) (.ok ()) v :=
  .modifyTally _

theorem does_ensureTicket (v : Scene) (name : String) (repo : Repo) (i : GitHub.Issue) :
    Does v (b.ensureTicket name repo i) (.ok ()) (b.ensured repo i v) := by
  unfold ensured
  match hf : b.finds v.store repo.project i.id, hd : Logged.result (b.description i) with
  | [], .ok d =>
    exact (does_findIssue_of_nil hf).observe.bind
      ((does_createFromSource v repo hd).observe.bind (.modifyTally _))
  | [], .error f =>
    refine (does_findIssue_of_nil hf).observe.bind ?_
    refine (does_createFromSource_of_error v repo hd).observe.bind ?_
    exact (Does.say _ _).bind (does_recordError _ _ _)
  | [r], _ => exact (does_findIssue_of_sole hf).observe.bind (.pure _)
  | r :: r' :: refs, _ =>
    refine (does_findIssue_of_several hf).observe.bind ?_
    have hne : ∀ p n, ambiguity repo.project i.id (keys v.store (r :: r' :: refs)) ≠
        .issueNotFound p n := ambiguity_ne_issueNotFound _
    generalize ambiguity repo.project i.id (keys v.store (r :: r' :: refs)) = f at hne
    split
    · cases ‹Except.error f = .ok _›
    · rename_i p n heq
      exact absurd (Except.error.inj heq) (hne p n)
    · exact (Does.say _ _).bind (does_recordError _ _ _)

end Creating

end Bridge

end IssueBridge
