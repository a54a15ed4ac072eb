import IssueBridge.Proofs.Bridge.Event
import IssueBridge.Proofs.Bridge.Served

/-! # Events about issues that are served

When no call fails, an event about an issue that one ticket carries is handled without failure. It makes of
this ticket what its action asks for, and nothing else in the store changes.
-/

namespace IssueBridge

open Step Tracker

/-- Without failing calls the step has a result, and changes at most the fields `names` of the ticket. -/
def Serves {α : Type} (names : List String) (r : TicketRef) (x : Step α) : Prop :=
  ∀ v t k, v.store.ticket? r = some t → t.key = .given k →
    ∃ a y, Does v x (.ok a) (v.put r y) ∧ t.SameBut names y

namespace Serves

variable {α β : Type} {names : List String} {r : TicketRef} {x : Step α} {f : α → Step β}

theorem of_does (h : ∀ v, ∃ a, Does v x (.ok a) v) : Serves names r x := by
  intro v t _ ht _
  obtain ⟨a, hx⟩ := h v
  exact ⟨a, t, (Scene.put_self ht).symm ▸ hx, .refl ..⟩

theorem pure (a : α) : Serves names r (Pure.pure a : Step α) := of_does fun _ => ⟨a, .pure a⟩

theorem seq (hx : Serves names r x) (hf : ∀ a, Serves names r (f a)) : Serves names r (x >>= f) := by
  intro v t k ht hk
  obtain ⟨a, y, hdoes, hty⟩ := hx v t k ht hk
  obtain ⟨c, z, hdoes', hyz⟩ := hf a (v.put r y) y k (Scene.ticket?_put_self ht y) (hty.key.trans hk)
  rw [Scene.put_put] at hdoes'
  exact ⟨c, z, hdoes.bind hdoes', hty.trans hyz⟩

theorem view : Serves names r (Bridge.view r) := by
  intro v t _ ht _
  exact ⟨t, t, (Scene.put_self ht).symm ▸ Bridge.does_view ht, .refl ..⟩

theorem update {fs : Fields} (h : fs.map (·.1) ⊆ names) : Serves names r (Tracker.update r fs) := by
  intro v t _ ht hk
  exact ⟨(), _, does_update ht hk fs, t.sameBut_update h⟩

theorem discard (h : Serves names r x) : Serves names r (Functor.discard x) := by
  intro v t k ht hk
  obtain ⟨a, y, hdoes, hty⟩ := h v t k ht hk
  exact ⟨(), y, hdoes.discard, hty⟩

end Serves

namespace LabelRule

variable {r : TicketRef} {names : List String}

theorem Sends.serves {x : Step Bool} (h : Sends r x) : Serves fieldNames r x := by
  induction h with
  | nothing => exact .pure _
  | send h => exact .seq (.update h) fun _ => .pure true
  | look _ ih => exact .seq .view ih

theorem serves_runAll {rules : List LabelRule} {step : LabelRule → Step Unit}
    (h : ∀ rule ∈ rules, Serves names r (step rule)) : Serves names r (runAll rules step) := by
  have hfailures : ∀ v t k, v.store.ticket? r = some t → t.key = .given k →
      ∃ y, Does v (failures step rules) (.ok []) (v.put r y) ∧ t.SameBut names y := by
    induction rules with
    | nil =>
      intro v t _ ht _
      exact ⟨t, (Scene.put_self ht).symm ▸ .pure [], .refl ..⟩
    | cons rule rules ih =>
      intro v t k ht hk
      obtain ⟨_, y, hrule, hty⟩ := h rule List.mem_cons_self v t k ht hk
      obtain ⟨z, hrest, hyz⟩ := ih (fun q hq => h q (List.mem_cons_of_mem _ hq)) (v.put r y) y k
        (Scene.ticket?_put_self ht y) (hty.key.trans hk)
      rw [Scene.put_put] at hrest
      exact ⟨z, hrule.observe.bind hrest, hty.trans hyz⟩
  intro v t k ht hk
  obtain ⟨y, hdoes, hty⟩ := hfailures v t k ht hk
  exact ⟨(), y, hdoes.bind (.pure ()), hty⟩

end LabelRule

def IssueAction.transition? : IssueAction → Option String
  | .closed => some Bridge.done
  | .reopened => some Bridge.toDo
  | _ => none

namespace Bridge

variable {b : Bridge} {v : Scene} {repo : Repo} {i : GitHub.Issue} {r : TicketRef} {x y : Ticket} {k d : String}
  {a : IssueAction} {e : GitHub.IssueEvent} {workflow : Table String}

/-- The ticket `y` is what an event about the issue makes of the ticket `x`. -/
structure Becomes (b : Bridge) (workflow : Table String) (repo : Repo) (a : IssueAction) (i : GitHub.Issue)
    (x y : Ticket) : Prop where
  same : x.SameBut a.fields y
  status : y.fieldsGiven.get? "status" =
    ((a.transition?.bind fun name => arrival? workflow (steps repo name)).map Store.status).or
      (x.fieldsGiven.get? "status")
  text : a = .edited → y.fieldsGiven.get? "summary" = some (.str i.title) ∧
    ∃ d, Logged.result (b.description i) = .ok d ∧ y.fieldsGiven.get? "description" = some (.str d)

theorem Becomes.of_sameBut (h : x.SameBut a.fields y) (hs : "status" ∉ a.fields) (ha : a ≠ .edited) :
    b.Becomes workflow repo a i x y where
  same := h
  status := by
    have htransition : a.transition? = none := by
      cases a with
      | closed => exact absurd List.mem_cons_self hs
      | reopened => exact absurd List.mem_cons_self hs
      | _ => rfl
    rw [htransition, h.field _ hs]
    rfl
  text hedited := absurd hedited ha

theorem Becomes.of_moved {name : String} (ha : a.transition? = some name) (hfields : a.fields = ["status"])
    (x : Ticket) : b.Becomes workflow repo a i x (x.moved workflow (steps repo name)) where
  same := by
    rw [hfields, Ticket.moved_eq]
    exact x.sameBut_withStatus _
  status := by
    rw [ha, Ticket.moved_eq, Ticket.get?_status_withStatus]
    rfl
  text hedited := by
    rw [hedited] at ha
    cases ha

theorem Becomes.of_text (hd : Logged.result (b.description i) = .ok d) (x : Ticket) :
    b.Becomes workflow repo .edited i x (x.update (textFields i d)) where
  same := x.sameBut_update (List.Subset.refl _)
  status := (x.sameBut_update (List.Subset.refl _)).field "status" (by simp [textFields])
  text _ := ⟨(Fields.get?_set_of_ne (by decide : "summary" ≠ "description")).trans (Fields.get?_set_self ..),
    d, hd, Fields.get?_set_self ..⟩

section Finding

variable (hf : b.finds v.store repo.project i.id = [r])

include hf

theorem does_awaitIssue : Does v (b.awaitIssue repo.project i.id) (.ok r) v := by
  unfold awaitIssue
  cases b.settings.waitAttempts.toNat - 1 with
  | zero => exact does_findIssue_of_sole hf
  | succ left => exact (does_findIssue_of_sole hf).observe.bind (.pure r)

end Finding

section Handling

theorem serves_assignee? (b : Bridge) (login : String) (names : List String) (r : TicketRef) :
    Serves names r (ofLogged (b.assignee? login)) := by
  refine .of_does fun v => ⟨b.mappedUser login, ?_⟩
  rw [← b.result_assignee? login]
  exact .ofLogged (b.blind_assignee? login)

theorem serves_setAssignee (r : TicketRef) (user : Option String) :
    Serves ["assignee"] r (Tracker.setAssignee r user) :=
  .update (by simp [assigneeFields])

/-- Of what is found a step makes what its action asks for, if this is neither a status nor a text. -/
theorem does_served {find : Step TicketRef} {f : TicketRef → Step Unit} (hfind : Does v find (.ok r) v)
    (hf : Serves a.fields r (f r)) (hx : v.store.ticket? r = some x) (hk : x.key = .given k)
    (hs : "status" ∉ a.fields) (ha : a ≠ .edited) (b : Bridge) (repo : Repo) (i : GitHub.Issue) :
    ∃ y, Does v (find >>= f >>= fun _ => pure Touched.nothing) (.ok .nothing) (v.put r y) ∧
      b.Becomes v.store.workflow repo a i x y := by
  obtain ⟨_, y, hdoes, hxy⟩ := hf v x k hx hk
  exact ⟨y, (hfind.bind hdoes).bind (.pure _), .of_sameBut hxy hs ha⟩

/-- An event about an issue that one ticket carries makes of this ticket what its action asks for. -/
theorem does_handleIssue (ha : a ≠ .opened) (hf : b.finds v.store repo.project e.issue.id = [r])
    (hx : v.store.ticket? r = some x) (hk : x.key = .given k)
    (hd : a = .edited → ∃ d, Logged.result (b.description e.issue) = .ok d) :
    ∃ touched y, Does v (b.handleIssue a e repo) (.ok touched) (v.put r y) ∧
      b.Becomes v.store.workflow repo a e.issue x y := by
  have hfind := does_findIssue_of_sole hf
  have hawait := does_awaitIssue hf
  cases a with
  | opened => exact absurd rfl ha
  | closed =>
    have hmoved : Does v (b.closed e.issue repo) (.ok ()) _ :=
      hfind.bind (does_transitions (steps repo done) hx hk)
    exact ⟨_, _, hmoved.bind (.pure _), .of_moved rfl rfl x⟩
  | reopened =>
    have hmoved : Does v (b.reopened e.issue repo) (.ok ()) _ :=
      hfind.bind (does_transitions (steps repo toDo) hx hk)
    exact ⟨_, _, hmoved.bind (.pure _), .of_moved rfl rfl x⟩
  | edited =>
    obtain ⟨d, hd⟩ := hd rfl
    have hedited : Does v (b.edited e.issue repo) (.ok r) (v.put r (x.update (textFields e.issue d))) :=
      hfind.bind ((does_pushText hx hk hd).bind (.pure r))
    exact ⟨_, _, hedited.map Touched.ticket, .of_text hd x⟩
  | assigned =>
    refine ⟨_, does_served hawait (.seq (serves_assignee? b _ _ r) fun user => ?_) hx hk (by decide) (by decide) ..⟩
    cases user with
    | none => exact .pure _
    | some user => exact serves_setAssignee r user
  | unassigned =>
    refine ⟨_, does_served hawait (.seq (serves_assignee? b _ _ r) fun user => ?_) hx hk (by decide) (by decide) ..⟩
    cases user with
    | none => exact .pure _
    | some user =>
      refine .seq .view fun t => ?_
      split
      · exact serves_setAssignee r none
      · exact .pure _
  | labeled =>
    refine ⟨_, does_served hawait ?_ hx hk (by decide) (by decide) ..⟩
    cases e.label with
    | none => exact .of_does fun _ => ⟨(), .say _ _⟩
    | some label =>
      exact LabelRule.serves_runAll fun rule hr => (LabelRule.sends_apply r repo label.name rule hr).serves.discard
  | unlabeled =>
    refine ⟨_, does_served hfind ?_ hx hk (by decide) (by decide) ..⟩
    cases e.label with
    | none => exact .of_does fun _ => ⟨(), .say _ _⟩
    | some label =>
      exact LabelRule.serves_runAll fun rule hr => (LabelRule.sends_reset r repo label.name rule hr).serves.discard

end Handling

end Bridge

end IssueBridge
