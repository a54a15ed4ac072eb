import IssueBridge.Proofs.Tracker.Store

/-! # Steps of the workflow

Steps are taken in order and each known one sets the status. So where a list of steps takes a ticket
depends only on the last known step, and taking the list again changes nothing.
-/

namespace IssueBridge

namespace Tracker

/-- The category that a list of steps leads to, if one of the steps is known. -/
def arrival? (workflow : Table String) (steps : List String) : Option String :=
  (steps.filterMap (List.lookup · workflow)).getLast?

theorem arrival?_cons (workflow : Table String) (step : String) (steps : List String) :
    arrival? workflow (step :: steps) = (arrival? workflow steps).or (workflow.lookup step) := by
  unfold arrival?
  rw [List.filterMap_cons]
  cases workflow.lookup step with
  | none => rw [Option.or_none]
  | some category =>
    rw [List.getLast?_cons]
    cases (steps.filterMap (List.lookup · workflow)).getLast? <;> rfl

namespace Ticket

variable {workflow : Table String} {x y : Ticket}

def receive (x : Ticket) : Option Fields → Ticket
  | some fs => x.update fs
  | none => x

def withStatus (x : Ticket) (category : Option String) : Ticket :=
  x.receive (category.map fun c => [("status", Store.status c)])

def moved (workflow : Table String) (x : Ticket) (steps : List String) : Ticket :=
  steps.foldl (fun x step => x.withStatus (workflow.lookup step)) x

@[simp]
theorem key_receive (x : Ticket) (o : Option Fields) : (x.receive o).key = x.key := by
  cases o <;> rfl

theorem sameBut_receive {names : List String} (x : Ticket) {o : Option Fields}
    (h : ∀ fs ∈ o, fs.map (·.1) ⊆ names) : SameBut names x (x.receive o) := by
  cases o with
  | none => exact .refl ..
  | some fs => exact x.sameBut_update (h fs rfl)

theorem sameBut_withStatus (x : Ticket) (category : Option String) :
    SameBut ["status"] x (x.withStatus category) := by
  refine x.sameBut_receive fun fs hfs => ?_
  obtain ⟨c, -, rfl⟩ := Option.map_eq_some_iff.mp hfs
  exact List.Subset.refl _

theorem withStatus_withStatus (x : Ticket) (a b : Option String) :
    (x.withStatus a).withStatus b = x.withStatus (b.or a) := by
  cases b with
  | none => rfl
  | some c =>
    cases a with
    | none => rfl
    | some c' => simp [withStatus, receive, update, fieldsGiven, Fields.overlay, Part.get?, Fields.set_set]

theorem moved_eq (workflow : Table String) (x : Ticket) (steps : List String) :
    x.moved workflow steps = x.withStatus (arrival? workflow steps) := by
  unfold moved
  induction steps generalizing x with
  | nil => rfl
  | cons step steps ih => rw [List.foldl_cons, ih, withStatus_withStatus, arrival?_cons]

theorem get?_status_withStatus (x : Ticket) (category : Option String) :
    (x.withStatus category).fieldsGiven.get? "status" =
      (category.map Store.status).or (x.fieldsGiven.get? "status") := by
  cases category with
  | none => rfl
  | some c => exact Fields.get?_set_self ..

theorem statusCategory_of_get? {category : String}
    (h : x.fieldsGiven.get? "status" = some (Store.status category)) :
    x.statusCategory = .str category := by
  unfold statusCategory field
  rw [h]
  rfl

theorem SameBut.statusCategory {names : List String} (h : SameBut names x y) (hn : "status" ∉ names) :
    y.statusCategory = x.statusCategory := by
  simp only [Ticket.statusCategory, Ticket.field, h.field _ hn]

theorem SameBut.issueType {names : List String} (h : SameBut names x y) (hn : "issuetype" ∉ names) :
    y.issueType = x.issueType := by
  simp only [Ticket.issueType, fieldMember, Ticket.field, h.field _ hn]

theorem update_of_get? {fs : Fields} (hne : fs ≠ [])
    (h : ∀ p ∈ fs, x.fieldsGiven.get? p.1 = some p.2) : x.update fs = x := by
  have hoverlay : ∀ fs : Fields, (∀ p ∈ fs, x.fieldsGiven.get? p.1 = some p.2) →
      x.fieldsGiven.overlay fs = x.fieldsGiven := by
    intro fs
    induction fs with
    | nil => exact fun _ => rfl
    | cons p fs ih =>
      intro h
      show Fields.overlay (x.fieldsGiven.set p.1 p.2) fs = _
      rw [Fields.set_of_get? (h p List.mem_cons_self)]
      exact ih fun q hq => h q (List.mem_cons_of_mem _ hq)
  obtain ⟨p, hp⟩ := List.exists_mem_of_ne_nil fs hne
  have hgiven : x.fields = .given x.fieldsGiven := by
    have hget := h p hp
    unfold fieldsGiven at hget ⊢
    cases hf : x.fields with
    | given f => rfl
    | missing => rw [hf] at hget; cases hget
    | null => rw [hf] at hget; cases hget
  unfold update
  rw [hoverlay fs h, ← hgiven]

theorem withStatus_of_get? {category : Option String}
    (h : ∀ c ∈ category, x.fieldsGiven.get? "status" = some (Store.status c)) :
    x.withStatus category = x := by
  cases category with
  | none => rfl
  | some c =>
    refine update_of_get? (List.cons_ne_nil _ _) fun p hp => ?_
    rw [List.mem_singleton.mp hp]
    exact h c rfl

end Ticket

theorem Store.transition_eq_put {s : Store} {r : TicketRef} {x : Ticket} (h : s.ticket? r = some x)
    (step : String) : s.transition r step = s.put r (x.withStatus (s.workflow.lookup step)) := by
  unfold Store.transition
  cases s.workflow.lookup step with
  | some category => exact update_eq_put h _
  | none => exact (put_self h).symm

end Tracker

end IssueBridge
