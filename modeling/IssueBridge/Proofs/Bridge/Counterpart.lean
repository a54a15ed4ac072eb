import IssueBridge.Bridge.Reconcile
import IssueBridge.Proofs.Bridge.Find
import IssueBridge.Proofs.Step.Composed

/-! # Steps on one ticket

What the handlers and a pass do to a ticket that they found: they change some of its fields or its
comments, and nothing of any other ticket. This holds wherever a failure cuts them off.
-/

namespace IssueBridge

open Step Tracker

/-- The store may differ in the fields `names` of the tickets in `T` and in the threads in `D`. -/
def Frame.alters (names : List String) (T : TicketRef → Prop) (D : ThreadId → Prop) : Frame where
  rel v w := v.store.Alters names T D w.store ∧ Frame.surroundings.rel v w
  trans h h' := ⟨h.1.trans h'.1, Frame.surroundings.trans h.2 h'.2⟩
  noted h := ⟨h.store ▸ .refl _, Frame.surroundings.noted h⟩

variable {names : List String} {T : TicketRef → Prop} {D : ThreadId → Prop} {r : TicketRef}
  {thread : ThreadId}

theorem Step.Applies.keepsAlters {α : Type} {g : Store → Store} {x : Step α} (h : Applies g x)
    (hg : ∀ s : Store, s.Alters names T D (g s)) : Keeps (.alters names T D) x :=
  h.keeps fun w => ⟨hg w.store, rfl, rfl, rfl⟩

namespace Tracker

theorem keeps_comments (thread : ThreadId) : Keeps (.alters names T D) (comments thread) :=
  (applies_comments thread).keepsAlters fun s => .comments s thread

theorem keeps_addComment (body : String) (hD : D thread) :
    Keeps (.alters names T D) (addComment thread body) :=
  (applies_addComment thread body).keepsAlters fun s => .addComment s thread body hD

theorem keeps_updateComment {c : CommentRef} (body : String) (hD : D c.thread) :
    Keeps (.alters names T D) (updateComment c body) :=
  (applies_updateComment c body).keepsAlters fun s => .updateComment s c body hD

theorem keeps_deleteComment {c : CommentRef} (hD : D c.thread) :
    Keeps (.alters names T D) (deleteComment c) :=
  (applies_deleteComment c).keepsAlters fun s => .deleteComment s c hD

end Tracker

/-- The operations on one ticket: it is looked at, and some of its fields are changed. -/
inductive Edits (names : List String) (r : TicketRef) : ∀ α : Type, Step α → Prop
  | view : Edits names r _ (Bridge.view r)
  | update {fs : Fields} (h : fs.map (·.1) ⊆ names) : Edits names r _ (update r fs)
  | transition (step : String) (h : "status" ∈ names) : Edits names r _ (transition r step)

abbrev Editing (names : List String) (r : TicketRef) {α : Type} (x : Step α) : Prop :=
  Composed (Edits names r) x

/-- The frame lets some fields of a ticket be changed. -/
def Frame.Admits (F : Frame) (names : List String) (r : TicketRef) : Prop :=
  ∀ (w : World) (fs : Fields), fs.map (·.1) ⊆ names → F.rel w { w with store := w.store.update r fs }

theorem Frame.Admits.alters (hT : T r) : (Frame.alters names T D).Admits names r := fun w _ h =>
  ⟨.update w.store r h hT, rfl, rfl, rfl⟩

theorem silent_view (r : TicketRef) : Silent (Bridge.view r) := .bind .get fun _ => .pure _

namespace Edits

variable {α : Type} {names' : List String} {F : Frame} {x : Step α}

theorem mono (h : Edits names r α x) (hn : names ⊆ names') : Edits names' r α x := by
  cases h with
  | view => exact .view
  | update h => exact .update (List.Subset.trans h hn)
  | transition step h => exact .transition step (hn h)

theorem keeps (h : Edits names r α x) (hF : F.Admits names r) : Keeps F x := by
  cases h with
  | view => exact (silent_view r).keeps
  | @update fs h => exact (applies_update r fs).keeps fun w => hF w fs h
  | transition step h =>
    refine (applies_transition r step).keeps fun w => ?_
    unfold Store.transition
    split
    · exact hF w _ (by simpa using h)
    · exact F.refl w

end Edits

theorem Editing.keeps {α : Type} {F : Frame} {x : Step α} (h : Editing names r x)
    (hF : F.Admits names r) : Keeps F x :=
  Composed.keeps h fun _ _ he => he.keeps hF

theorem Editing.alters {α : Type} {x : Step α} (h : Editing names r x) :
    Keeps (.alters names (· = r) D) x :=
  h.keeps (.alters rfl)

theorem Editing.mono {α : Type} {names' : List String} {x : Step α} (h : Editing names r x)
    (hn : names ⊆ names') : Editing names' r x :=
  Composed.mono h fun _ _ he => he.mono hn

theorem editing_setAssignee (user : Option String) (h : "assignee" ∈ names) :
    Editing names r (setAssignee r user) :=
  .base (.update (by simpa [assigneeFields] using h))

namespace LabelRule

def fieldNames : List String := ["issuetype", "components"]

theorem typeFields_names (type : String) : (typeFields type).map (·.1) ⊆ fieldNames := by
  simp [typeFields, fieldNames]

theorem componentFields_names (components : List Value) :
    (componentFields components).map (·.1) ⊆ fieldNames := by
  simp [componentFields, fieldNames]

/-- What a rule may do with a ticket: it looks at it, and sends fields that rules set, or nothing. -/
inductive Sends (r : TicketRef) : Step Bool → Prop
  | nothing : Sends r (return false)
  | send {fs : Fields} (h : fs.map (·.1) ⊆ fieldNames) : Sends r (send r fs)
  | look {f : Ticket → Step Bool} (h : ∀ t, Sends r (f t)) : Sends r (Bridge.view r >>= f)

theorem Sends.editing {x : Step Bool} (h : Sends r x) : Editing fieldNames r x := by
  induction h with
  | nothing => exact .pure _
  | send h => exact .seq (.base (.update h)) fun _ => .pure _
  | look _ ih => exact .seq (.base .view) ih

theorem sends_mapped {f : String → Ticket → Step Bool} (h : ∀ name t, Sends r (f name t)) :
    ∀ o : Option String, Sends r (match o with
      | none => return false
      | some name => do f name (← Bridge.view r))
  | none => .nothing
  | some name => .look (h name)

theorem sends_apply (r : TicketRef) (repo : Repo) (label : String) :
    ∀ rule ∈ all, Sends r (rule.apply r repo label) := by
  intro rule hr
  rcases mem_all_iff.mp hr with rfl | rfl
  · refine sends_mapped (fun type t => ?_) _
    split
    · exact .nothing
    · exact .send (typeFields_names _)
  · refine sends_mapped (fun name t => ?_) _
    split
    · exact .nothing
    · exact .send (componentFields_names _)

theorem sends_reset (r : TicketRef) (repo : Repo) (label : String) :
    ∀ rule ∈ all, Sends r (rule.reset r repo label) := by
  intro rule hr
  rcases mem_all_iff.mp hr with rfl | rfl
  · refine sends_mapped (fun type t => ?_) _
    split
    · exact .send (typeFields_names _)
    · exact .nothing
  · refine sends_mapped (fun name t => ?_) _
    dsimp only
    split
    · exact .send (componentFields_names _)
    · exact .nothing

section Running

variable {P : ∀ α : Type, Step α → Prop} {step : LabelRule → Step Unit}

theorem composed_failures : ∀ {rules : List LabelRule}, (∀ rule ∈ rules, Composed P (step rule)) →
    Composed P (failures step rules)
  | [], _ => .pure _
  | rule :: rules, h => by
    have hrest : Composed P (failures step rules) :=
      composed_failures fun q hq => h q (List.mem_cons_of_mem _ hq)
    refine .seq (.observe (h rule List.mem_cons_self)) fun o => ?_
    match o with
    | .ok () => exact hrest
    | .error f => exact .seq (.say _ _) fun _ => .seq hrest fun _ => .pure _

theorem composed_runAll {rules : List LabelRule} (h : ∀ rule ∈ rules, Composed P (step rule)) :
    Composed P (runAll rules step) :=
  .seq (composed_failures h) fun fs => by
    cases fs with
    | nil => exact .pure _
    | cons f fs => exact .throw _

end Running

end LabelRule

namespace Bridge

variable {b : Bridge} {i : GitHub.Issue} {repo : Repo}

theorem editing_runTransitions (h : "status" ∈ names) (name : String) :
    Editing names r (runTransitions r repo name) :=
  .forM fun step _ => .base (.transition step h)

theorem editing_closeNew (h : "status" ∈ names) : Editing names r (closeNew r i repo) := by
  unfold closeNew
  split
  · exact .contain (editing_runTransitions h done) _ _
  · exact .pure _

theorem creationFields_names {labels : List String} {fs : Fields} :
    ∀ rule ∈ LabelRule.all, rule.creationFields repo labels = .ok (some fs) →
      fs.map (·.1) ⊆ LabelRule.fieldNames := by
  intro rule hr h
  rcases LabelRule.mem_all_iff.mp hr with rfl | rfl
  · obtain ⟨type, -, rfl⟩ := Option.map_eq_some_iff.mp (Except.ok.inj h)
    exact LabelRule.typeFields_names type
  · unfold LabelRule.component at h
    dsimp only at h
    split at h
    · cases h
    · cases h
      exact LabelRule.componentFields_names _

theorem reconcileFields_names {t : Ticket} {labels : List String} {fs : Fields} :
    ∀ rule ∈ LabelRule.all, rule.reconcileFields t repo labels = .ok (some fs) →
      fs.map (·.1) ⊆ LabelRule.fieldNames := by
  intro rule hr h
  rcases LabelRule.mem_all_iff.mp hr with rfl | rfl
  · unfold LabelRule.issueType at h
    dsimp only at h
    split at h
    · cases h
      exact LabelRule.typeFields_names _
    · split at h <;> cases h
      exact LabelRule.typeFields_names _
  · cases h
    exact LabelRule.componentFields_names _

theorem fieldNames_subset_mirrored : LabelRule.fieldNames ⊆ mirrored := by decide

theorem editing_fillIn : ∀ rule ∈ LabelRule.all, Editing mirrored r (fillIn r i repo rule) := by
  intro rule hr
  refine .bind (.ofExcept _) ?_
  rintro o ⟨w, ho⟩
  rw [outcome_ofExcept] at ho
  match o with
  | none => exact .pure _
  | some fs =>
    have hn := List.Subset.trans (creationFields_names rule hr ho) fieldNames_subset_mirrored
    exact .contain (.base (.update hn)) _ _

theorem editing_pushRule : ∀ rule ∈ LabelRule.all, Editing mirrored r (pushRule r i repo rule) := by
  intro rule hr
  refine .seq (.base .view) fun t => .bind (.ofExcept _) ?_
  rintro o ⟨w, ho⟩
  rw [outcome_ofExcept] at ho
  match o with
  | none => exact .pure _
  | some fs =>
    have hn := List.Subset.trans (reconcileFields_names rule hr ho) fieldNames_subset_mirrored
    exact .contain (.base (.update hn)) _ _

def textNames : List String := ["summary", "description"]

theorem editing_pushText (b : Bridge) (r : TicketRef) (i : GitHub.Issue) :
    Editing textNames r (b.pushText r i) := by
  refine .bind (.ofLogged (b.blind_updatedFields i)) ?_
  rintro fs ⟨w, hfs⟩
  rw [outcome_ofLogged (b.blind_updatedFields i), b.result_updatedFields] at hfs
  cases hd : Logged.result (b.description i) with
  | error f =>
    rw [hd] at hfs
    cases hfs
  | ok d =>
    rw [hd] at hfs
    cases hfs
    exact .base (.update (List.Subset.refl _))

theorem editing_pushAssignee (h : "assignee" ∈ names) : Editing names r (b.pushAssignee r i) :=
  .seq (.ofLogged (b.blind_assignee? _)) fun user => .contain (editing_setAssignee user h) _ _

theorem editing_pushStatus (h : "status" ∈ names) : Editing names r (pushStatus r i repo) :=
  .seq (.base .view) fun t => by
    cases wantedTransition i.state t.statusCategory with
    | none => exact .pure _
    | some name => exact .contain (editing_runTransitions h name) _ _

theorem editing_updateFromSource (b : Bridge) (r : TicketRef) (i : GitHub.Issue) (repo : Repo) :
    Editing mirrored r (b.updateFromSource r i repo) :=
  .seq ((editing_pushText b r i).mono (by decide)) fun _ =>
    .seq (editing_pushAssignee (by decide)) fun _ =>
      .seq (editing_pushStatus (by decide)) fun _ => .forM editing_pushRule

theorem editing_settleNew (r : TicketRef) (i : GitHub.Issue) (repo : Repo) :
    Editing mirrored r (settleNew r i repo) :=
  .seq (editing_closeNew (by decide)) fun _ => .forM editing_fillIn

end Bridge

end IssueBridge
