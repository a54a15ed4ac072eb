import IssueBridge.Bridge.Reconcile
import IssueBridge.Proofs.Bridge.Find
import IssueBridge.Proofs.Tracker.Served

/-! # A ticket that is brought up to date

What a pass makes of a ticket, when no call fails, is a function of the ticket and its issue. After it
the ticket mirrors the issue, and a ticket that mirrors its issue is left as it is.
-/

namespace IssueBridge

open Step Tracker

namespace Bridge

section Functions

variable (b : Bridge) (workflow : Table String) (repo : Repo) (i : GitHub.Issue)

def steps (repo : Repo) (name : String) : List String := (repo.transitions.lookup name).getD []

def typesOf (repo : Repo) (i : GitHub.Issue) : List String :=
  LabelRule.mapped repo.issueTypeOf i.labelNames

/-- The components that the labels of an issue are mapped to, or those of the repository. -/
def componentsOf (repo : Repo) (i : GitHub.Issue) : List String :=
  match LabelRule.mapped repo.componentOf i.labelNames with
  | [] => repo.components
  | names => names

def textFields (i : GitHub.Issue) (description : String) : Fields :=
  [("summary", .str i.title), ("description", .str description)]

/-- Fills in what a rule finds in the labels of a new ticket's issue. -/
def filled (x : Ticket) (rule : LabelRule) : Ticket :=
  x.receive (rule.creationFields repo i.labelNames).toOption.join

def closedIf (x : Ticket) : Ticket :=
  if i.state = "closed" then x.moved workflow (steps repo done) else x

def settled (x : Ticket) : Ticket := LabelRule.all.foldl (filled repo i) (closedIf workflow repo i x)

def placed (x : Ticket) : Ticket :=
  match wantedTransition i.state x.statusCategory with
  | some name => x.moved workflow (steps repo name)
  | none => x

def pushed (x : Ticket) (rule : LabelRule) : Ticket :=
  x.receive (rule.reconcileFields x repo i.labelNames).toOption.join

def briefed (description : String) (x : Ticket) : Ticket :=
  (x.update (textFields i description)).update (assigneeFields (b.mappedUser i.assigneeLogin))

def adjusted (x : Ticket) : Ticket := LabelRule.all.foldl (pushed repo i) (placed workflow repo i x)

/-- A ticket that was brought up to date with its issue, whose description is given. -/
def refreshed (description : String) (x : Ticket) : Ticket :=
  adjusted workflow repo i (b.briefed i description x)

/-- The fields of the ticket are those that its issue asks for, as far as the workflow leads. -/
structure Mirrors (description : String) (y : Ticket) : Prop where
  summary : y.fieldsGiven.get? "summary" = some (.str i.title)
  description : y.fieldsGiven.get? "description" = some (.str description)
  assignee : y.fieldsGiven.get? "assignee" =
    some (match (b.mappedUser i.assigneeLogin).getD "" with
      | "" => .null
      | user => named user)
  components : y.fieldsGiven.get? "components" = some (allNamed (componentsOf repo i))
  defaultType : typesOf repo i = [] → y.fieldsGiven.get? "issuetype" = some (named repo.issueType)
  mappedType : typesOf repo i ≠ [] → (typesOf repo i).any y.issueType.isText
  status : ∀ name category, wantedTransition i.state y.statusCategory = some name →
    arrival? workflow (steps repo name) = some category →
    y.fieldsGiven.get? "status" = some (Store.status category)

/-- How the ticket `y` came from the ticket `x`: a type that a label is mapped to is kept, the status
is changed only where the state of the issue wants it, and what is not mirrored stays. -/
structure Follows (x y : Ticket) : Prop where
  same : x.SameBut mirrored y
  keptType : (typesOf repo i).any x.issueType.isText →
    y.fieldsGiven.get? "issuetype" = x.fieldsGiven.get? "issuetype"
  newType : ¬ (typesOf repo i).any x.issueType.isText →
    y.fieldsGiven.get? "issuetype" = some (named ((typesOf repo i).headD repo.issueType))
  status : y.fieldsGiven.get? "status" =
    (((wantedTransition i.state x.statusCategory).bind fun name =>
      arrival? workflow (steps repo name)).map Store.status).or (x.fieldsGiven.get? "status")

/-- How the ticket `y` came from the new ticket `x`: it has the type that the first mapped label asks
for, and it is closed if its issue is, as far as the workflow leads. -/
structure Starts (x y : Ticket) : Prop where
  same : x.SameBut mirrored y
  newType : y.fieldsGiven.get? "issuetype" = some (named ((typesOf repo i).headD repo.issueType))
  status : y.fieldsGiven.get? "status" = some (Store.status
    (if i.state = "closed" then (arrival? workflow (steps repo done)).getD "To Do" else "To Do"))

end Functions

variable (b : Bridge) (workflow : Table String) (repo : Repo) (i : GitHub.Issue) (d : String)
  (x : Ticket) {y : Ticket}

section Stages

theorem sameBut_placed : x.SameBut ["status"] (placed workflow repo i x) := by
  unfold placed
  split
  · rw [Ticket.moved_eq]
    exact x.sameBut_withStatus _
  · exact .refl ..

theorem get?_status_placed : (placed workflow repo i x).fieldsGiven.get? "status" =
    (((wantedTransition i.state x.statusCategory).bind fun name =>
      arrival? workflow (steps repo name)).map Store.status).or (x.fieldsGiven.get? "status") := by
  unfold placed
  cases wantedTransition i.state x.statusCategory with
  | none => rfl
  | some name =>
    dsimp only
    rw [Ticket.moved_eq, Ticket.get?_status_withStatus, Option.bind_some]

/-- The type changes to the default if no label is mapped, and to the first mapped type unless the
ticket has another of them. -/
theorem pushed_issueType : pushed repo i x LabelRule.issueType =
    if (typesOf repo i).any x.issueType.isText then x
    else x.update [("issuetype", named ((typesOf repo i).headD repo.issueType))] := by
  unfold pushed typesOf LabelRule.issueType
  dsimp only
  cases LabelRule.mapped repo.issueTypeOf i.labelNames with
  | nil => rfl
  | cons type types =>
    dsimp only
    by_cases h : (type :: types).any x.issueType.isText
    · rw [if_pos h, if_pos h]
      rfl
    · rw [if_neg h, if_neg h]
      rfl

theorem sameBut_pushed_issueType :
    x.SameBut ["issuetype"] (pushed repo i x LabelRule.issueType) := by
  rw [pushed_issueType]
  split
  · exact .refl ..
  · exact x.sameBut_update (List.Subset.refl _)

theorem pushed_component : pushed repo i x LabelRule.component =
    x.update [("components", allNamed (componentsOf repo i))] := by
  unfold pushed LabelRule.component LabelRule.componentFields componentsOf allNamed
  simp only [Except.toOption, Option.join_some, Ticket.receive, List.map_map]
  rfl

theorem sameBut_pushed_component :
    x.SameBut ["components"] (pushed repo i x LabelRule.component) := by
  rw [pushed_component]
  exact x.sameBut_update (List.Subset.refl _)

theorem sameBut_briefed :
    x.SameBut ["summary", "description", "assignee"] (b.briefed i d x) := by
  have htext : x.SameBut ["summary", "description"] (x.update (textFields i d)) :=
    x.sameBut_update (List.Subset.refl _)
  exact (htext.mono (by simp)).trans (Ticket.sameBut_update _ (by simp [assigneeFields]))

theorem sameBut_adjusted :
    x.SameBut ["status", "issuetype", "components"] (adjusted workflow repo i x) := by
  have hstatus := sameBut_placed workflow repo i x
  have htype := sameBut_pushed_issueType repo i (placed workflow repo i x)
  have hcomponents := sameBut_pushed_component repo i
    (pushed repo i (placed workflow repo i x) LabelRule.issueType)
  exact (hstatus.mono (by simp)).trans ((htype.mono (by simp)).trans (hcomponents.mono (by simp)))

theorem get?_issueType_adjusted :
    (adjusted workflow repo i x).fieldsGiven.get? "issuetype" =
      if (typesOf repo i).any x.issueType.isText then x.fieldsGiven.get? "issuetype"
      else some (named ((typesOf repo i).headD repo.issueType)) := by
  have hstatus := sameBut_placed workflow repo i x
  refine ((sameBut_pushed_component ..).field _ (by decide)).trans ?_
  rw [pushed_issueType, hstatus.issueType (by decide)]
  split
  · exact hstatus.field _ (by decide)
  · exact Fields.get?_set_self ..

theorem get?_status_adjusted :
    (adjusted workflow repo i x).fieldsGiven.get? "status" =
      (((wantedTransition i.state x.statusCategory).bind fun name =>
        arrival? workflow (steps repo name)).map Store.status).or (x.fieldsGiven.get? "status") := by
  refine ((sameBut_pushed_component ..).field _ (by decide)).trans ?_
  exact ((sameBut_pushed_issueType ..).field _ (by decide)).trans (get?_status_placed ..)

theorem get?_components_adjusted :
    (adjusted workflow repo i x).fieldsGiven.get? "components" =
      some (allNamed (componentsOf repo i)) := by
  have hlast := pushed_component repo i
    (pushed repo i (placed workflow repo i x) LabelRule.issueType)
  exact (congrArg (fun y : Ticket => y.fieldsGiven.get? "components") hlast).trans
    (Fields.get?_set_self ..)

end Stages

/-- The state of an issue wants no other transition once the wanted one was made. -/
theorem wantedTransition_unique {state name name' : String} {category category' : Value}
    (h : wantedTransition state category = some name)
    (h' : wantedTransition state category' = some name') : name = name' := by
  unfold wantedTransition at h h'
  by_cases hc : state = "closed"
  · subst hc
    simp only [String.reduceEq, false_and, if_false] at h h'
    rcases Option.ite_none_right_eq_some.mp h with ⟨-, hn⟩
    rcases Option.ite_none_right_eq_some.mp h' with ⟨-, hn'⟩
    exact (Option.some.inj hn).symm.trans (Option.some.inj hn')
  · simp only [hc, false_and, if_false] at h h'
    rcases Option.ite_none_right_eq_some.mp h with ⟨-, hn⟩
    rcases Option.ite_none_right_eq_some.mp h' with ⟨-, hn'⟩
    exact (Option.some.inj hn).symm.trans (Option.some.inj hn')

section Adjusted

theorem issueType_of_get? {type : String} (h : y.fieldsGiven.get? "issuetype" = some (named type)) :
    y.issueType = .str type := by
  unfold Ticket.issueType Ticket.fieldMember Ticket.field
  rw [h]
  rfl

theorem mappedType_adjusted (h : typesOf repo i ≠ []) :
    (typesOf repo i).any (adjusted workflow repo i x).issueType.isText := by
  have htype := get?_issueType_adjusted workflow repo i x
  split at htype
  · rename_i hkept
    have hsame : (adjusted workflow repo i x).issueType = x.issueType := by
      unfold Ticket.issueType Ticket.fieldMember Ticket.field
      rw [htype]
    rw [hsame]
    exact hkept
  · rw [issueType_of_get? htype]
    cases htypes : typesOf repo i with
    | nil => exact absurd htypes h
    | cons type types => simp [Value.isText]

/-- Where a transition is still wanted, the ticket is where this transition leads. -/
theorem status_adjusted {name category : String}
    (hwanted : wantedTransition i.state (adjusted workflow repo i x).statusCategory = some name)
    (harrival : arrival? workflow (steps repo name) = some category) :
    (adjusted workflow repo i x).fieldsGiven.get? "status" = some (Store.status category) := by
  have hstatus := get?_status_adjusted workflow repo i x
  cases hbefore : wantedTransition i.state x.statusCategory with
  | none =>
    -- The status stayed, so that no transition is wanted after all.
    have hsame : (adjusted workflow repo i x).statusCategory = x.statusCategory := by
      rw [hbefore] at hstatus
      unfold Ticket.statusCategory Ticket.field
      rw [hstatus]
      rfl
    rw [hsame, hbefore] at hwanted
    cases hwanted
  | some name' =>
    have hname := wantedTransition_unique hbefore hwanted
    subst hname
    rw [hstatus, hbefore, Option.bind_some, harrival]
    rfl

end Adjusted

section Refreshed

theorem follows_refreshed :
    Follows workflow repo i x (b.refreshed workflow repo i d x) := by
  have hbrief := sameBut_briefed b i d x
  have htype := hbrief.issueType (by decide)
  constructor
  case same =>
    exact (hbrief.mono (by simp [mirrored])).trans ((sameBut_adjusted ..).mono (by simp [mirrored]))
  case keptType =>
    intro h
    rw [refreshed, get?_issueType_adjusted, htype, if_pos h]
    exact hbrief.field _ (by decide)
  case newType =>
    intro h
    rw [refreshed, get?_issueType_adjusted, htype, if_neg h]
  case status =>
    rw [refreshed, get?_status_adjusted, hbrief.statusCategory (by decide), hbrief.field _ (by decide)]

theorem mirrors_refreshed :
    b.Mirrors workflow repo i d (b.refreshed workflow repo i d x) := by
  have hadjust := sameBut_adjusted workflow repo i (b.briefed i d x)
  have hassign : (x.update (textFields i d)).SameBut ["assignee"] (b.briefed i d x) :=
    Ticket.sameBut_update _ (by simp [assigneeFields])
  constructor
  case summary =>
    refine (hadjust.field _ (by decide)).trans ((hassign.field _ (by decide)).trans ?_)
    exact (Fields.get?_set_of_ne (by decide : "summary" ≠ "description")).trans (Fields.get?_set_self ..)
  case description =>
    refine (hadjust.field _ (by decide)).trans ((hassign.field _ (by decide)).trans ?_)
    exact Fields.get?_set_self ..
  case assignee =>
    exact (hadjust.field _ (by decide)).trans (Fields.get?_set_self ..)
  case components => exact get?_components_adjusted ..
  case defaultType =>
    intro htypes
    rw [refreshed, get?_issueType_adjusted, htypes]
    rfl
  case mappedType => exact fun htypes => mappedType_adjusted _ _ _ _ htypes
  case status => exact fun _ _ hwanted harrival => status_adjusted _ _ _ _ hwanted harrival

theorem refreshed_of_mirrors (h : b.Mirrors workflow repo i d y) :
    b.refreshed workflow repo i d y = y := by
  have htext : y.update (textFields i d) = y := by
    refine Ticket.update_of_get? (List.cons_ne_nil _ _) fun p hp => ?_
    rcases List.mem_cons.mp hp with rfl | hp
    · exact h.summary
    · rw [List.mem_singleton.mp hp]
      exact h.description
  have hassign : y.update (assigneeFields (b.mappedUser i.assigneeLogin)) = y := by
    refine Ticket.update_of_get? (List.cons_ne_nil _ _) fun p hp => ?_
    rw [List.mem_singleton.mp hp]
    exact h.assignee
  have hplaced : placed workflow repo i y = y := by
    unfold placed
    cases hwanted : wantedTransition i.state y.statusCategory with
    | none => rfl
    | some name =>
      dsimp only
      rw [Ticket.moved_eq]
      exact Ticket.withStatus_of_get? fun category hc => h.status name category hwanted hc
  have htype : pushed repo i y LabelRule.issueType = y := by
    rw [pushed_issueType]
    split
    · rfl
    · rename_i hany
      have hnil : typesOf repo i = [] := by
        by_contra hne
        exact hany (h.mappedType hne)
      refine Ticket.update_of_get? (List.cons_ne_nil _ _) fun p hp => ?_
      rw [List.mem_singleton.mp hp, hnil]
      exact h.defaultType hnil
  have hcomponents : pushed repo i y LabelRule.component = y := by
    rw [pushed_component]
    refine Ticket.update_of_get? (List.cons_ne_nil _ _) fun p hp => ?_
    rw [List.mem_singleton.mp hp]
    exact h.components
  unfold refreshed briefed adjusted LabelRule.all
  rw [htext, hassign, hplaced, List.foldl_cons, htype, List.foldl_cons, hcomponents, List.foldl_nil]

end Refreshed

section Settled

theorem closedIf_eq : closedIf workflow repo i x =
    x.withStatus (if i.state = "closed" then arrival? workflow (steps repo done) else none) := by
  unfold closedIf
  split
  · exact Ticket.moved_eq ..
  · rfl

theorem sameBut_filled_issueType :
    x.SameBut ["issuetype"] (filled repo i x LabelRule.issueType) := by
  refine x.sameBut_receive fun fs hfs => ?_
  have hmap : (typesOf repo i).head?.map LabelRule.typeFields = some fs := hfs
  obtain ⟨type, -, rfl⟩ := Option.map_eq_some_iff.mp hmap
  exact List.Subset.refl _

theorem sameBut_filled_component :
    x.SameBut ["components"] (filled repo i x LabelRule.component) := by
  unfold filled LabelRule.component
  dsimp only
  cases LabelRule.mapped repo.componentOf i.labelNames with
  | nil => exact .refl ..
  | cons name names => exact x.sameBut_update (List.Subset.refl _)

theorem sameBut_settled :
    x.SameBut ["status", "issuetype", "components"] (settled workflow repo i x) := by
  have hclosed : x.SameBut ["status"] (closedIf workflow repo i x) := by
    rw [closedIf_eq]
    exact x.sameBut_withStatus _
  have htype := sameBut_filled_issueType repo i (closedIf workflow repo i x)
  have hcomponents := sameBut_filled_component repo i
    (filled repo i (closedIf workflow repo i x) LabelRule.issueType)
  exact (hclosed.mono (by simp)).trans ((htype.mono (by simp)).trans (hcomponents.mono (by simp)))

theorem get?_status_settled : (settled workflow repo i x).fieldsGiven.get? "status" =
    ((if i.state = "closed" then arrival? workflow (steps repo done) else none).map Store.status).or
      (x.fieldsGiven.get? "status") := by
  refine ((sameBut_filled_component ..).field _ (by decide)).trans ?_
  refine ((sameBut_filled_issueType ..).field _ (by decide)).trans ?_
  rw [closedIf_eq, Ticket.get?_status_withStatus]

/-- The first type that a label is mapped to is filled in, and an update keeps it. -/
theorem issueType_settled {type : String} (h : (typesOf repo i).head? = some type) :
    (settled workflow repo i x).fieldsGiven.get? "issuetype" = some (named type) := by
  refine ((sameBut_filled_component ..).field _ (by decide)).trans ?_
  have hfilled : ∀ z : Ticket, filled repo i z LabelRule.issueType =
      z.receive ((typesOf repo i).head?.map LabelRule.typeFields) := fun _ => rfl
  rw [hfilled, h]
  exact Fields.get?_set_self ..

theorem starts_refreshed {x : Ticket} (h : x.fieldsGiven.get? "status" = some (Store.status "To Do")) :
    Starts workflow repo i x (b.refreshed workflow repo i d (settled workflow repo i x)) := by
  have hfollows := follows_refreshed b workflow repo i d (settled workflow repo i x)
  constructor
  case same => exact ((sameBut_settled ..).mono (by simp [mirrored])).trans hfollows.same
  case newType =>
    cases htypes : typesOf repo i with
    | nil =>
      rw [hfollows.newType (by simp [htypes]), htypes]
    | cons type types =>
      have htype := issueType_settled workflow repo i x (by rw [htypes]; rfl)
      rw [hfollows.keptType, htype]
      · rfl
      · rw [issueType_of_get? htype, htypes]
        simp [Value.isText]
  case status =>
    have hstatus := get?_status_settled workflow repo i x
    rw [h] at hstatus
    rw [hfollows.status]
    by_cases hclosed : i.state = "closed"
    · -- If the transition is made once more, it leads where it led before.
      rw [if_pos hclosed] at hstatus ⊢
      cases harrival : arrival? workflow (steps repo done) with
      | none =>
        rw [harrival] at hstatus
        rw [Ticket.statusCategory_of_get? hstatus, hstatus]
        simp [wantedTransition, hclosed, Value.isText, harrival]
      | some category =>
        rw [harrival] at hstatus
        rw [Ticket.statusCategory_of_get? hstatus, hstatus]
        by_cases hdone : category = "Done"
        · simp [wantedTransition, hclosed, Value.isText, hdone]
        · simp [wantedTransition, hclosed, Value.isText, hdone, harrival]
    · rw [if_neg hclosed] at hstatus ⊢
      rw [Ticket.statusCategory_of_get? hstatus, hstatus]
      simp [wantedTransition, hclosed, Value.isText]

end Settled

end Bridge

end IssueBridge
