import IssueBridge.Proofs.Bridge.Tolerant

/-! # What label rules send

A rule looks at the ticket and sends the fields that it wants, if any. What it sends is what it looks at, so the second
application of a rule finds nothing to send, and neither does the second reset, except that a value may stand in for
itself.
-/

namespace IssueBridge

open Step Tracker

def Faults.AcceptsUpdates (faults : Faults) : Prop :=
  ∀ history key fs f, faults history (.update key fs) ≠ .failed f

namespace Tracker.Ticket

theorem get?_update_self (x : Ticket) (name : String) (v : Value) :
    (x.update [(name, v)]).fieldsGiven.get? name = some v :=
  Fields.get?_set_self ..

theorem update_update (x : Ticket) (name : String) (v : Value) :
    (x.update [(name, v)]).update [(name, v)] = x.update [(name, v)] := by
  refine update_of_get? (List.cons_ne_nil _ _) fun p hp => ?_
  rw [List.mem_singleton.mp hp]
  exact x.get?_update_self name v

theorem issueType_update (x : Ticket) (type : String) :
    (x.update (LabelRule.typeFields type)).issueType = .str type := by
  unfold issueType fieldMember field LabelRule.typeFields
  rw [get?_update_self]
  rfl

theorem components_update (x : Ticket) (names : List Value) :
    (x.update (LabelRule.componentFields names)).components = names := by
  unfold components field LabelRule.componentFields
  rw [get?_update_self]
  show (names.map _).map _ = names
  rw [List.map_map]
  exact names.map_id

end Tracker.Ticket

namespace LabelRule

variable {u : Course} {r : TicketRef} {x : Ticket} {repo : Repo} {label : String} {want : Ticket → Option Fields}

section Wanting

/-- Looks at a ticket and sends the fields that it wants, if any. -/
def consult (r : TicketRef) (want : Ticket → Option Fields) : Step Bool := do
  match want (← Bridge.view r) with
  | none => return false
  | some fs => send r fs

def typeApplied (repo : Repo) (label : String) (x : Ticket) : Option Fields :=
  (repo.issueTypeOf.lookup label).bind fun type =>
    if x.issueType.isText type then none else some (typeFields type)

def typeReset (repo : Repo) (label : String) (x : Ticket) : Option Fields :=
  (repo.issueTypeOf.lookup label).bind fun type =>
    if x.issueType.isText type then some (typeFields repo.issueType) else none

def componentApplied (repo : Repo) (label : String) (x : Ticket) : Option Fields :=
  (repo.componentOf.lookup label).bind fun name =>
    if x.components.any (·.isText name) then none else some (componentFields [.str name])

def componentReset (repo : Repo) (label : String) (x : Ticket) : Option Fields :=
  (repo.componentOf.lookup label).bind fun name =>
    if x.components.any (·.isText name) then some (componentFields (remaining x.components name)) else none

theorem consult_mapped {act : String → Ticket → Step Bool} {want : String → Ticket → Option Fields}
    (h : ∀ name x, act name x = match want name x with
      | none => return false
      | some fs => send r fs) : ∀ o : Option String,
    (match o with
      | none => return false
      | some name => do act name (← Bridge.view r)) = consult r fun x => o.bind (want · x)
  | none => rfl
  | some name => bind_congr fun x => h name x

theorem apply_issueType (r : TicketRef) (repo : Repo) (label : String) :
    issueType.apply r repo label = consult r (typeApplied repo label) :=
  consult_mapped (fun _ _ => by split <;> rfl) _

theorem reset_issueType (r : TicketRef) (repo : Repo) (label : String) :
    issueType.reset r repo label = consult r (typeReset repo label) :=
  consult_mapped (fun _ _ => by split <;> rfl) _

theorem apply_component (r : TicketRef) (repo : Repo) (label : String) :
    component.apply r repo label = consult r (componentApplied repo label) :=
  consult_mapped (fun _ _ => by split <;> rfl) _

theorem reset_component (r : TicketRef) (repo : Repo) (label : String) :
    component.reset r repo label = consult r (componentReset repo label) :=
  consult_mapped (fun _ _ => by dsimp only; split <;> rfl) _

end Wanting

section Consulting

def sent (u : Course) (key : Option String) : Option Fields → Except Failure Bool
  | none => .ok false
  | some fs => (u.answer (.update key fs)).map fun _ => true

theorem proceeds_consult (hx : u.store.ticket? r = some x) (hk : x.key ≠ .missing) (want : Ticket → Option Fields) :
    Proceeds u (consult r want) (sent u x.key.get? (want x))
      (u.askAll (.update x.key.get?) (fun fs s => s.update r fs) (want x).toList) := by
  refine (Bridge.proceeds_view hx).bind ?_
  cases want x with
  | none => exact .pure false
  | some fs =>
    have hupdate := proceeds_update hx hk fs
    show Proceeds u _ ((u.answer _).map _) (u.ask _ _)
    cases hanswer : u.answer (.update x.key.get? fs) with
    | ok _ =>
      rw [hanswer] at hupdate
      exact hupdate.bind (.pure true)
    | error f =>
      rw [hanswer] at hupdate
      exact hupdate.bind_error

theorem proceeds_consult_of_accepts (hu : u.faults.AcceptsUpdates) (hx : u.store.ticket? r = some x)
    (hk : x.key ≠ .missing) (want : Ticket → Option Fields) :
    ∃ v, Proceeds u (consult r want) (.ok (want x).isSome) v ∧ v.faults = u.faults ∧
      v.store = u.store.put r (x.receive (want x)) := by
  have hconsult := proceeds_consult hx hk want
  cases hwant : want x with
  | none =>
    rw [hwant] at hconsult
    exact ⟨u, hconsult, rfl, (Store.put_self hx).symm⟩
  | some fs =>
    have hanswer : u.answer (.update x.key.get? fs) = .ok () := Course.answer_eq_ok_iff.mpr (hu _ _ _)
    rw [hwant, sent, hanswer] at hconsult
    refine ⟨_, hconsult, u.faults_ask _ _, ?_⟩
    show (u.ask _ _).store = _
    rw [Course.ask_of_ok hanswer]
    exact Store.update_eq_put hx fs

theorem consult_of_none {w : World} (hx : w.store.ticket? r = some x) (h : want x = none) :
    outcome (consult r want) w = .ok false ∧ after (consult r want) w = w := by
  have hview : outcome (Bridge.view r) w = .ok x := congrArg Except.ok (congrArg (Option.getD · _) hx)
  unfold consult
  rw [outcome_bind_ok hview, after_bind_ok hview, h]
  exact ⟨rfl, rfl⟩

end Consulting

section Repeating

/-- A step that is taken twice: the second time the store stays as it is, and unless `again` holds nothing is sent. -/
structure Repeats (again : Prop) (act : Step Bool) (w : World) : Prop where
  once : ∃ sent, outcome act w = .ok sent
  twice : ∃ sent, outcome act (after act w) = .ok sent
  store : (after act (after act w)).store = (after act w).store
  silent : ¬ again → outcome act (after act w) = .ok false ∧ after act (after act w) = after act w

/-- A ticket that received what it wanted wants nothing else, and the same again only if `again` holds. -/
def Sated (again : Prop) (want : Ticket → Option Fields) (x : Ticket) : Prop :=
  ∀ fs, want x = some fs → want (x.update fs) = none ∨
    again ∧ want (x.update fs) = some fs ∧ (x.update fs).update fs = x.update fs

variable {again : Prop}

theorem sated_typeApplied (repo : Repo) (label : String) (x : Ticket) : Sated False (typeApplied repo label) x := by
  intro fs h
  left
  unfold typeApplied at h ⊢
  cases hlookup : repo.issueTypeOf.lookup label with
  | none => rfl
  | some type =>
    rw [hlookup, Option.bind_some] at h
    split at h
    · cases h
    · rw [← Option.some.inj h, Ticket.issueType_update, Option.bind_some]
      exact if_pos (decide_eq_true rfl)

theorem sated_typeReset (repo : Repo) (label : String) (x : Ticket) :
    Sated (repo.issueTypeOf.lookup label = some repo.issueType) (typeReset repo label) x := by
  intro fs h
  unfold typeReset at h ⊢
  cases hlookup : repo.issueTypeOf.lookup label with
  | none => exact .inl rfl
  | some type =>
    rw [hlookup, Option.bind_some] at h
    split at h
    · rw [← Option.some.inj h, Ticket.issueType_update, Option.bind_some]
      by_cases htype : type = repo.issueType
      · subst htype
        exact .inr ⟨rfl, if_pos (decide_eq_true rfl), x.update_update _ _⟩
      · exact .inl (if_neg fun hsame => htype (of_decide_eq_true hsame).symm)
    · cases h

theorem sated_componentApplied (repo : Repo) (label : String) (x : Ticket) :
    Sated False (componentApplied repo label) x := by
  intro fs h
  left
  unfold componentApplied at h ⊢
  cases hlookup : repo.componentOf.lookup label with
  | none => rfl
  | some name =>
    rw [hlookup, Option.bind_some] at h
    split at h
    · cases h
    · rw [← Option.some.inj h, Ticket.components_update, Option.bind_some]
      refine if_pos ?_
      rw [List.any_cons, show (Value.str name).isText name = true from decide_eq_true rfl]
      rfl

/-- A component that was removed remains only where it stands in for itself. -/
theorem any_remaining {components : List Value} {name : String} (h : (remaining components name).any (·.isText name)) :
    name = fallbackComponent ∧ remaining components name = [.str fallbackComponent] := by
  unfold remaining at h ⊢
  split at h
  · rw [List.any_cons, List.any_nil, Bool.or_false] at h
    exact ⟨(of_decide_eq_true h).symm, rfl⟩
  · rename_i hrest
    obtain ⟨c, hc, hname⟩ := List.any_eq_true.mp h
    have hne := (List.mem_filter.mp hc).2
    rw [hname] at hne
    cases hne

theorem sated_componentReset (repo : Repo) (label : String) (x : Ticket) :
    Sated (repo.componentOf.lookup label = some fallbackComponent) (componentReset repo label) x := by
  intro fs h
  unfold componentReset at h ⊢
  cases hlookup : repo.componentOf.lookup label with
  | none => exact .inl rfl
  | some name =>
    rw [hlookup, Option.bind_some] at h
    split at h
    · rw [← Option.some.inj h, Ticket.components_update, Option.bind_some]
      by_cases hany : (remaining x.components name).any (·.isText name)
      · obtain ⟨rfl, hremaining⟩ := any_remaining hany
        refine .inr ⟨rfl, ?_, x.update_update _ _⟩
        rw [if_pos hany, hremaining]
        rfl
      · exact .inl (if_neg hany)
    · cases h

variable {w : World} (hw : w.faults.AcceptsUpdates) (hx : w.store.ticket? r = some x) (hk : x.key ≠ .missing)
include hw hx hk

theorem repeats_consult (h : Sated again want x) : Repeats again (consult r want) w := by
  obtain ⟨v, hfirst, hfaults, hstore⟩ := proceeds_consult_of_accepts (u := w.course) hw hx hk want
  obtain ⟨ho, rfl⟩ := hfirst w rfl
  have hy : (after (consult r want) w).store.ticket? r = some (x.receive (want x)) := by
    rw [show (after (consult r want) w).store = _ from hstore]
    exact Store.ticket?_put_self hx _
  have hnone : want (x.receive (want x)) = none → Repeats again (consult r want) w := by
    intro hnone
    obtain ⟨ho', hafter⟩ := consult_of_none hy hnone
    exact ⟨⟨_, ho⟩, ⟨_, ho'⟩, congrArg World.store hafter, fun _ => ⟨ho', hafter⟩⟩
  cases hwant : want x with
  | none => exact hnone (by rw [hwant]; exact hwant)
  | some fs =>
    rw [hwant] at hy hstore hnone
    obtain h | ⟨hagain, hsome, hsame⟩ := h fs hwant
    · exact hnone h
    -- The same fields are sent once more, which the ticket has already.
    · obtain ⟨v, hsecond, -, hstore'⟩ := proceeds_consult_of_accepts (u := (after (consult r want) w).course)
        (hfaults ▸ hw) hy hk want
      obtain ⟨ho', rfl⟩ := hsecond _ rfl
      refine ⟨⟨_, ho⟩, ⟨_, ho'⟩, ?_, fun hnot => absurd hagain hnot⟩
      refine Eq.trans hstore' ?_
      show Store.put _ r ((x.update fs).receive (want (x.update fs))) = _
      rw [hsome]
      show Store.put _ r ((x.update fs).update fs) = _
      rw [hsame]
      exact Store.put_self hy

/-- Where no update fails, a rule that is applied twice finds nothing to send the second time, whatever the ticket is
like. A rule that is reset twice leaves the ticket as one that is reset once; what it takes back is sent again only if
it stands in for itself. -/
theorem rules_repeat (repo : Repo) (label : String) :
    Repeats False (issueType.apply r repo label) w ∧
      Repeats (repo.issueTypeOf.lookup label = some repo.issueType) (issueType.reset r repo label) w ∧
      Repeats False (component.apply r repo label) w ∧
      Repeats (repo.componentOf.lookup label = some fallbackComponent) (component.reset r repo label) w := by
  rw [apply_issueType, reset_issueType, apply_component, reset_component]
  exact ⟨repeats_consult hw hx hk (sated_typeApplied repo label x),
    repeats_consult hw hx hk (sated_typeReset repo label x),
    repeats_consult hw hx hk (sated_componentApplied repo label x),
    repeats_consult hw hx hk (sated_componentReset repo label x)⟩

end Repeating

section Misc

def miscRepo : Repo where
  project := "AB"
  issueType := "Task"
  issueTypeOf := [("bug", "Bug")]
  componentOf := [("misc", "general")]

def miscWorld : World := { Bridge.smallWorld with
  store := { tickets := [⟨.given "AB-1", .given "1",
    .given [("components", .arr [.obj [("name", .str "general")], .obj []])], []⟩] } }

theorem rules_repeat_misc : miscWorld.faults.AcceptsUpdates ∧
    Repeats (miscRepo.componentOf.lookup "misc" = some fallbackComponent) (component.reset 0 miscRepo "misc")
      miscWorld ∧
    Repeats False (issueType.apply 0 miscRepo "bug") miscWorld := by
  have hw : miscWorld.faults.AcceptsUpdates := nofun
  obtain ⟨-, -, -, hreset⟩ := rules_repeat (r := 0) (w := miscWorld) hw rfl nofun miscRepo "misc"
  obtain ⟨happly, -⟩ := rules_repeat (r := 0) (w := miscWorld) hw rfl nofun miscRepo "bug"
  exact ⟨hw, hreset, happly⟩

end Misc

end LabelRule

end IssueBridge
