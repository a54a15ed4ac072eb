import IssueBridge.Proofs.Bridge.Rules

/-! # Rules that do not depend on each other

Rules are tried one after the other, and no failure stops the next. Each of the two rules of the bridge looks at its own
field only and sends that field only. So the order of the rules does not matter, and what one of them makes of its field
does not depend on what becomes of the other.
-/

namespace IssueBridge

open Step Tracker

namespace LabelRule

section Trying

variable {step : LabelRule → Step Unit} {tries : List (LabelRule × Except Failure Unit)}

def noted (rule : LabelRule) (o : Except Failure Unit) (w : World) : World :=
  match o with
  | .ok () => w
  | .error f => after (Step.error ("error when running " ++ rule.name ++ ": " ++ f.message)) w

/-- Starting from a world, a step is taken for one rule after the other, with these outcomes. -/
inductive Tried (step : LabelRule → Step Unit) : World → List (LabelRule × Except Failure Unit) → World → Prop
  | nil (w : World) : Tried step w [] w
  | cons {rule : LabelRule} {tries : List (LabelRule × Except Failure Unit)} {w w' : World}
    (h : Tried step (noted rule (outcome (step rule) w) (after (step rule) w)) tries w') :
    Tried step w ((rule, outcome (step rule) w) :: tries) w'

def failed (tries : List (LabelRule × Except Failure Unit)) : List (String × Failure) :=
  tries.filterMap fun t =>
    match t.2 with
    | .ok () => none
    | .error f => some (t.1.name, f)

theorem failed_eq_nil_iff : failed tries = [] ↔ ∀ t ∈ tries, t.2 = .ok () := by
  rw [failed, List.filterMap_eq_nil_iff]
  refine forall₂_congr fun t _ => ?_
  cases t.2 <;> simp

theorem failed_ne_nil_iff : failed tries ≠ [] ↔ ∃ rule e, (rule, .error e) ∈ tries := by
  constructor
  · intro h
    obtain ⟨p, hp⟩ := List.exists_mem_of_ne_nil _ h
    obtain ⟨⟨rule, o⟩, ht, ho⟩ := List.mem_filterMap.mp hp
    cases o with
    | ok _ => cases ho
    | error e => exact ⟨rule, e, ht⟩
  · rintro ⟨rule, e, ht⟩ h
    cases failed_eq_nil_iff.mp h _ ht

theorem after_failures_cons (step : LabelRule → Step Unit) (rule : LabelRule) (rules : List LabelRule) (w : World) :
    after (failures step (rule :: rules)) w =
      after (failures step rules) (noted rule (outcome (step rule) w) (after (step rule) w)) := by
  conv_lhs => unfold failures
  rw [after_bind_ok (outcome_observe ..), after_observe]
  cases outcome (step rule) w with
  | ok _ => rfl
  | error f =>
    refine (after_bind_ok (outcome_say ..)).trans ?_
    rw [after_bind_pure]
    rfl

theorem outcome_failures_cons (step : LabelRule → Step Unit) (rule : LabelRule) (rules : List LabelRule) (w : World) :
    outcome (failures step (rule :: rules)) w =
      (outcome (failures step rules) (noted rule (outcome (step rule) w) (after (step rule) w))).map
        (failed [(rule, outcome (step rule) w)] ++ ·) := by
  conv_lhs => unfold failures
  rw [outcome_bind_ok (outcome_observe ..), after_observe]
  cases outcome (step rule) w with
  | ok _ => exact (congrFun Except.map_id _).symm
  | error f =>
    refine (outcome_bind_ok (outcome_say ..)).trans ?_
    exact outcome_map ..

theorem failures_tried (step : LabelRule → Step Unit) (rules : List LabelRule) (w : World) :
    ∃ tries, tries.map (·.1) = rules ∧ Tried step w tries (after (failures step rules) w) ∧
      outcome (failures step rules) w = .ok (failed tries) := by
  induction rules generalizing w with
  | nil => exact ⟨[], rfl, .nil w, rfl⟩
  | cons rule rules ih =>
    obtain ⟨tries, hrules, htried, ho⟩ := ih (noted rule (outcome (step rule) w) (after (step rule) w))
    refine ⟨(rule, outcome (step rule) w) :: tries, congrArg _ hrules, .cons ?_, ?_⟩
    · rw [after_failures_cons]
      exact htried
    · rw [outcome_failures_cons, ho]
      exact congrArg Except.ok List.filterMap_append.symm

/-- All rules are tried, each once and in order, whichever of them fail. The run fails if one of them does, and then
with the names and the failures of those that failed. -/
structure RunsAll (rules : List LabelRule) (step : LabelRule → Step Unit) (w : World)
    (tries : List (LabelRule × Except Failure Unit)) : Prop where
  order : tries.map (·.1) = rules
  tried : Tried step w tries (after (runAll rules step) w)
  succeeds : outcome (runAll rules step) w = .ok () ↔ ∀ t ∈ tries, t.2 = .ok ()
  fails : ∀ f, outcome (runAll rules step) w = .error f ↔
    (∃ rule e, (rule, .error e) ∈ tries) ∧ f = .labelRules (failed tries)

theorem runsAll (rules : List LabelRule) (step : LabelRule → Step Unit) (w : World) :
    ∃ tries, RunsAll rules step w tries := by
  obtain ⟨tries, hrules, htried, ho⟩ := failures_tried step rules w
  have hafter : after (runAll rules step) w = after (failures step rules) w := by
    unfold runAll
    rw [after_bind_ok ho]
    cases failed tries <;> rfl
  refine ⟨tries, hrules, hafter ▸ htried, ?_, fun f => ?_⟩
  · rw [← failed_eq_nil_iff]
    unfold runAll
    rw [outcome_bind_ok ho]
    cases failed tries <;> simp
  · rw [← failed_ne_nil_iff]
    unfold runAll
    rw [outcome_bind_ok ho]
    cases failed tries <;> simp [eq_comm]

end Trying

section Minding

variable {field : String} {want : Ticket → Option Fields} {x y : Ticket}

/-- What is wanted depends on one field only, and is a value for that field. -/
structure Minds (field : String) (want : Ticket → Option Fields) : Prop where
  reads : ∀ {x y : Ticket}, y.fieldsGiven.get? field = x.fieldsGiven.get? field → want y = want x
  writes : ∀ {x : Ticket} {fs : Fields}, want x = some fs → ∃ v, fs = [(field, v)]

theorem Minds.sameBut (h : Minds field want) (x : Ticket) : x.SameBut [field] (x.receive (want x)) := by
  refine x.sameBut_receive fun fs hfs => ?_
  obtain ⟨v, rfl⟩ := h.writes hfs
  exact List.Subset.refl _

theorem Minds.get?_receive (h : Minds field want) (hxy : y.fieldsGiven.get? field = x.fieldsGiven.get? field) :
    (y.receive (want y)).fieldsGiven.get? field = (x.receive (want x)).fieldsGiven.get? field := by
  rw [h.reads hxy]
  cases hwant : want x with
  | none => exact hxy
  | some fs =>
    obtain ⟨v, rfl⟩ := h.writes hwant
    exact (y.get?_update_self field v).trans (x.get?_update_self field v).symm

theorem minds_bind {want : String → Ticket → Option Fields} (o : Option String)
    (h : ∀ name, Minds field (want name)) : Minds field fun x => o.bind (want · x) where
  reads hxy := congrArg o.bind (funext fun name => (h name).reads hxy)
  writes hfs := by
    obtain ⟨name, -, hfs⟩ := Option.bind_eq_some_iff.mp hfs
    exact (h name).writes hfs

theorem issueType_congr (h : y.fieldsGiven.get? "issuetype" = x.fieldsGiven.get? "issuetype") :
    y.issueType = x.issueType := by
  unfold Ticket.issueType Ticket.fieldMember Ticket.field
  rw [h]

theorem components_congr (h : y.fieldsGiven.get? "components" = x.fieldsGiven.get? "components") :
    y.components = x.components := by
  unfold Ticket.components Ticket.field
  rw [h]

end Minding

section Consulting

variable {u v : Course} {r : TicketRef} {x : Ticket} {want : Ticket → Option Fields} {o : Except Failure Unit}

/-- A ticket was sent what it wants, if anything, and received it unless the update failed. -/
structure Consulted (r : TicketRef) (want : Ticket → Option Fields) (x : Ticket) (u : Course)
    (o : Except Failure Unit) (y : Ticket) (v : Course) : Prop where
  faults : v.faults = u.faults
  history : v.history = (want x).toList.map (.update x.key.get?) ++ u.history
  store : v.store = u.store.put r y
  kept : y = x ∨ y = x.receive (want x)
  received : o = .ok () ∨ u.faults.AcceptsUpdates → y = x.receive (want x)
  keyed : o = .ok () → want x = none ∨ x.key ≠ .missing
  served : u.faults.AcceptsUpdates → want x = none ∨ x.key ≠ .missing → o = .ok ()

/-- An update of the ticket is sent. It succeeds if the ticket has a key and the call does not fail. -/
theorem proceeds_consult_of_some {fs : Fields} (hx : u.store.ticket? r = some x) (hwant : want x = some fs) :
    ∃ o, Proceeds u (discard (consult r want)) o (u.ask (.update x.key.get? fs) (·.update r fs)) ∧
      (o = .ok () ↔ x.key ≠ .missing ∧ u.answer (.update x.key.get? fs) = .ok ()) := by
  have hview := Bridge.proceeds_view hx
  have hconsult : ∀ {o v}, Proceeds u (update r fs) o v → Proceeds u (discard (consult r want)) o v := by
    intro o v h
    have hsend : Proceeds u (send r fs) (o.map fun _ => true) v := by
      cases o with
      | ok _ => exact h.bind (.pure true)
      | error f => exact h.bind_error
    have hconsult : Proceeds u (consult r want) (o.map fun _ => true) v := by
      refine hview.bind ?_
      rw [hwant]
      exact hsend
    cases o with
    | ok _ => exact hconsult.map _
    | error f => exact hconsult.map _
  by_cases hk : x.key = .missing
  · obtain ⟨f, hupdate⟩ := proceeds_update_of_keyless hx hk fs
    exact ⟨.error f, hconsult hupdate, nofun, fun h => absurd hk h.1⟩
  · exact ⟨_, hconsult (proceeds_update hx hk fs), fun h => ⟨hk, h⟩, fun h => h.2⟩

theorem proceeds_consult_of_none (hx : u.store.ticket? r = some x) (hwant : want x = none) :
    Proceeds u (discard (consult r want)) (.ok ()) u := by
  have hconsult : Proceeds u (consult r want) (.ok false) u := by
    refine (Bridge.proceeds_view hx).bind ?_
    rw [hwant]
    exact .pure false
  exact hconsult.map _

theorem consulted (hx : u.store.ticket? r = some x) (want : Ticket → Option Fields) :
    ∃ o y v, Proceeds u (discard (consult r want)) o v ∧ Consulted r want x u o y v := by
  cases hwant : want x with
  | none =>
    refine ⟨_, x, u, proceeds_consult_of_none hx hwant, rfl, ?_, (Store.put_self hx).symm, .inl rfl, fun _ => ?_,
      fun _ => .inl hwant, fun _ _ => rfl⟩ <;> rw [hwant] <;> rfl
  | some fs =>
    obtain ⟨o, hconsult, ho⟩ := proceeds_consult_of_some hx hwant
    have haccepts : u.faults.AcceptsUpdates → u.answer (.update x.key.get? fs) = .ok () :=
      fun h => Course.answer_eq_ok_iff.mpr (h _ _ _)
    refine ⟨o, if u.serves (.update x.key.get? fs) then x.update fs else x, _, hconsult, u.faults_ask _ _, ?_, ?_, ?_,
      fun h => ?_, fun h => .inr (ho.mp h).1, fun h hk => ?_⟩
    · rw [hwant]
      exact u.history_ask _ _
    · rw [Course.store_ask]
      split
      · exact Store.update_eq_put hx fs
      · exact (Store.put_self hx).symm
    · rw [hwant]
      split
      · exact .inr rfl
      · exact .inl rfl
    · rw [hwant, Course.serves_eq, h.elim (fun h => (ho.mp h).2) haccepts]
      rfl
    · rw [hwant] at hk
      exact ho.mpr ⟨hk.resolve_left nofun, haccepts h⟩

end Consulting

section Both

variable {field field' : String} {want want' : Ticket → Option Fields} {u v v' : Course} {r : TicketRef}
  {x y z : Ticket} {o o' : Except Failure Unit} {rule rule' : LabelRule} {step : LabelRule → Step Unit}
  {tries : List (LabelRule × Except Failure Unit)} {w : World}

structure ConsultedBoth (field field' : String) (r : TicketRef) (want want' : Ticket → Option Fields) (x : Ticket)
    (u : Course) (o o' : Except Failure Unit) (z : Ticket) (v : Course) : Prop where
  history : v.history =
    ((want' x).toList ++ (want x).toList).map (.update x.key.get?) ++ u.history
  store : v.store = u.store.put r z
  others : x.SameBut [field, field'] z
  first : o = .ok () ∨ u.faults.AcceptsUpdates →
    z.fieldsGiven.get? field = (x.receive (want x)).fieldsGiven.get? field
  second : o' = .ok () ∨ u.faults.AcceptsUpdates →
    z.fieldsGiven.get? field' = (x.receive (want' x)).fieldsGiven.get? field'
  firstKeyed : o = .ok () → want x = none ∨ x.key ≠ .missing
  secondKeyed : o' = .ok () → want' x = none ∨ x.key ≠ .missing
  served : u.faults.AcceptsUpdates → x.key ≠ .missing → o = .ok () ∧ o' = .ok ()

theorem Consulted.sameBut (h : Consulted r want x u o y v) (hm : Minds field want) : x.SameBut [field] y := by
  obtain rfl | rfl := h.kept
  · exact .refl _ y
  · exact hm.sameBut x

/-- The second field is not touched before it is looked at, and the first one not any more. -/
theorem Consulted.both (h : Consulted r want x u o y v) (h' : Consulted r want' y v o' z v') (hm : Minds field want)
    (hm' : Minds field' want') (hne : field ≠ field') :
    ConsultedBoth field field' r want want' x u o o' z v' := by
  have hsame := h.sameBut hm
  have hsame' := h'.sameBut hm'
  have hread : y.fieldsGiven.get? field' = x.fieldsGiven.get? field' :=
    hsame.field _ fun hmem => hne (List.mem_singleton.mp hmem).symm
  have hleft : z.fieldsGiven.get? field = y.fieldsGiven.get? field :=
    hsame'.field _ fun hmem => hne (List.mem_singleton.mp hmem)
  have hwant := hm'.reads hread
  constructor
  case history =>
    rw [h'.history, h.history, hwant, hsame.key, List.map_append, List.append_assoc]
  case store =>
    rw [h'.store, h.store, Store.put_put]
  case others =>
    exact (hsame.mono (by simp)).trans (hsame'.mono (by simp))
  case first =>
    intro ho
    rw [hleft, h.received ho]
  case second =>
    intro ho
    rw [← h.faults] at ho
    rw [h'.received ho]
    exact hm'.get?_receive hread
  case firstKeyed =>
    exact h.keyed
  case secondKeyed =>
    intro ho
    rw [← hwant, ← hsame.key]
    exact h'.keyed ho
  case served =>
    intro hu hk
    refine ⟨h.served hu (.inr hk), h'.served (h.faults ▸ hu) (.inr ?_)⟩
    rw [hsame.key]
    exact hk

/-- In either order a ticket is left with the same fields, unless an update failed. -/
theorem ConsultedBoth.sameBut {p p' : Except Failure Unit} (h : ConsultedBoth field field' r want want' x u o o' y v)
    (h' : ConsultedBoth field' field r want' want x u p' p z v')
    (ho : u.faults.AcceptsUpdates ∨ (o = .ok () ∧ o' = .ok ()) ∧ p' = .ok () ∧ p = .ok ()) : y.SameBut [] z := by
  refine ⟨h'.others.key.trans h.others.key.symm, h'.others.id.trans h.others.id.symm,
    h'.others.rest.trans h.others.rest.symm, fun name _ => ?_⟩
  by_cases hfield : name = field
  · subst hfield
    rw [h.first (ho.symm.imp_left fun ho => ho.1.1), h'.second (ho.symm.imp_left fun ho => ho.2.2)]
  by_cases hfield' : name = field'
  · subst hfield'
    rw [h.second (ho.symm.imp_left fun ho => ho.1.2), h'.first (ho.symm.imp_left fun ho => ho.2.1)]
  · rw [h.others.field name (by simp [hfield, hfield']), h'.others.field name (by simp [hfield, hfield'])]

theorem course_noted (rule : LabelRule) (o : Except Failure Unit) (w : World) : (noted rule o w).course = w.course := by
  cases o <;> rfl

theorem Tried.consulted (h : Tried step w ((rule, o) :: tries) w') (hx : w.store.ticket? r = some x)
    (hstep : step rule = discard (consult r want)) :
    ∃ y w₁, Consulted r want x w.course o y w₁.course ∧ Tried step w₁ tries w' := by
  obtain ⟨o', y, v, hconsult, hv⟩ := LabelRule.consulted (u := w.course) hx want
  rw [← hstep] at hconsult
  obtain ⟨rfl, rfl⟩ := hconsult w rfl
  cases h with
  | cons hrest =>
    refine ⟨y, _, ?_, hrest⟩
    rw [course_noted]
    exact hv

theorem RunsAll.both (hrun : RunsAll [rule, rule'] step w tries) (hx : w.store.ticket? r = some x)
    (hm : Minds field want) (hm' : Minds field' want') (hne : field ≠ field')
    (hstep : step rule = discard (consult r want)) (hstep' : step rule' = discard (consult r want')) :
    ∃ o o' z, tries = [(rule, o), (rule', o')] ∧
      ConsultedBoth field field' r want want' x w.course o o' z (after (runAll [rule, rule'] step) w).course := by
  obtain ⟨horder, htried, -, -⟩ := hrun
  obtain ⟨⟨a, o⟩, rest, rfl, rfl, hrest⟩ := List.map_eq_cons_iff.mp horder
  obtain ⟨⟨b, o'⟩, rest, rfl, rfl, hnil⟩ := List.map_eq_cons_iff.mp hrest
  obtain rfl := List.map_eq_nil_iff.mp hnil
  obtain ⟨y, v, hfirst, htried⟩ := htried.consulted hx hstep
  have hy : v.store.ticket? r = some y := by
    rw [show v.store = _ from hfirst.store]
    exact Store.ticket?_put_self hx y
  obtain ⟨z, v', hsecond, htried⟩ := htried.consulted hy hstep'
  cases htried
  exact ⟨o, o', z, rfl, hfirst.both hsecond hm hm' hne⟩

end Both

section Alone

variable {field : String} {want : Ticket → Option Fields} {r : TicketRef} {x z : Ticket} {s : Step Unit} {w : World}

/-- A field has the value that it gets from a step that is taken alone: the step succeeds where no call fails, and
wherever it succeeds it gives the field this value. -/
structure AsAlone (s : Step Unit) (field : String) (r : TicketRef) (w : World) (z : Ticket) : Prop where
  succeeds : outcome s { w with faults := .none } = .ok ()
  value : ∀ v : World, v.store = w.store → outcome s v = .ok () →
    ∃ y, (after s v).store.ticket? r = some y ∧ z.fieldsGiven.get? field = y.fieldsGiven.get? field

theorem asAlone (hx : w.store.ticket? r = some x) (hs : s = discard (consult r want))
    (hk : want x = none ∨ x.key ≠ .missing)
    (hz : z.fieldsGiven.get? field = (x.receive (want x)).fieldsGiven.get? field) : AsAlone s field r w z := by
  subst hs
  constructor
  case succeeds =>
    obtain ⟨o, y, v, hconsult, hv⟩ := consulted (u := { w.course with faults := .none }) hx want
    rw [← hv.served nofun hk]
    exact (hconsult _ rfl).1
  case value =>
    intro v hstore ho
    rw [← hstore] at hx
    obtain ⟨o, y, v', hconsult, hv⟩ := consulted (u := v.course) hx want
    obtain ⟨rfl, rfl⟩ := hconsult v rfl
    refine ⟨y, ?_, ?_⟩
    · rw [show (after _ v).store = _ from hv.store]
      exact Store.ticket?_put_self hx y
    · rw [hz, hv.received (.inl ho)]

end Alone

section Acting

inductive Act
  | apply
  | reset

namespace Act

variable (act : Act) (r : TicketRef) (repo : Repo) (label : String)

def step (rule : LabelRule) : Step Unit :=
  match act with
  | .apply => discard (rule.apply r repo label)
  | .reset => discard (rule.reset r repo label)

def typeWanted : Ticket → Option Fields :=
  match act with
  | .apply => typeApplied repo label
  | .reset => typeReset repo label

def componentWanted : Ticket → Option Fields :=
  match act with
  | .apply => componentApplied repo label
  | .reset => componentReset repo label

theorem step_issueType : act.step r repo label issueType = discard (consult r (act.typeWanted repo label)) := by
  cases act with
  | apply => exact congrArg discard (apply_issueType r repo label)
  | reset => exact congrArg discard (reset_issueType r repo label)

theorem step_component : act.step r repo label component = discard (consult r (act.componentWanted repo label)) := by
  cases act with
  | apply => exact congrArg discard (apply_component r repo label)
  | reset => exact congrArg discard (reset_component r repo label)

theorem minds_typeWanted : Minds "issuetype" (act.typeWanted repo label) := by
  cases act <;>
  · refine minds_bind _ fun type => ⟨fun hxy => by rw [issueType_congr hxy], fun hfs => ?_⟩
    split at hfs <;> cases hfs
    exact ⟨_, rfl⟩

theorem minds_componentWanted : Minds "components" (act.componentWanted repo label) := by
  cases act <;>
  · refine minds_bind _ fun name => ⟨fun hxy => by rw [components_congr hxy], fun hfs => ?_⟩
    split at hfs <;> cases hfs
    exact ⟨_, rfl⟩

end Act

variable {act : Act} {repo : Repo} {label : String} {r : TicketRef} {x : Ticket} {w : World}

/-- The two rules of the bridge do not depend on each other. In either order they send the same updates, and unless an
update fails they leave the same ticket. A field whose rule did not fail has the value that this rule gives it alone. -/
structure Independent (act : Act) (repo : Repo) (label : String) (r : TicketRef) (x : Ticket) (w : World) : Prop where
  sent : ∃ fss fss' : List Fields, fss.Perm fss' ∧
    (after (runAll all (act.step r repo label)) w).history = fss.map (.update x.key.get?) ++ w.history ∧
    (after (runAll all.reverse (act.step r repo label)) w).history = fss'.map (.update x.key.get?) ++ w.history
  served : w.faults.AcceptsUpdates → x.key ≠ .missing →
    outcome (runAll all (act.step r repo label)) w = .ok () ∧
      outcome (runAll all.reverse (act.step r repo label)) w = .ok ()
  final : w.faults.AcceptsUpdates ∨ (outcome (runAll all (act.step r repo label)) w = .ok () ∧
      outcome (runAll all.reverse (act.step r repo label)) w = .ok ()) →
    ∃ y y', (after (runAll all (act.step r repo label)) w).store = w.store.put r y ∧
      (after (runAll all.reverse (act.step r repo label)) w).store = w.store.put r y' ∧ y.SameBut [] y'
  alone : ∀ tries, RunsAll all (act.step r repo label) w tries →
    ∃ z, (after (runAll all (act.step r repo label)) w).store = w.store.put r z ∧
      ((issueType, .ok ()) ∈ tries → AsAlone (act.step r repo label issueType) "issuetype" r w z) ∧
      ((component, .ok ()) ∈ tries → AsAlone (act.step r repo label component) "components" r w z)

theorem independent (hx : w.store.ticket? r = some x) : Independent act repo label r x w := by
  have htype := act.minds_typeWanted repo label
  have hcomponent := act.minds_componentWanted repo label
  have hstep := act.step_issueType r repo label
  have hstep' := act.step_component r repo label
  generalize act.typeWanted repo label = want at htype hstep
  generalize act.componentWanted repo label = want' at hcomponent hstep'
  obtain ⟨tries, hrun⟩ := runsAll all (act.step r repo label) w
  obtain ⟨tries', hrun'⟩ := runsAll all.reverse (act.step r repo label) w
  obtain ⟨o, o', y, rfl, hboth⟩ := hrun.both hx htype hcomponent (by decide) hstep hstep'
  obtain ⟨p', p, y', rfl, hboth'⟩ := hrun'.both hx hcomponent htype (by decide) hstep' hstep
  have hok : outcome (runAll all (act.step r repo label)) w = .ok () ↔ o = .ok () ∧ o' = .ok () := by
    rw [hrun.succeeds]
    simp
  have hok' : outcome (runAll all.reverse (act.step r repo label)) w = .ok () ↔ p' = .ok () ∧ p = .ok () := by
    rw [hrun'.succeeds]
    simp
  constructor
  case sent =>
    exact ⟨_, _, List.perm_append_comm, hboth.history, hboth'.history⟩
  case served =>
    intro hu hk
    exact ⟨hok.mpr (hboth.served hu hk), hok'.mpr (hboth'.served hu hk)⟩
  case final =>
    intro ho
    rw [hok, hok'] at ho
    exact ⟨y, y', hboth.store, hboth'.store, hboth.sameBut hboth' ho⟩
  case alone =>
    intro tries hrun
    have hdiffer : issueType ≠ component := fun h => absurd (congrArg LabelRule.name h) (by decide)
    obtain ⟨o, o', z, rfl, hboth⟩ := hrun.both hx htype hcomponent (by decide) hstep hstep'
    refine ⟨z, hboth.store, fun h => ?_, fun h => ?_⟩
    · have ho : o = .ok () := by simpa [hdiffer.symm, eq_comm] using h
      exact asAlone hx hstep (hboth.firstKeyed ho) (hboth.first (.inl ho))
    · have ho : o' = .ok () := by simpa [hdiffer.symm, eq_comm] using h
      exact asAlone hx hstep' (hboth.secondKeyed ho) (hboth.second (.inl ho))

end Acting

section Stuck

def stuckRepo : Repo := { miscRepo with componentOf := [("bug", "core")] }

def stuckWorld : World := { miscWorld with
  faults := fun _ c =>
    match c with
    | .update _ [("issuetype", _)] => .failed (.refused "no")
    | _ => .served }

end Stuck

/-- Whichever rules are run and whichever of them fail, all are tried, and the failures are raised together at the end.
The rules of the bridge do not depend on each other, whatever the ticket is like, and whether a label is put on or taken
off. -/
theorem rules_are_independent :
    (∀ (rules : List LabelRule) (step : LabelRule → Step Unit) (w : World), ∃ tries, RunsAll rules step w tries) ∧
      ∀ (act : Act) (repo : Repo) (label : String) (r : TicketRef) (x : Ticket) (w : World),
        w.store.ticket? r = some x → Independent act repo label r x w :=
  ⟨runsAll, fun _ _ _ _ _ _ => independent⟩

theorem rules_are_independent_stuck : ∃ x, miscWorld.store.ticket? 0 = some x ∧ stuckWorld.store.ticket? 0 = some x ∧
    miscWorld.faults.AcceptsUpdates ∧ Independent .apply stuckRepo "bug" 0 x miscWorld ∧
    Independent .apply stuckRepo "bug" 0 x stuckWorld ∧
    outcome (runAll all (Act.apply.step 0 stuckRepo "bug")) stuckWorld =
      .error (.labelRules [(issueType.name, .refused "no")]) := by
  obtain ⟨-, hrules⟩ := rules_are_independent
  exact ⟨_, rfl, rfl, nofun, hrules .apply stuckRepo "bug" 0 _ miscWorld rfl,
    hrules .apply stuckRepo "bug" 0 _ stuckWorld rfl, rfl⟩

end LabelRule

end IssueBridge
