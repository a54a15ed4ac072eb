import IssueBridge.Proofs.Bridge.Carrier
import IssueBridge.Proofs.Bridge.Event
import IssueBridge.Proofs.Bridge.Rules

/-! # Labels put on and taken off

A label that is put on and taken off again leaves the default type and the other components. Whatever labels are put
on and taken off, and whatever fails meanwhile, a ticket with components keeps some, and its type is one that it had or
that the repository names.
-/

namespace IssueBridge

open Step Tracker

namespace LabelRule

variable {repo : Repo} {label : String} {x y z : Ticket}

section Receiving

theorem isText_iff {v : Value} {s : String} : v.isText s ↔ v = .str s := by
  cases v <;> simp [Value.isText]

theorem remaining_ne_nil (components : List Value) (name : String) : remaining components name ≠ [] := by
  unfold remaining
  split
  · exact List.cons_ne_nil _ _
  · assumption

theorem components_update_typeFields (x : Ticket) (type : String) :
    (x.update (typeFields type)).components = x.components := by
  have hsame : x.SameBut ["issuetype"] (x.update (typeFields type)) := x.sameBut_update (List.Subset.refl _)
  unfold Ticket.components Ticket.field
  rw [hsame.field "components" (by decide)]

theorem issueType_update_componentFields (x : Ticket) (names : List Value) :
    (x.update (componentFields names)).issueType = x.issueType := by
  have hsame : x.SameBut ["components"] (x.update (componentFields names)) := x.sameBut_update (List.Subset.refl _)
  exact hsame.issueType (by decide)

theorem receive_typeApplied (repo : Repo) (label : String) (x : Ticket) :
    (x.receive (typeApplied repo label x)).issueType = ((repo.issueTypeOf.lookup label).map .str).getD x.issueType ∧
      (x.receive (typeApplied repo label x)).components = x.components := by
  unfold typeApplied
  cases repo.issueTypeOf.lookup label with
  | none => exact ⟨rfl, rfl⟩
  | some type =>
    rw [Option.bind_some]
    split
    · exact ⟨isText_iff.mp ‹_›, rfl⟩
    · exact ⟨x.issueType_update type, components_update_typeFields x type⟩

theorem receive_typeReset (repo : Repo) (label : String) (x : Ticket) :
    (x.receive (typeReset repo label x)).issueType =
        (if ((repo.issueTypeOf.lookup label).any x.issueType.isText) then .str repo.issueType else x.issueType) ∧
      (x.receive (typeReset repo label x)).components = x.components := by
  unfold typeReset
  cases repo.issueTypeOf.lookup label with
  | none => exact ⟨rfl, rfl⟩
  | some type =>
    rw [Option.bind_some, Option.any_some]
    split
    · exact ⟨x.issueType_update _, components_update_typeFields x _⟩
    · exact ⟨rfl, rfl⟩

theorem receive_componentApplied (repo : Repo) (label : String) (x : Ticket) :
    (x.receive (componentApplied repo label x)).issueType = x.issueType ∧
      (x.receive (componentApplied repo label x)).components =
        match repo.componentOf.lookup label with
        | none => x.components
        | some name => if x.components.any (·.isText name) then x.components else [.str name] := by
  unfold componentApplied
  cases repo.componentOf.lookup label with
  | none => exact ⟨rfl, rfl⟩
  | some name =>
    rw [Option.bind_some]
    split
    · exact ⟨rfl, (if_pos ‹_›).symm⟩
    · exact ⟨issueType_update_componentFields x _, (x.components_update _).trans (if_neg ‹_›).symm⟩

theorem receive_componentReset (repo : Repo) (label : String) (x : Ticket) :
    (x.receive (componentReset repo label x)).issueType = x.issueType ∧
      (x.receive (componentReset repo label x)).components =
        match repo.componentOf.lookup label with
        | none => x.components
        | some name => if x.components.any (·.isText name) then remaining x.components name else x.components := by
  unfold componentReset
  cases repo.componentOf.lookup label with
  | none => exact ⟨rfl, rfl⟩
  | some name =>
    rw [Option.bind_some]
    split
    · exact ⟨issueType_update_componentFields x _, (x.components_update _).trans (if_pos ‹_›).symm⟩
    · exact ⟨rfl, (if_neg ‹_›).symm⟩

end Receiving

section Undoing

theorem remaining_eq (components : List Value) (name : String) : remaining components name =
    if components.any (!·.isText name) then components.filter (!·.isText name) else [.str fallbackComponent] := by
  unfold remaining
  split
  · rename_i hnil
    rw [List.filter_eq_nil_iff] at hnil
    rw [if_neg]
    rw [List.any_eq_true]
    rintro ⟨c, hc, hne⟩
    exact hnil c hc hne
  · rename_i hne
    obtain ⟨c, hc⟩ := List.exists_mem_of_ne_nil _ hne
    rw [if_pos (List.any_eq_true.mpr ⟨c, List.mem_filter.mp hc⟩)]

def both (want next : Ticket → Option Fields) (x : Ticket) : Ticket :=
  (x.receive (want x)).receive (next (x.receive (want x)))

/-- The ticket `y` is what the ticket `x` becomes when a label is put on and taken off again. -/
structure Undone (repo : Repo) (label : String) (x y : Ticket) : Prop where
  mappedType : ∀ type, repo.issueTypeOf.lookup label = some type → y.issueType = .str repo.issueType
  unmappedType : repo.issueTypeOf.lookup label = none → y.issueType = x.issueType
  mappedComponent : ∀ name, repo.componentOf.lookup label = some name → y.components =
    if x.components.any (·.isText name) ∧ x.components.any (!·.isText name) then x.components.filter (!·.isText name)
    else [.str fallbackComponent]
  unmappedComponent : repo.componentOf.lookup label = none → y.components = x.components

theorem both_applied (repo : Repo) (label : String) (x : Ticket) :
    (both (typeApplied repo label) (componentApplied repo label) x).issueType =
        ((repo.issueTypeOf.lookup label).map .str).getD x.issueType ∧
      (both (typeApplied repo label) (componentApplied repo label) x).components =
        match repo.componentOf.lookup label with
        | none => x.components
        | some name => if x.components.any (·.isText name) then x.components else [.str name] := by
  obtain ⟨htype, hcomponents⟩ := receive_typeApplied repo label x
  obtain ⟨htype', hcomponents'⟩ := receive_componentApplied repo label (x.receive (typeApplied repo label x))
  rw [hcomponents] at hcomponents'
  exact ⟨htype'.trans htype, hcomponents'⟩

theorem both_reset (repo : Repo) (label : String) (x : Ticket) :
    (both (typeReset repo label) (componentReset repo label) x).issueType =
        (if ((repo.issueTypeOf.lookup label).any x.issueType.isText) then .str repo.issueType else x.issueType) ∧
      (both (typeReset repo label) (componentReset repo label) x).components =
        match repo.componentOf.lookup label with
        | none => x.components
        | some name => if x.components.any (·.isText name) then remaining x.components name else x.components := by
  obtain ⟨htype, hcomponents⟩ := receive_typeReset repo label x
  obtain ⟨htype', hcomponents'⟩ := receive_componentReset repo label (x.receive (typeReset repo label x))
  rw [hcomponents] at hcomponents'
  exact ⟨htype'.trans htype, hcomponents'⟩

theorem undone_both (repo : Repo) (label : String) (x : Ticket) :
    Undone repo label x (both (typeReset repo label) (componentReset repo label)
      (both (typeApplied repo label) (componentApplied repo label) x)) := by
  obtain ⟨hytype, hycomponents⟩ := both_applied repo label x
  generalize both (typeApplied repo label) (componentApplied repo label) x = y at hytype hycomponents
  obtain ⟨hztype, hzcomponents⟩ := both_reset repo label y
  refine ⟨fun type htype => ?_, fun htype => ?_, fun name hname => ?_, fun hname => ?_⟩
  · rw [htype, Option.map_some, Option.getD_some] at hytype
    rw [hztype, htype, Option.any_some, hytype]
    exact if_pos (isText_iff.mpr rfl)
  · rw [htype] at hytype
    rw [hztype, htype]
    exact hytype
  · rw [hname] at hycomponents hzcomponents
    dsimp only at hycomponents hzcomponents
    by_cases hany : x.components.any (·.isText name)
    · rw [if_pos hany] at hycomponents
      rw [hzcomponents, hycomponents, if_pos hany, remaining_eq]
      simp only [hany, true_and]
    -- The component has taken the place of all others, so that nothing else is left.
    · have hsole : [Value.str name].any (·.isText name) := List.any_eq_true.mpr
        ⟨_, List.mem_singleton_self _, isText_iff.mpr rfl⟩
      rw [if_neg hany] at hycomponents
      rw [hzcomponents, hycomponents, if_pos hsole, if_neg fun h => hany h.1, remaining_eq]
      refine if_neg fun h => ?_
      obtain ⟨c, hc, hne⟩ := List.any_eq_true.mp h
      rw [List.mem_singleton.mp hc, isText_iff.mpr rfl] at hne
      cases hne
  · rw [hname] at hycomponents hzcomponents
    exact hzcomponents.trans hycomponents

end Undoing

section Keeping

/-- The ticket `y` came from the ticket `x` by label events: it has components if `x` had any, and its type is that of
`x`, the default of the repository or one that a label is mapped to. -/
structure Kept (repo : Repo) (x y : Ticket) : Prop where
  components : x.components ≠ [] → y.components ≠ []
  type : y.issueType = x.issueType ∨ y.issueType = .str repo.issueType ∨
    ∃ label type, repo.issueTypeOf.lookup label = some type ∧ y.issueType = .str type

theorem Kept.refl (repo : Repo) (x : Ticket) : Kept repo x x := ⟨id, .inl rfl⟩

theorem Kept.trans (h : Kept repo x y) (h' : Kept repo y z) : Kept repo x z where
  components hx := h'.components (h.components hx)
  type := by
    obtain hsame | hnew := h'.type
    · rw [hsame]
      exact h.type
    · exact .inr hnew

theorem kept_typeApplied (repo : Repo) (label : String) (x : Ticket) :
    Kept repo x (x.receive (typeApplied repo label x)) := by
  obtain ⟨htype, hcomponents⟩ := receive_typeApplied repo label x
  refine ⟨fun h => hcomponents ▸ h, ?_⟩
  cases hlookup : repo.issueTypeOf.lookup label with
  | none =>
    rw [hlookup] at htype
    exact .inl htype
  | some type =>
    rw [hlookup] at htype
    exact .inr (.inr ⟨label, type, hlookup, htype⟩)

theorem kept_typeReset (repo : Repo) (label : String) (x : Ticket) :
    Kept repo x (x.receive (typeReset repo label x)) := by
  obtain ⟨htype, hcomponents⟩ := receive_typeReset repo label x
  refine ⟨fun h => hcomponents ▸ h, ?_⟩
  split at htype
  · exact .inr (.inl htype)
  · exact .inl htype

theorem kept_componentApplied (repo : Repo) (label : String) (x : Ticket) :
    Kept repo x (x.receive (componentApplied repo label x)) := by
  obtain ⟨htype, hcomponents⟩ := receive_componentApplied repo label x
  refine ⟨fun h => ?_, .inl htype⟩
  rw [hcomponents]
  split
  · exact h
  · split
    · exact h
    · exact List.cons_ne_nil _ _

theorem kept_componentReset (repo : Repo) (label : String) (x : Ticket) :
    Kept repo x (x.receive (componentReset repo label x)) := by
  obtain ⟨htype, hcomponents⟩ := receive_componentReset repo label x
  refine ⟨fun h => ?_, .inl htype⟩
  rw [hcomponents]
  split
  · exact h
  · split
    · exact remaining_ne_nil _ _
    · exact h

def keptFrame (repo : Repo) : Frame where
  rel v w := ∀ r x, v.store.ticket? r = some x → ∃ y, w.store.ticket? r = some y ∧ Kept repo x y
  trans h h' r x hx := by
    obtain ⟨y, hy, hxy⟩ := h r x hx
    obtain ⟨z, hz, hyz⟩ := h' r y hy
    exact ⟨z, hz, hxy.trans hyz⟩
  noted h r x hx := ⟨x, h.store ▸ hx, .refl repo x⟩

theorem rel_update {r : TicketRef} {fs : Fields} {w : World}
    (h : ∀ x, w.store.ticket? r = some x → Kept repo x (x.update fs)) :
    (keptFrame repo).rel w { w with store := w.store.update r fs } := by
  intro r' x hx
  dsimp only
  rw [Store.ticket?_update, hx, Option.map_some]
  by_cases hr : r = r'
  · subst hr
    rw [if_pos rfl]
    exact ⟨_, rfl, h x hx⟩
  · rw [if_neg hr]
    exact ⟨x, rfl, .refl repo x⟩

/-- If a ticket is kept by receiving what it wants, a rule keeps it whether its update fails or not. -/
theorem keeps_consult {want : Ticket → Option Fields} (h : ∀ x, Kept repo x (x.receive (want x))) (r : TicketRef) :
    Keeps (keptFrame repo) (consult r want) := by
  intro w
  refine rel_bind ((silent_view r).keeps w) fun x hx => ?_
  -- The ticket that is updated is the one that was looked at.
  have hview : ∀ y, (after (Bridge.view r) w).store.ticket? r = some y → y = x := by
    intro y hy
    have hx' : (w.store.ticket? r).getD _ = x := Except.ok.inj hx
    rw [show w.store.ticket? r = some y from hy] at hx'
    exact hx'
  cases hwant : want x with
  | none => exact Frame.refl _ _
  | some fs =>
    refine rel_bind ?_ fun _ _ => Frame.refl _ _
    have hkept := h x
    rw [hwant] at hkept
    have hupdate := rel_update fun y hy => (hview y hy).symm ▸ hkept
    rcases applies_update r fs (after (Bridge.view r) w) with hsame | hupdated
    · exact Frame.noted _ hsame
    · exact Frame.trans _ hupdate (Frame.noted _ hupdated)

end Keeping

section Running

variable {u : Course} {r : TicketRef} {want next : Ticket → Option Fields} {step : LabelRule → Step Unit}

/-- Where no update fails, both rules are run, and the ticket receives what they want. -/
theorem proceeds_runAll (hu : u.faults.AcceptsUpdates) (hx : u.store.ticket? r = some x) (hk : x.key ≠ .missing)
    (htype : step issueType = discard (consult r want)) (hcomponent : step component = discard (consult r next)) :
    ∃ v, Proceeds u (runAll all step) (.ok ()) v ∧ v.faults = u.faults ∧
      v.store = u.store.put r (both want next x) := by
  obtain ⟨v, hfirst, hfaults, hstore⟩ := proceeds_consult_of_accepts hu hx hk want
  have hy : v.store.ticket? r = some (x.receive (want x)) := by
    rw [hstore]
    exact Store.ticket?_put_self hx _
  obtain ⟨v', hsecond, hfaults', hstore'⟩ := proceeds_consult_of_accepts (hfaults ▸ hu) hy
    ((x.key_receive _).symm ▸ hk) next
  refine ⟨v', ?_, hfaults'.trans hfaults, ?_⟩
  · have hfirst' := (hfirst.map fun _ => ()).observe
    have hsecond' := (hsecond.map fun _ => ()).observe
    have hfailures : Proceeds u (failures step all) (.ok []) v' := by
      unfold all failures
      rw [htype]
      refine hfirst'.bind ?_
      unfold failures
      rw [hcomponent]
      exact hsecond'.bind (.pure [])
    exact hfailures.bind (.pure ())
  · rw [hstore', hstore, Store.put_put]
    rfl

theorem keeps_runAll (h : ∀ rule ∈ all, Keeps (keptFrame repo) (step rule)) :
    Keeps (keptFrame repo) (runAll all step) :=
  (composed_runAll (P := fun _ x => Keeps (keptFrame repo) x) fun rule hrule => .base (h rule hrule)).keeps
    fun _ _ hx => hx

theorem keeps_apply (r : TicketRef) (repo : Repo) (label : String) :
    ∀ rule ∈ all, Keeps (keptFrame repo) (discard (rule.apply r repo label)) := by
  intro rule hrule
  rcases mem_all_iff.mp hrule with rfl | rfl
  · rw [apply_issueType]
    exact (keeps_consult (kept_typeApplied repo label) r).discard
  · rw [apply_component]
    exact (keeps_consult (kept_componentApplied repo label) r).discard

theorem keeps_reset (r : TicketRef) (repo : Repo) (label : String) :
    ∀ rule ∈ all, Keeps (keptFrame repo) (discard (rule.reset r repo label)) := by
  intro rule hrule
  rcases mem_all_iff.mp hrule with rfl | rfl
  · rw [reset_issueType]
    exact (keeps_consult (kept_typeReset repo label) r).discard
  · rw [reset_component]
    exact (keeps_consult (kept_componentReset repo label) r).discard

end Running

end LabelRule

namespace Bridge

open LabelRule

variable {b : Bridge} {repo : Repo} {e e' : GitHub.IssueEvent} {label : String} {w : World} {r : TicketRef} {x : Ticket}

section Events

def handleAll (b : Bridge) (repo : Repo) (events : List (IssueAction × GitHub.IssueEvent)) (w : World) : World :=
  events.foldl (fun w n => after (b.handleIssue n.1 n.2 repo) w) w

theorem keeps_labelEvent (b : Bridge) (repo : Repo) {a : IssueAction} (ha : a = .labeled ∨ a = .unlabeled)
    (e : GitHub.IssueEvent) : Keeps (keptFrame repo) (b.handleIssue a e repo) := by
  obtain rfl | rfl := ha
  · refine .bind ((silent_awaitIssue b repo.project e.issue.id).keeps.bind fun r => ?_) fun _ => .pure _
    cases e.label with
    | none => exact .say _ _
    | some label => exact keeps_runAll (keeps_apply r repo label.name)
  · refine .bind ((silent_findIssue b repo.project e.issue.id).keeps.bind fun r => ?_) fun _ => .pure _
    cases e.label with
    | none => exact .say _ _
    | some label => exact keeps_runAll (keeps_reset r repo label.name)

theorem keeps_handleAll {events : List (IssueAction × GitHub.IssueEvent)}
    (h : ∀ n ∈ events, n.1 = .labeled ∨ n.1 = .unlabeled) (w : World) :
    (keptFrame repo).rel w (b.handleAll repo events w) := by
  induction events generalizing w with
  | nil => exact Frame.refl _ w
  | cons n events ih =>
    have hfirst := keeps_labelEvent b repo (h n List.mem_cons_self) n.2 w
    exact Frame.trans _ hfirst (ih (fun m hm => h m (List.mem_cons_of_mem _ hm)) _)

end Events

section Toggling

/-- A label is put on an issue and taken off again. Both times the ticket is found, and no update fails. -/
structure Toggles (b : Bridge) (repo : Repo) (label : String) (e e' : GitHub.IssueEvent) (w : World) (r : TicketRef)
    (x : Ticket) : Prop where
  accepts : w.faults.AcceptsUpdates
  ticket : w.store.ticket? r = some x
  key : x.key ≠ .missing
  put : e.label.map (·.name) = some label
  taken : e'.label.map (·.name) = some label
  issue : e'.issue.id = e.issue.id
  found : outcome (b.awaitIssue repo.project e.issue.id) w = .ok r
  again : ∃ r', outcome (b.findIssue repo.project e'.issue.id) (after (b.labeled e repo) w) = .ok r'

theorem runAll_found {find : Step TicketRef} {step : TicketRef → LabelRule → Step Unit}
    {want next : Ticket → Option Fields} (hfind : Silent find) (hfound : outcome find w = .ok r)
    (hw : w.faults.AcceptsUpdates) (hx : w.store.ticket? r = some x) (hk : x.key ≠ .missing)
    (htype : step r issueType = discard (consult r want)) (hcomponent : step r component = discard (consult r next)) :
    outcome (find >>= fun r => runAll all (step r)) w = .ok () ∧
      (after (find >>= fun r => runAll all (step r)) w).faults = w.faults ∧
      (after (find >>= fun r => runAll all (step r)) w).store = w.store.put r (both want next x) := by
  have hstore : (after find w).course.store = w.store := (hfind w).store
  have hfaults : (after find w).course.faults = w.faults := (hfind w).faults
  obtain ⟨v, hrun, hfaults', hstore'⟩ := proceeds_runAll (hfaults.symm ▸ hw) (hstore.symm ▸ hx) hk htype hcomponent
  obtain ⟨ho, rfl⟩ := hrun _ rfl
  rw [outcome_bind_ok hfound, after_bind_ok hfound]
  exact ⟨ho, hfaults'.trans hfaults, hstore'.trans (congrArg (Store.put · r _) hstore)⟩

theorem labeled_found (hw : w.faults.AcceptsUpdates) (hx : w.store.ticket? r = some x) (hk : x.key ≠ .missing)
    (hlabel : e.label.map (·.name) = some label) (hfound : outcome (b.awaitIssue repo.project e.issue.id) w = .ok r) :
    outcome (b.labeled e repo) w = .ok () ∧ (after (b.labeled e repo) w).faults = w.faults ∧
      (after (b.labeled e repo) w).store =
        w.store.put r (both (typeApplied repo label) (componentApplied repo label) x) := by
  obtain ⟨l, hl, rfl⟩ := Option.map_eq_some_iff.mp hlabel
  unfold labeled
  rw [hl]
  exact runAll_found (silent_awaitIssue b _ _) hfound hw hx hk (congrArg _ (apply_issueType r repo l.name))
    (congrArg _ (apply_component r repo l.name))

theorem unlabeled_found (hw : w.faults.AcceptsUpdates) (hx : w.store.ticket? r = some x) (hk : x.key ≠ .missing)
    (hlabel : e.label.map (·.name) = some label) (hfound : outcome (b.findIssue repo.project e.issue.id) w = .ok r) :
    outcome (b.unlabeled e repo) w = .ok () ∧ (after (b.unlabeled e repo) w).faults = w.faults ∧
      (after (b.unlabeled e repo) w).store =
        w.store.put r (both (typeReset repo label) (componentReset repo label) x) := by
  obtain ⟨l, hl, rfl⟩ := Option.map_eq_some_iff.mp hlabel
  unfold unlabeled
  rw [hl]
  exact runAll_found (silent_findIssue b _ _) hfound hw hx hk (congrArg _ (reset_issueType r repo l.name))
    (congrArg _ (reset_component r repo l.name))

theorem finds_labeled (b : Bridge) (e : GitHub.IssueEvent) (repo : Repo) (w : World) (project : String) (id : Int) :
    b.finds (after (b.labeled e repo) w).store project id = b.finds w.store project id := by
  rcases (editsFound_labeled e).alters (silent_awaitIssue b _ _) awaitIssue_eq_ok w with hsame | ⟨r, -, halters⟩
  · rw [hsame]
  · have hmirrored := halters.mono fieldNames_subset_mirrored (fun _ h => h) (fun _ h => h)
    exact finds_congr hmirrored.search project id

/-- The ticket that is found when the label is taken off is the one that was found when it was put on. -/
theorem Toggles.found_again (h : b.Toggles repo label e e' w r x) :
    outcome (b.findIssue repo.project e'.issue.id) (after (b.labeled e repo) w) = .ok r := by
  obtain ⟨r', hagain⟩ := h.again
  have hr' := findIssue_eq_ok hagain
  rw [h.issue, finds_labeled, awaitIssue_eq_ok h.found] at hr'
  obtain rfl := List.singleton_inj.mp hr'
  exact hagain

/-- A label that is put on an issue and taken off again leaves the ticket with the default type, if it is mapped to a
type, and without its component; what is not mapped stays. However often labels are put on and taken off, and whatever
calls fail, after each event a ticket with components has some, and its type is the first one, the default or a mapped
one. -/
theorem label_events_undone_kept (b : Bridge) (repo : Repo) :
    (∀ label e e' w r x, b.Toggles repo label e e' w r x →
      outcome (b.labeled e repo) w = .ok () ∧
        outcome (b.unlabeled e' repo) (after (b.labeled e repo) w) = .ok () ∧
        ∃ y, (after (b.unlabeled e' repo) (after (b.labeled e repo) w)).store = w.store.put r y ∧
          Undone repo label x y) ∧
      ∀ events : List (IssueAction × GitHub.IssueEvent), (∀ n ∈ events, n.1 = .labeled ∨ n.1 = .unlabeled) →
        ∀ done, done <+: events → ∀ w r x, w.store.ticket? r = some x →
          ∃ y, (b.handleAll repo done w).store.ticket? r = some y ∧ Kept repo x y := by
  constructor
  · intro label e e' w r x h
    obtain ⟨hput, hfaults, hstore⟩ := labeled_found h.accepts h.ticket h.key h.put h.found
    have hy : (after (b.labeled e repo) w).store.ticket? r =
        some (both (typeApplied repo label) (componentApplied repo label) x) := by
      rw [hstore]
      exact Store.ticket?_put_self h.ticket _
    obtain ⟨htaken, -, hstore'⟩ := unlabeled_found (hfaults.symm ▸ h.accepts) hy
      (by rw [both, Ticket.key_receive, Ticket.key_receive]; exact h.key) h.taken h.found_again
    rw [hstore, Store.put_put] at hstore'
    exact ⟨hput, htaken, _, hstore', undone_both repo label x⟩
  · intro events hevents done hdone w
    exact keeps_handleAll (fun n hn => hevents n (hdone.subset hn)) w

end Toggling

section Core

def coreRepo : Repo where
  project := "AB"
  issueType := "Task"
  issueTypeOf := [("core", "Bug")]
  componentOf := [("core", "kernel")]

def coreEvent : GitHub.IssueEvent where
  action := "labeled"
  issue := { id := 7, number := 1 }
  repository := { name := "app" }
  label := some ⟨"core"⟩

def coreTicket : Ticket where
  key := .given "AB-1"
  id := .given "1"
  fields := .given [("customfield_10", .int 7),
    ("components", .arr [.obj [("name", .str "kernel")], .obj [], .obj [("name", .str "kernel")]])]

def coreWorld : World := { smallWorld with store := { tickets := [coreTicket] } }

theorem label_events_undone_kept_core : small.Toggles coreRepo "core" coreEvent coreEvent coreWorld 0 coreTicket ∧
    (∃ y, (after (small.unlabeled coreEvent coreRepo) (after (small.labeled coreEvent coreRepo) coreWorld)).store =
      coreWorld.store.put 0 y ∧ y.issueType = .str "Task" ∧ y.components = [.null]) ∧
    ∃ y, (small.handleAll coreRepo [(.unlabeled, coreEvent)] coreWorld).store.ticket? 0 = some y ∧
      y.components ≠ [] := by
  have htoggles : small.Toggles coreRepo "core" coreEvent coreEvent coreWorld 0 coreTicket :=
    ⟨nofun, rfl, nofun, rfl, rfl, rfl, eq_ok_of_toOption (by decide +kernel), 0,
      eq_ok_of_toOption (by decide +kernel)⟩
  obtain ⟨hundone, hkept⟩ := label_events_undone_kept small coreRepo
  obtain ⟨-, -, y, hstore, hy⟩ := hundone _ _ _ _ _ _ htoggles
  obtain ⟨z, hz, hkeeps⟩ := hkept [(.unlabeled, coreEvent), (.labeled, coreEvent)] (by simp) [(.unlabeled, coreEvent)]
    ⟨_, rfl⟩ coreWorld 0 coreTicket rfl
  exact ⟨htoggles, ⟨y, hstore, hy.mappedType "Bug" rfl, hy.mappedComponent "kernel" rfl⟩, z, hz,
    hkeeps.components (List.cons_ne_nil _ _)⟩

end Core

end Bridge

end IssueBridge
