import IssueBridge.Bridge.Handlers
import IssueBridge.Proofs.Correlation.Query
import IssueBridge.Proofs.Tracker.Operation
import IssueBridge.Proofs.Tracker.Store

/-! # Finding the counterpart of an issue

A ticket that is found is the only one that the tracker's search yields. That none was found can be
relied on only where searches are truthful.
-/

namespace IssueBridge

open Step Tracker Correlation

/-- A search is answered with what the store holds, or fails for a reason of the tracker's. -/
def Faults.Truthful (faults : Faults) : Prop :=
  ∀ history text,
    match faults history (.search text) with
    | .served => True
    | .empty => False
    | .failed f => ∀ project id, f ≠ .issueNotFound project id

theorem Tracker.outcome_search (text : String) (w : World) : outcome (search text) w =
    match w.faults w.history (.search text) with
    | .served => .ok (((Query.read? text).map w.store.search).getD [])
    | .empty => .ok []
    | .failed f => .error f := by
  unfold search
  rw [outcome_logging, outcome_bind, outcome_place]
  cases w.faults w.history (.search text) with
  | served =>
    dsimp only
    rw [if_pos rfl, after_place]
    cases Query.read? text <;> rfl
  | empty => rfl
  | failed f => rfl

namespace Bridge

variable {b : Bridge} {s : Store} {w : World} {project : String} {id : Int} {r : TicketRef}

def finds (b : Bridge) (s : Store) (project : String) (id : Int) : List TicketRef :=
  ((Query.read? (query b.fieldIds project id).text).map s.search).getD []

/-- Project keys without quotes and a custom field whose number has no bracket, so that the tracker
understands every search, and another field for the address, so that a new ticket carries its id. -/
structure Searchable (b : Bridge) : Prop where
  project : ∀ p ∈ b.settings.repos, '\x27' ∉ p.2.project.toList
  field : ']' ∉ b.fieldIds.githubId.toList
  url : b.fieldIds.githubUrl ≠ some b.fieldIds.githubId

theorem finds_eq_search (hp : '\x27' ∉ project.toList) (hf : ']' ∉ b.fieldIds.githubId.toList) :
    b.finds s project id = s.search (query b.fieldIds project id) := by
  rw [finds, Query.read?_text_eq_some hp hf]
  rfl

/-- Every search that a pass makes is understood. -/
theorem Searchable.finds_eq {name : String} {repo : Repo} (hb : b.Searchable)
    (hr : (name, repo) ∈ b.settings.repos) (s : Store) (id : Int) :
    b.finds s repo.project id = s.search (query b.fieldIds repo.project id) :=
  finds_eq_search (hb.project _ hr) hb.field

/-- The tracker understands every search for an issue of the repository, and a new ticket carries the id of
its issue. -/
structure Seeks (b : Bridge) (repo : Repo) : Prop where
  project : '\x27' ∉ repo.project.toList
  field : ']' ∉ b.fieldIds.githubId.toList
  url : b.fieldIds.githubUrl ≠ some b.fieldIds.githubId

theorem Searchable.seeks {name : String} {repo : Repo} (hb : b.Searchable)
    (hr : (name, repo) ∈ b.settings.repos) : b.Seeks repo :=
  ⟨hb.project _ hr, hb.field, hb.url⟩

theorem Seeks.finds_eq {repo : Repo} (hb : b.Seeks repo) (s : Store) (id : Int) :
    b.finds s repo.project id = s.search (query b.fieldIds repo.project id) :=
  finds_eq_search hb.project hb.field

theorem search_of_finds (hp : '\x27' ∉ project.toList) (h : b.finds s project id ≠ []) :
    s.search (query b.fieldIds project id) = b.finds s project id := by
  unfold finds at *
  cases hq : Query.read? (query b.fieldIds project id).text with
  | none =>
    rw [hq] at h
    exact absurd rfl h
  | some q =>
    rw [Query.read?_text_of_eq_some hp hq]
    rfl

theorem finds_of_read? {q : Query} (hq : Query.read? (query b.fieldIds project id).text = some q)
    (s : Store) : b.finds s project id = s.search q := by
  unfold finds
  rw [hq]
  rfl

theorem finds_congr {t : Store} (h : ∀ q, t.search q = s.search q) (project : String) (id : Int) :
    b.finds t project id = b.finds s project id := by
  unfold finds
  cases Query.read? (query b.fieldIds project id).text with
  | none => rfl
  | some q => exact h q

theorem mem_finds (h : r ∈ b.finds s project id) : ∃ q : Query,
    Query.read? (query b.fieldIds project id).text = some q ∧ r ∈ s.search q := by
  unfold finds at h
  cases hq : Query.read? (query b.fieldIds project id).text with
  | none =>
    rw [hq] at h
    cases h
  | some q =>
    rw [hq] at h
    exact ⟨q, rfl, h⟩

/-- Whatever its project's key looks like, a ticket is found for one id of the project at most. -/
theorem eq_of_mem_finds {id' : Int} (h : r ∈ b.finds s project id) (h' : r ∈ b.finds s project id') :
    id = id' := by
  obtain ⟨q, hq, hr⟩ := mem_finds h
  obtain ⟨q', hq', hr'⟩ := mem_finds h'
  obtain ⟨x, hx, hanswers⟩ := Store.mem_search.mp hr
  obtain ⟨y, hy, hanswers'⟩ := Store.mem_search.mp hr'
  obtain rfl := Option.some.inj (hx.symm.trans hy)
  calc id = q.id := (Query.id_of_read?_text hq).symm
    _ = q'.id := Ticket.answers_unique hanswers hanswers' (Query.same_field_of_read? hq hq').2
    _ = id' := Query.id_of_read?_text hq'

theorem silent_refuse (project : String) (id : Int) (refs : List TicketRef) :
    Silent (refuse project id refs) :=
  Keeps.get.bind fun _ => (Keeps.say _ _).bind fun _ => .throw _

theorem silent_findIssue (b : Bridge) (project : String) (id : Int) :
    Silent (b.findIssue project id) :=
  (silent_search _).bind fun refs => by
    match refs with
    | [] => exact .throw _
    | [r] => exact .pure r
    | r :: r' :: refs => exact silent_refuse project id (r :: r' :: refs)

theorem ambiguity_ne_issueNotFound (names : List (Option String)) (p : String) (i : Int) :
    ambiguity project id names ≠ .issueNotFound p i := by
  unfold ambiguity
  split <;> exact Failure.noConfusion

theorem outcome_refuse (project : String) (id : Int) (refs : List TicketRef) (w : World) :
    ∃ names, outcome (refuse project id refs) w = .error (ambiguity project id names) :=
  ⟨_, rfl⟩

section Outcome

variable {refs : List TicketRef}

theorem search_eq_ok (h : outcome (search (query b.fieldIds project id).text) w = .ok refs) :
    refs = b.finds w.store project id ∨ refs = [] := by
  rw [outcome_search] at h
  cases hr : w.faults w.history (.search (query b.fieldIds project id).text) with
  | served =>
    rw [hr] at h
    exact .inl (Except.ok.inj h).symm
  | empty =>
    rw [hr] at h
    exact .inr (Except.ok.inj h).symm
  | failed f =>
    rw [hr] at h
    cases h

theorem findIssue_of_error {f : Failure}
    (h : outcome (search (query b.fieldIds project id).text) w = .error f) :
    outcome (b.findIssue project id) w = .error f :=
  outcome_bind_error h

theorem findIssue_of_nil (h : outcome (search (query b.fieldIds project id).text) w = .ok []) :
    outcome (b.findIssue project id) w = .error (.issueNotFound project id) :=
  outcome_bind_ok h

theorem findIssue_of_sole (h : outcome (search (query b.fieldIds project id).text) w = .ok [r]) :
    outcome (b.findIssue project id) w = .ok r :=
  outcome_bind_ok h

theorem findIssue_of_several {r' : TicketRef}
    (h : outcome (search (query b.fieldIds project id).text) w = .ok (r :: r' :: refs)) :
    ∃ names, outcome (b.findIssue project id) w = .error (ambiguity project id names) := by
  obtain ⟨names, hn⟩ := outcome_refuse project id (r :: r' :: refs)
    (after (search (query b.fieldIds project id).text) w)
  exact ⟨names, (outcome_bind_ok h).trans hn⟩

theorem findIssue_eq_ok (h : outcome (b.findIssue project id) w = .ok r) :
    b.finds w.store project id = [r] := by
  cases hs : outcome (search (query b.fieldIds project id).text) w with
  | error f =>
    rw [findIssue_of_error hs] at h
    cases h
  | ok refs =>
    match refs with
    | [] =>
      rw [findIssue_of_nil hs] at h
      cases h
    | [r'] =>
      rw [findIssue_of_sole hs] at h
      rw [← Except.ok.inj h]
      exact ((search_eq_ok hs).resolve_right (List.cons_ne_nil _ _)).symm
    | _ :: _ :: _ =>
      obtain ⟨names, hn⟩ := findIssue_of_several hs
      rw [hn] at h
      cases h

/-- With truthful searches, an issue that is not found is carried by no ticket. -/
theorem finds_of_issueNotFound {p : String} {i : Int} (hw : w.faults.Truthful)
    (h : outcome (b.findIssue project id) w = .error (.issueNotFound p i)) :
    b.finds w.store project id = [] := by
  have ht := hw w.history (query b.fieldIds project id).text
  cases hs : outcome (search (query b.fieldIds project id).text) w with
  | error f =>
    rw [findIssue_of_error hs] at h
    rw [outcome_search] at hs
    cases hr : w.faults w.history (.search (query b.fieldIds project id).text) with
    | failed g =>
      rw [hr] at hs ht
      exact absurd ((Except.error.inj hs).trans (Except.error.inj h)) (ht p i)
    | served =>
      rw [hr] at hs
      cases hs
    | empty =>
      rw [hr] at hs
      cases hs
  | ok refs =>
    match refs with
    | [] =>
      rw [outcome_search] at hs
      cases hr : w.faults w.history (.search (query b.fieldIds project id).text) with
      | served =>
        rw [hr] at hs
        exact Except.ok.inj hs
      | empty =>
        rw [hr] at ht
        exact ht.elim
      | failed g =>
        rw [hr] at hs
        cases hs
    | [r] =>
      rw [findIssue_of_sole hs] at h
      cases h
    | _ :: _ :: _ =>
      obtain ⟨names, hn⟩ := findIssue_of_several hs
      rw [hn] at h
      exact absurd (Except.error.inj h) (ambiguity_ne_issueNotFound names p i)

end Outcome

section Waiting

theorem silent_findAfter (b : Bridge) (project : String) (id : Int) :
    ∀ left k, Silent (b.findAfter project id k left)
  | 0, _ => silent_findIssue b project id
  | left + 1, k => (silent_findIssue b project id).observe.bind fun o => by
    match o with
    | .ok r => exact .pure r
    | .error f =>
      split
      · cases ‹Except.error f = .ok _›
      · exact (Keeps.ofExcept _).bind fun _ => (Keeps.place _).bind fun _ =>
          silent_findAfter b project id left (k + 1)
      · exact .throw _

theorem silent_awaitIssue (b : Bridge) (project : String) (id : Int) :
    Silent (b.awaitIssue project id) :=
  silent_findAfter b project id _ _

theorem findAfter_eq_ok : ∀ {left k : Nat} {w : World},
    outcome (b.findAfter project id k left) w = .ok r → b.finds w.store project id = [r]
  | 0, _, _, h => findIssue_eq_ok h
  | left + 1, k, w, h => by
    obtain ⟨o, ho, h⟩ := bind_eq_ok h
    have hstore : (after (observe (b.findIssue project id)) w).store = w.store :=
      ((silent_findIssue b project id).observe w).store
    rw [outcome_observe, Except.ok.injEq] at ho
    match o with
    | .ok r' =>
      rw [← Except.ok.inj h]
      exact findIssue_eq_ok ho
    | .error f =>
      split at h
      · cases ‹Except.error f = .ok _›
      · obtain ⟨_, hd, h⟩ := bind_eq_ok h
        obtain ⟨_, -, h⟩ := bind_eq_ok h
        rw [after_ofExcept, after_place] at h
        have hfound := findAfter_eq_ok h
        rw [← hstore]
        exact hfound
      · cases h

theorem awaitIssue_eq_ok (h : outcome (b.awaitIssue project id) w = .ok r) :
    b.finds w.store project id = [r] :=
  findAfter_eq_ok h

end Waiting

end Bridge

end IssueBridge
