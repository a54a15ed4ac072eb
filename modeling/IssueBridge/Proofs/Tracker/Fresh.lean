import IssueBridge.Proofs.Projection.Result
import IssueBridge.Proofs.Text.Digits
import IssueBridge.Proofs.Tracker.Store

/-! # New tickets

A new ticket stands behind the others, in the project that its fields name, and carries the id that
they give. So a search finds it exactly under its own project and id.
-/

namespace IssueBridge

open Tracker Correlation

namespace Tracker

/-- The numbered keys of a project name that project, whatever hyphens its own key has. -/
theorem Ticket.keyPrefix_numbered (project : String) (n : Nat) :
    keyPrefix (project ++ "-" ++ toString n) = project := by
  have hdigits : ∀ c ∈ (Nat.toDigits 10 n).reverse, (decide (c ≠ '-')) = true := by
    intro c hc
    have hd := Text.isDigit_of_mem_digits (List.mem_reverse.mp hc)
    simp only [ne_eq, decide_not, Bool.not_eq_eq_eq_not, Bool.not_true, decide_eq_false_iff_not]
    rintro rfl
    exact absurd hd (by decide)
  have hkey : (project ++ "-" ++ toString n).toList.reverse =
      (Nat.toDigits 10 n).reverse ++ '-' :: project.toList.reverse := by
    rw [String.toList_append, String.toList_append, Nat.toString_eq_repr, Nat.toList_repr,
      List.reverse_append, List.reverse_append]
    rfl
  rw [keyPrefix, hkey, List.dropWhile_append_of_pos hdigits]
  simp [String.ofList_toList]

namespace Store

variable {s : Store} {fs : Fields}

theorem project_newTicket (s : Store) (fs : Fields) : (s.newTicket fs).project = projectKey fs :=
  Ticket.keyPrefix_numbered ..

theorem get?_newTicket {name : String} (h : name ≠ "status") :
    (s.newTicket fs).fieldsGiven.get? name = fs.get? name :=
  Fields.get?_set_of_ne h

theorem get?_status_newTicket (s : Store) (fs : Fields) :
    (s.newTicket fs).fieldsGiven.get? "status" = some (Store.status "To Do") :=
  Fields.get?_set_self ..

theorem sourceId_newTicket {name : String} (h : name ≠ "status") :
    (s.newTicket fs).sourceId name = (fs.get? name).getD .null := by
  rw [Ticket.sourceId, get?_newTicket h]
  cases fs.get? name <;> rfl

theorem ticket?_create_of_lt {r : TicketRef} (h : r < s.tickets.length) :
    (s.create fs).2.ticket? r = s.ticket? r :=
  List.getElem?_append_left h

theorem ticket?_create (s : Store) (fs : Fields) :
    (s.create fs).2.ticket? s.tickets.length = some (s.newTicket fs) :=
  List.getElem?_concat_length ..

theorem length_create (s : Store) (fs : Fields) :
    (s.create fs).2.tickets.length = s.tickets.length + 1 :=
  List.length_append

/-- A new ticket is found in addition to those that were there. -/
theorem search_create (s : Store) (fs : Fields) (q : Query) : (s.create fs).2.search q =
    s.search q ++ if (s.newTicket fs).answers q then [s.tickets.length] else [] := by
  have hold : ((List.range s.tickets.length).filter fun r =>
      ((s.create fs).2.ticket? r).any (·.answers q)) = s.search q := by
    rw [search_eq_filter]
    exact List.filter_congr fun r hr => by rw [ticket?_create_of_lt (List.mem_range.mp hr)]
  have hnew : ([s.tickets.length].filter fun r => ((s.create fs).2.ticket? r).any (·.answers q)) =
      if (s.newTicket fs).answers q then [s.tickets.length] else [] := by
    rw [List.filter_cons, ticket?_create, Option.any_some, List.filter_nil]
  rw [search_eq_filter, length_create, List.range_succ, List.filter_append, hold, hnew]

end Store

end Tracker

namespace Projector

variable {p : Projector} {i : GitHub.Issue} {repo : Repo} {d : String}

theorem get?_withAssignee {fs : Fields} {user : Option String} {name : String} (h : name ≠ "assignee") :
    (withAssignee fs user).get? name = fs.get? name := by
  unfold withAssignee
  split
  · rfl
  · exact Fields.get?_set_of_ne h

theorem get?_urlFields {fs : Fields} {name : String}
    (h : ∀ id, p.fieldIds.githubUrl = some id → name ≠ customField id) :
    (p.urlFields i repo fs).get? name = fs.get? name := by
  unfold urlFields
  split
  · split
    · rfl
    · rename_i hid
      cases hu : p.fieldIds.githubUrl with
      | none =>
        rw [hu] at hid
        exact absurd rfl hid
      | some id => exact Fields.get?_set_of_ne (h id hu)
  · rfl

theorem get?_newFieldsOf {name : String} (ha : name ≠ "assignee")
    (hu : ∀ id, p.fieldIds.githubUrl = some id → name ≠ customField id) :
    (p.newFieldsOf i repo d).get? name = (p.baseFields i repo d).get? name :=
  (get?_urlFields hu).trans (get?_withAssignee ha)

theorem get?_summary_newFieldsOf : (p.newFieldsOf i repo d).get? "summary" = some (.str i.title) := by
  rw [get?_newFieldsOf (by decide) fun id _ => (customField_ne (by decide) id).symm]
  exact Fields.get?_set_of_ne (customField_ne (by decide) _).symm

theorem get?_description_newFieldsOf : (p.newFieldsOf i repo d).get? "description" = some (.str d) := by
  rw [get?_newFieldsOf (by decide) fun id _ => (customField_ne (by decide) id).symm]
  exact Fields.get?_set_of_ne (customField_ne (by decide) _).symm

theorem get?_githubId_newFieldsOf (h : p.fieldIds.githubUrl ≠ some p.fieldIds.githubId) :
    (p.newFieldsOf i repo d).get? (customField p.fieldIds.githubId) = some (.int i.id) := by
  rw [get?_newFieldsOf (customField_ne (by decide) _)]
  · exact Fields.get?_set_self ..
  · intro id hid heq
    exact h (hid.trans (congrArg some (customField_inj heq).symm))

/-- The only number in a custom field of a new ticket is the id of its issue. -/
theorem id_of_isNumber_newFieldsOf {field : String} {v : Value} {n : Int}
    (h : (p.newFieldsOf i repo d).get? (customField field) = some v) (hn : v.isNumber n) : i.id = n := by
  have hbase : (p.baseFields i repo d).get? (customField field) = some v → i.id = n := by
    intro hv
    unfold baseFields at hv
    rw [Fields.get?_set] at hv
    split at hv
    · rw [← Option.some.inj hv] at hn
      simpa [Value.isNumber] using hn
    · have hne : ∀ {name : String}, name.length < 12 → customField field ≠ name := fun hlen =>
        customField_ne hlen field
      simp only [Fields.get?_cons, Fields.get?_nil] at hv
      repeat rw [if_neg (hne (by decide))] at hv
      cases hv
  unfold newFieldsOf urlFields at h
  rw [← get?_withAssignee (customField_ne (by decide) field)] at hbase
  split at h
  · split at h
    · exact hbase h
    · rw [Fields.get?_set] at h
      split at h
      · rw [← Option.some.inj h] at hn
        cases hn
      · exact hbase h
  · exact hbase h

theorem get?_project_newFieldsOf :
    (p.newFieldsOf i repo d).get? "project" = some (.obj [("key", .str repo.project)]) := by
  rw [get?_newFieldsOf (by decide) fun id _ => (customField_ne (by decide) id).symm]
  exact Fields.get?_set_of_ne (customField_ne (by decide) _).symm

end Projector

end IssueBridge
