import IssueBridge.Projection.Fields
import IssueBridge.Tracker.Store

/-! # Fields of a ticket

An update sets the fields it names and leaves the others, the key, the id and what else is known of a
ticket. The custom fields that tie a ticket to its source are never among the fields of an update.
-/

namespace IssueBridge

namespace Fields

theorem get?_overlay_of_notMem {new : Fields} {name : String} (h : name ∉ new.map (·.1)) :
    ∀ base : Fields, (base.overlay new).get? name = base.get? name := by
  induction new with
  | nil => exact fun _ => rfl
  | cons p new ih =>
    intro base
    rw [List.map_cons, List.mem_cons, not_or] at h
    show ((base.set p.1 p.2).overlay new).get? name = _
    rw [ih h.2, get?_set_of_ne h.1]

theorem set_set (fs : Fields) (name : String) (v v' : Value) :
    (fs.set name v).set name v' = fs.set name v' := by
  induction fs with
  | nil => simp [set]
  | cons p fs ih =>
    obtain ⟨n, old⟩ := p
    by_cases h : n = name
    · simp [set, h]
    · simp [set, h, ih]

theorem set_of_get? {fs : Fields} {name : String} {v : Value} (h : fs.get? name = some v) :
    fs.set name v = fs := by
  induction fs with
  | nil => cases h
  | cons p fs ih =>
    obtain ⟨n, old⟩ := p
    rw [get?_cons] at h
    by_cases hn : n = name
    · rw [if_pos hn.symm, Option.some.injEq] at h
      simp [set, hn, h]
    · rw [if_neg (Ne.symm hn)] at h
      simp [set, hn, ih h]

end Fields

namespace Tracker

/-- The name of a custom field is longer than the names of the other fields. -/
theorem customField_ne {name : String} (h : name.length < 12) (id : String) :
    customField id ≠ name := by
  rintro rfl
  simp only [customField, String.length_append] at h
  have : "customfield_".length = 12 := rfl
  omega

theorem customField_inj {a b : String} (h : customField a = customField b) : a = b := by
  simpa [customField] using h

namespace Ticket

/-- The two tickets differ at most in the fields of the given names. -/
structure SameBut (names : List String) (t t' : Ticket) : Prop where
  key : t'.key = t.key
  id : t'.id = t.id
  rest : t'.rest = t.rest
  field : ∀ name, name ∉ names → t'.fieldsGiven.get? name = t.fieldsGiven.get? name

variable {names names' : List String} {t t' t'' : Ticket}

theorem SameBut.refl (names : List String) (t : Ticket) : SameBut names t t :=
  ⟨rfl, rfl, rfl, fun _ _ => rfl⟩

theorem SameBut.symm (h : SameBut names t t') : SameBut names t' t :=
  ⟨h.key.symm, h.id.symm, h.rest.symm, fun name hn => (h.field name hn).symm⟩

theorem SameBut.trans (h : SameBut names t t') (h' : SameBut names t' t'') : SameBut names t t'' where
  key := h'.key.trans h.key
  id := h'.id.trans h.id
  rest := h'.rest.trans h.rest
  field name hn := (h'.field name hn).trans (h.field name hn)

theorem SameBut.mono (h : SameBut names t t') (hs : names ⊆ names') : SameBut names' t t' :=
  ⟨h.key, h.id, h.rest, fun name hn => h.field name fun hm => hn (hs hm)⟩

theorem sameBut_update (t : Ticket) {new : Fields} (h : new.map (·.1) ⊆ names) :
    SameBut names t (t.update new) :=
  ⟨rfl, rfl, rfl, fun _ hn => Fields.get?_overlay_of_notMem (fun hm => hn (h hm)) _⟩

theorem SameBut.project (h : SameBut names t t') : t'.project = t.project := by
  simp only [Ticket.project, keyProject, h.rest, h.key]

theorem SameBut.sourceId (h : SameBut names t t') {name : String} (hn : name ∉ names) :
    t'.sourceId name = t.sourceId name := by
  simp only [Ticket.sourceId, h.field name hn, h.rest]

theorem SameBut.answers (h : SameBut names t t') (hn : ∀ id, customField id ∉ names)
    (q : Correlation.Query) : t'.answers q = t.answers q := by
  simp only [Ticket.answers, h.project]
  rw [show "customfield_" ++ q.field = customField q.field from rfl, h.sourceId (hn _)]

theorem answers_unique {q q' : Correlation.Query} (h : t.answers q) (h' : t.answers q')
    (hfield : q.field = q'.field) : q.id = q'.id := by
  unfold Ticket.answers at h h'
  simp only [Bool.and_eq_true, hfield] at h h'
  generalize t.sourceId ("customfield_" ++ q'.field) = v at h h'
  have hnumber : ∀ m n, v.isNumber m → v.isNumber n → m = n := by
    intro m n hm hn
    cases v with
    | int k => simp_all [Value.isNumber]
    | bool k => simp_all [Value.isNumber]
    | float k => simp_all [Value.isNumber]
    | _ => cases hm
  exact hnumber q.id q'.id h.2 h'.2

/-- The thread in which the comments of a ticket stand, unless it has no id at all. -/
def thread? (t : Ticket) : Option ThreadId :=
  match t.id with
  | .given i => some (some i)
  | .null => some none
  | .missing => none

theorem SameBut.thread? (h : SameBut names t t') : t'.thread? = t.thread? := by
  rw [Ticket.thread?, Ticket.thread?, h.id]

theorem get?_id {thread : ThreadId} (h : t.thread? = some thread) : t.id.get? = thread := by
  unfold Ticket.thread? at h
  cases hid : t.id with
  | missing =>
    rw [hid] at h
    cases h
  | null =>
    rw [hid] at h
    exact Option.some.inj h
  | given n =>
    rw [hid] at h
    exact Option.some.inj h

end Ticket

/-- The fields that a bridge writes after a ticket was made. -/
def mirrored : List String :=
  ["summary", "description", "assignee", "status", "issuetype", "components"]

theorem customField_notMem_mirrored (id : String) : customField id ∉ mirrored := by
  intro h
  simp only [mirrored, List.mem_cons, List.not_mem_nil, or_false] at h
  rcases h with h | h | h | h | h | h <;> exact customField_ne (by decide) id h

end Tracker

end IssueBridge
