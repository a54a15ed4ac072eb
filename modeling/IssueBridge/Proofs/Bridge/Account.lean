import IssueBridge.Proofs.Bridge.Visit

/-! # What visits add up to

The entries of a visit, seen by their kind: the calls, the row, and what each counter gains. Counters of several
visits are sums over all of them.
-/

namespace IssueBridge

open Step Tracker

namespace Visit

variable {b : Bridge} {v : Visit} {α : Type} {credit : α → Option String} {name : String} {repo : Repo}
  {faults : Faults} {clock : Time.Timestamp} {rows : Nat}

section Calls

def lookCall (b : Bridge) (repo : Repo) (i : GitHub.Issue) : Call :=
  .search (Bridge.query b.fieldIds repo.project i.id).text

/-- The booked calls of a visit: one listing, a search for each issue before any ticket is brought up to date and
one when it is, and one row. -/
def calls (b : Bridge) (v : Visit) : List Call :=
  .repository (GitHub.fullName v.repo.owner v.name) false ::
    (v.issues.map (lookCall b v.repo) ++ v.issues.map (lookCall b v.repo) ++ [.openSession, .commit])

section Seen

theorem filterMap_cons_toList {β γ : Type} (f : β → Option γ) (a : β) (l : List β) :
    (a :: l).filterMap f = (f a).toList ++ l.filterMap f := by
  cases h : f a with
  | none => exact List.filterMap_cons_none h
  | some c => exact List.filterMap_cons_some h

variable {β : Type} {see : Deed → Option β}

/-- What is seen of the entries of some tasks, if counts and errors are not seen. -/
theorem filterMap_tasks (hcount : ∀ key n, see (.count key n) = none) (herror : ∀ e, see (.error e) = none)
    (b : Bridge) (name : String) (repo : Repo) (credit : α → Option String) :
    ∀ l, (List.flatMap (taskDeeds b name repo credit) l).filterMap see =
      (l.map (·.1)).filterMap fun i => see (lookDeed b repo i)
  | [] => rfl
  | (i, o) :: l => by
    have hend : (endDeeds name credit i o).filterMap see = [] := by
      cases o with
      | ok a =>
        refine List.filterMap_eq_nil_iff.mpr fun d hd => ?_
        obtain ⟨key, -, rfl⟩ := List.mem_map.mp hd
        exact hcount key 1
      | error f => exact List.filterMap_eq_nil_iff.mpr fun d hd => List.mem_singleton.mp hd ▸ herror _
    rw [List.flatMap_cons, List.filterMap_append, filterMap_tasks hcount herror b name repo credit l,
      List.map_cons, taskDeeds, filterMap_cons_toList, hend, List.append_nil, filterMap_cons_toList]

/-- What is seen of the entries of a visit, if counts and errors are not seen. -/
theorem filterMap_deeds (hcount : ∀ key n, see (.count key n) = none) (herror : ∀ e, see (.error e) = none)
    (h : v.Thorough faults clock rows) : (v.deeds b).filterMap see =
      (see (.call (.repository (GitHub.fullName v.repo.owner v.name) false))).toList ++
        (v.issues.filterMap (fun i => see (lookDeed b v.repo i)) ++
          v.issues.filterMap fun i => see (lookDeed b v.repo i)) ++
        (Bridge.rowDeeds v.entry v.journalled).filterMap see := by
  cases hl : v.listed with
  | ok issues =>
    rw [deeds_of_listed hl, List.filterMap_cons_none (hcount ..), filterMap_cons_toList, List.filterMap_append,
      List.filterMap_cons_none (hcount ..), List.filterMap_append, filterMap_tasks hcount herror,
      filterMap_tasks hcount herror, h.ensured, h.updated, List.append_assoc, List.append_assoc, List.append_assoc]
  | error f =>
    rw [deeds_of_unlisted hl, List.filterMap_cons_none (hcount ..), filterMap_cons_toList,
      List.filterMap_cons_none (herror _), issues_of_unlisted hl]
    simp only [List.filterMap_nil, List.append_nil]

end Seen

theorem call?_deeds (h : v.Thorough faults clock rows) : (v.deeds b).filterMap Deed.call? = v.calls b := by
  have hrow : (Bridge.rowDeeds v.entry v.journalled).filterMap Deed.call? = [.openSession, .commit] := by
    cases v.journalled <;> rfl
  have hlook : (v.issues.filterMap fun i => Deed.call? (lookDeed b v.repo i)) = v.issues.map (lookCall b v.repo) :=
    congrFun List.filterMap_eq_map v.issues
  rw [filterMap_deeds (fun _ _ => rfl) (fun _ => rfl) h, hlook, hrow, List.append_assoc]
  rfl

def row? (v : Visit) : Option JournalEntry := v.journalled.toOption.map fun _ => v.entry

theorem row?_deeds (h : v.Thorough faults clock rows) : (v.deeds b).filterMap Deed.row? = v.row?.toList := by
  have hlook : (v.issues.filterMap fun i => Deed.row? (lookDeed b v.repo i)) = [] :=
    List.filterMap_eq_nil_iff.mpr fun _ _ => rfl
  rw [filterMap_deeds (fun _ _ => rfl) (fun _ => rfl) h, hlook]
  unfold row?
  cases v.journalled <;> rfl

theorem mark?_deeds (h : v.Thorough faults clock rows) : (v.deeds b).filterMap Deed.mark? = [] := by
  have hlook : (v.issues.filterMap fun i => Deed.mark? (lookDeed b v.repo i)) = [] :=
    List.filterMap_eq_nil_iff.mpr fun _ _ => rfl
  rw [filterMap_deeds (fun _ _ => rfl) (fun _ => rfl) h, hlook]
  cases v.journalled <;> rfl

end Calls

section Totals

open Deed

def same (key key' : String) : Int := if key = key' then 1 else 0

theorem gain_count (key key' : String) (n : Int) : gain key' (.count key n) = same key key' * n := by
  unfold same
  by_cases h : key = key'
  · rw [if_pos h, Int.one_mul]
    exact if_pos h
  · rw [if_neg h, Int.zero_mul]
    exact if_neg h

theorem gain_error (key : String) (e : TallyError) : gain key (.error e) = same "errors" key := rfl

def credited (credit : α → Option String) (key : String) : Except Failure α → Bool
  | .ok a => credit a = some key
  | .error _ => false

def credits (credit : α → Option String) (key : String) (l : List (GitHub.Issue × Except Failure α)) : Nat :=
  l.countP (credited credit key ·.2)

theorem total_endDeeds_ok (name : String) (credit : α → Option String) (i : GitHub.Issue) (a : α) (key : String) :
    total key (endDeeds name credit i (.ok a)) = if credited credit key (.ok a) then 1 else 0 := by
  cases h : credit a with
  | none => simp [endDeeds, credited, h, total]
  | some k => simp [endDeeds, credited, h, total, gain]

theorem total_tasks (b : Bridge) (name : String) (repo : Repo) (credit : α → Option String) (key : String) :
    ∀ l, total key (List.flatMap (taskDeeds b name repo credit) l) =
      credits credit key l + same "errors" key * (failures name l).length
  | [] => by simp [total, credits, failures]
  | (i, o) :: l => by
    have hlook : gain key (lookDeed b repo i) = 0 := rfl
    rw [List.flatMap_cons, total_append, total_tasks b name repo credit key l, Bridge.failures_cons, taskDeeds,
      total_cons, hlook]
    unfold credits
    rw [List.countP_cons]
    cases o with
    | ok a =>
      rw [total_endDeeds_ok]
      push_cast
      ring
    | error f =>
      rw [endDeeds, total_cons, failDeed, gain_error, credited, if_neg (by decide), List.length_cons]
      push_cast
      unfold total
      rw [List.map_nil, List.sum_nil]
      ring

theorem total_rowDeeds (key : String) (e : JournalEntry) (o : Except Failure Unit) :
    total key (Bridge.rowDeeds e o) = 0 := by
  cases o <;> rfl

theorem total_deeds (h : v.Thorough faults clock rows) (key : String) : total key (v.deeds b) =
    same "repositories" key + same "issues" key * v.issues.length + credits ensuredCredit key v.ensured +
      credits updatedCredit key v.updated + same "errors" key * v.errors.length := by
  have hlist : gain key (.call (.repository (GitHub.fullName v.repo.owner v.name) false)) = 0 := rfl
  cases hl : v.listed with
  | ok issues =>
    rw [deeds_of_listed hl, total_cons, total_cons, total_append, total_cons, total_append, total_tasks,
      total_tasks, total_rowDeeds, gain_count, gain_count, hlist, errors_of_listed hl, issues_of_listed hl,
      List.length_append]
    push_cast
    ring
  | error f =>
    have hensured : v.ensured = [] := List.map_eq_nil_iff.mp (h.ensured.trans (issues_of_unlisted hl))
    have hupdated : v.updated = [] := List.map_eq_nil_iff.mp (h.updated.trans (issues_of_unlisted hl))
    rw [deeds_of_unlisted hl, total_cons, total_cons, total_cons, total_rowDeeds, gain_count, gain_error, hlist,
      errors_of_unlisted hl, issues_of_unlisted hl, hensured, hupdated]
    simp [credits]

theorem total_visits (key : String) : ∀ {vs : List Visit}, (∀ v ∈ vs, v.Thorough faults clock rows) →
    total key (vs.flatMap (deeds b)) =
      same "repositories" key * vs.length + same "issues" key * (vs.flatMap issues).length +
        credits ensuredCredit key (vs.flatMap ensured) + credits updatedCredit key (vs.flatMap updated) +
          same "errors" key * (vs.flatMap errors).length
  | [], _ => by simp [total, credits]
  | v :: vs, h => by
    rw [List.flatMap_cons, total_append, total_deeds (h v List.mem_cons_self),
      total_visits key fun u hu => h u (List.mem_cons_of_mem _ hu)]
    simp only [List.flatMap_cons, List.length_append, List.length_cons, credits, List.countP_append]
    push_cast
    ring

theorem credits_add_failures {key : String} (h : ∀ a, credit a = some key) (name : String) :
    ∀ l, credits credit key l + (failures name l).length = l.length
  | [] => rfl
  | (i, o) :: l => by
    have hl := credits_add_failures h name l
    rw [Bridge.failures_cons]
    unfold credits at hl ⊢
    rw [List.countP_cons, List.length_cons]
    cases o with
    | ok a =>
      rw [credited, if_pos (by simp [h a])]
      dsimp only
      omega
    | error f =>
      rw [credited, if_neg (by decide), List.length_cons]
      omega

theorem credits_eq_zero {key : String} (h : ∀ a, credit a ≠ some key)
    (l : List (GitHub.Issue × Except Failure α)) : credits credit key l = 0 := by
  refine List.countP_eq_zero.mpr fun p _ => ?_
  cases p.2 with
  | ok a => simp [credited, h a]
  | error f => exact Bool.false_ne_true

end Totals

end Visit

end IssueBridge
