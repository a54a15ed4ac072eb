import IssueBridge.Proofs.Bridge.Accounted
import Mathlib.Data.List.Nodup

/-! # How many issues failed

Looking for the ticket of an issue and bringing it up to date may both fail. The row that a visit writes counts
both errors. So it tells how many issues failed exactly if no issue failed twice.
-/

namespace IssueBridge

open Step Tracker

def TallyError.concern (es : List TallyError) (i : GitHub.Issue) : Bool := es.any (·.issue = some i.number)

def Tally.failed (t : Tally) (name : String) (issues : List GitHub.Issue) : List GitHub.Issue :=
  issues.filter (TallyError.concern (t.errorsOf name))

namespace Visit

/-- The issues that failed both when their tickets were looked for and when these were brought up to date. -/
def failedTwice (v : Visit) : List GitHub.Issue :=
  v.issues.filter fun i =>
    TallyError.concern (failures v.name v.ensured) i && TallyError.concern (failures v.name v.updated) i

variable {α : Type} {name : String} {l : List (GitHub.Issue × Except Failure α)} {v : Visit} {faults : Faults}
  {clock : Time.Timestamp} {rows : Nat}

theorem concern_append (es es' : List TallyError) (i : GitHub.Issue) :
    TallyError.concern (es ++ es') i = (TallyError.concern es i || TallyError.concern es' i) :=
  List.any_append

theorem concern_failures_iff {i : GitHub.Issue} : TallyError.concern (failures name l) i ↔
    ∃ p ∈ l, p.1.number = i.number ∧ p.2.toOption = none := by
  unfold TallyError.concern failures
  rw [List.any_filterMap, List.any_eq_true]
  refine exists_congr fun p => and_congr_right fun _ => ?_
  cases p.2 with
  | ok a => simp [Except.toOption]
  | error f => simp [Except.toOption]

/-- Among issues with distinct numbers there are as many failures as issues that failed. -/
theorem length_failures (h : ((l.map (·.1)).map (·.number)).Nodup) :
    (failures name l).length = (l.map (·.1)).countP (TallyError.concern (failures name l)) := by
  have hfailed : ∀ p ∈ l, TallyError.concern (failures name l) p.1 ↔ p.2.toOption = none := by
    intro p hp
    rw [concern_failures_iff]
    constructor
    · rintro ⟨q, hq, hnumber, hnone⟩
      rw [List.map_map] at h
      rw [← List.inj_on_of_nodup_map h hq hp hnumber]
      exact hnone
    · exact fun hnone => ⟨p, hp, rfl, hnone⟩
  rw [List.countP_map]
  unfold failures at hfailed ⊢
  rw [List.length_filterMap_eq_countP]
  refine List.countP_congr fun p hp => ?_
  rw [Function.comp_apply, hfailed p hp]
  cases p.2 with
  | ok a => simp [Except.toOption]
  | error f => simp [Except.toOption]

theorem countP_add_countP {β : Type} (p q : β → Bool) (l : List β) :
    l.countP p + l.countP q = l.countP (fun a => p a || q a) + l.countP (fun a => p a && q a) := by
  induction l with
  | nil => rfl
  | cons a l ih =>
    simp only [List.countP_cons]
    cases p a <;> cases q a <;> simp <;> omega

/-- A visit meets as many errors as issues failed, and one more for each issue that failed twice. -/
theorem length_errors {issues : List GitHub.Issue} (h : v.Thorough faults clock rows) (hlisted : v.listed = .ok issues)
    (hd : (issues.map (·.number)).Nodup) :
    v.errors.length = issues.countP (TallyError.concern v.errors) + v.failedTwice.length := by
  have hissues : v.issues = issues := issues_of_listed hlisted
  have hensured : v.ensured.map (·.1) = issues := h.ensured.trans hissues
  have hupdated : v.updated.map (·.1) = issues := h.updated.trans hissues
  have hfirst : (failures v.name v.ensured).length = _ := length_failures (by rwa [hensured])
  have hsecond : (failures v.name v.updated).length = _ := length_failures (by rwa [hupdated])
  rw [hensured] at hfirst
  rw [hupdated] at hsecond
  have heither : TallyError.concern v.errors = fun i => TallyError.concern (failures v.name v.ensured) i ||
      TallyError.concern (failures v.name v.updated) i := by
    funext i
    rw [errors_of_listed hlisted, concern_append]
  rw [heither, failedTwice, hissues, ← List.countP_eq_length_filter, ← countP_add_countP, ← hfirst, ← hsecond,
    errors_of_listed hlisted, List.length_append]

/-- The errors of several visits belong to the visits whose repositories they name. -/
theorem filter_errors {vs : List Visit} (hd : (vs.map (·.name)).Nodup) (hv : v ∈ vs) :
    (vs.flatMap errors).filter (·.repository = v.name) = v.errors := by
  induction vs with
  | nil => cases hv
  | cons u vs ih =>
    rw [List.map_cons, List.nodup_cons] at hd
    rw [List.flatMap_cons, List.filter_append]
    rcases List.mem_cons.mp hv with rfl | hv
    · have hown : v.errors.filter (·.repository = v.name) = v.errors :=
        List.filter_eq_self.mpr fun e he => decide_eq_true (Bridge.repository_of_errors v e he)
      have hothers : (vs.flatMap errors).filter (·.repository = v.name) = [] := by
        refine List.filter_eq_nil_iff.mpr fun e he hname => ?_
        obtain ⟨u, hu, he⟩ := List.mem_flatMap.mp he
        rw [Bridge.repository_of_errors u e he, decide_eq_true_iff] at hname
        exact hd.1 (hname ▸ List.mem_map_of_mem hu)
      rw [hown, hothers, List.append_nil]
    · have hother : u.errors.filter (·.repository = v.name) = [] := by
        refine List.filter_eq_nil_iff.mpr fun e he hname => ?_
        rw [Bridge.repository_of_errors u e he, decide_eq_true_iff] at hname
        exact hd.1 (hname ▸ List.mem_map_of_mem hv)
      rw [hother, List.nil_append, ih hd.2 hv]

theorem failed_row {issues : List GitHub.Issue} {e : JournalEntry} (hlisted : v.listed = .ok issues)
    (hrow : v.row? = some e) (hstatus : e.status = .failed) :
    v.errors ≠ [] ∧ e.message = s!"{v.errors.length} of {issues.length} issues failed" := by
  obtain ⟨_, -, rfl⟩ := Option.map_eq_some_iff.mp hrow
  have herrors : v.errors ≠ [] := by
    intro hnone
    rw [entry_status, if_pos hnone] at hstatus
    cases hstatus
  refine ⟨herrors, ?_⟩
  unfold entry
  rw [hlisted]
  dsimp only [reportEntry]
  rw [if_neg (by simpa using herrors)]

end Visit

namespace Bridge

variable {b : Bridge} {w w' : World} {since : Time.Timestamp} {t : Tally} {vs : List Visit} {v : Visit}
  {issues : List GitHub.Issue}

theorem Account.errorsOf_eq (h : b.Account w w' t vs) (hnames : (b.settings.repos.map (·.1)).Nodup)
    (hv : v ∈ vs) : t.errorsOf v.name = v.errors := by
  have hd : (vs.map (·.name)).Nodup := by
    rwa [← h.visited, List.map_map] at hnames
  unfold Tally.errorsOf
  rw [h.errors]
  exact Visit.filter_errors hd hv

theorem failed_pos {rows : Nat} (h : v.Thorough w.faults w.clock rows) (hlisted : v.listed = .ok issues)
    (hd : (issues.map (·.number)).Nodup) (herrors : v.errors ≠ []) :
    0 < issues.countP (TallyError.concern v.errors) := by
  have hlength := Visit.length_errors h hlisted hd
  have htwice : v.failedTwice.length ≤ issues.countP (TallyError.concern v.errors) := by
    rw [Visit.failedTwice, Visit.issues_of_listed hlisted, ← List.countP_eq_length_filter]
    refine List.countP_mono_left fun i _ hi => ?_
    rw [Visit.errors_of_listed hlisted, Visit.concern_append]
    rw [Bool.and_eq_true] at hi
    exact Bool.or_eq_true_iff.mpr (.inl hi.1)
  have hpos := List.length_pos_iff.mpr herrors
  omega

/-- The rows that a pass writes are those of its visits. Where a row tells how many of the issues failed, at
least one failed and no more than were listed; the number in the row is larger by the issues that failed
twice. -/
theorem syncAll_counts_failures (hb : b.journaling = true) (hnames : (b.settings.repos.map (·.1)).Nodup)
    (hidle : w.busy = false) (hf : w.faults.Lenient)
    (hsince : outcome (Watermark.since b.settings.useWatermark) w = .ok since) :
    ∃ t, outcome b.syncAll w = .ok t ∧
      (after b.syncAll w).tables.journal.map (·.entry) =
        w.tables.journal.map (·.entry) ++ (b.passVisits since w).filterMap Visit.row? ∧
      ∀ v ∈ b.passVisits since w, ∀ issues, v.listed = .ok issues → (issues.map (·.number)).Nodup →
        ∀ e, v.row? = some e → e.status = .failed →
          ∃ k, e.message = s!"{k} of {issues.length} issues failed" ∧
            k = (t.failed v.name issues).length + v.failedTwice.length ∧
            1 ≤ (t.failed v.name issues).length ∧ (t.failed v.name issues).length ≤ issues.length := by
  obtain ⟨t, ht, haccount⟩ := syncAll_accounts hb hnames hidle hf hsince
  refine ⟨t, ht, haccount.rows, fun v hv issues hlisted hd e hrow hstatus => ?_⟩
  obtain ⟨herrors, hmessage⟩ := Visit.failed_row hlisted hrow hstatus
  have hlength := Visit.length_errors (haccount.thorough v hv) hlisted hd
  have hcount : (t.failed v.name issues).length = issues.countP (TallyError.concern v.errors) := by
    rw [Tally.failed, haccount.errorsOf_eq hnames hv, List.countP_eq_length_filter]
  rw [hcount]
  exact ⟨_, hmessage, hlength, failed_pos (haccount.thorough v hv) hlisted hd herrors, List.countP_le_length⟩

def unsearchableWorld : World := { smallWorld with
  faults := fun _ c =>
    match c with
    | .search _ => .failed (.connection "reset")
    | _ => .served }

/-- What is told of a visit: the numbers of the issues that are listed, and its row. -/
def numbersAndRow (v : Visit) : Option (List Int) × Option (Status × String) :=
  (v.listed.toOption.map fun issues => issues.map (·.number), v.row?.map fun e => (e.status, e.message))

theorem syncAll_counts_failures_unsearchable : ∃ (v : Visit) (t : Tally) (issues : List GitHub.Issue) (k : Nat),
    outcome small.syncAll unsearchableWorld = .ok t ∧ v.listed = .ok issues ∧ issues.map (·.number) = [1] ∧
      s!"{k} of {issues.length} issues failed" = "2 of 1 issues failed" ∧
      k = (t.failed v.name issues).length + v.failedTwice.length ∧ 1 ≤ (t.failed v.name issues).length := by
  have hvisits : ((outcome (Watermark.since false) unsearchableWorld).toOption.map fun since =>
      (small.passVisits since unsearchableWorld).map numbersAndRow) =
        some [(some [1], some (.failed, "2 of 1 issues failed"))] := by
    decide +kernel
  obtain ⟨since, hsince, hvisits⟩ := Option.map_eq_some_iff.mp hvisits
  obtain ⟨v, hv, htold⟩ := List.map_eq_singleton_iff.mp hvisits
  obtain ⟨hnumbers, hrow⟩ := Prod.mk.injEq .. ▸ htold
  obtain ⟨issues, hissues, hnumbers⟩ := Option.map_eq_some_iff.mp hnumbers
  obtain ⟨e, he, hrow⟩ := Option.map_eq_some_iff.mp hrow
  obtain ⟨hstatus, hmessage⟩ := Prod.mk.injEq .. ▸ hrow
  have hlenient : unsearchableWorld.faults.Lenient := ⟨fun _ _ _ _ => nofun, fun _ _ => nofun⟩
  obtain ⟨t, ht, -, hrows⟩ := syncAll_counts_failures (b := small) rfl (by decide) rfl hlenient
    (eq_ok_of_toOption hsince)
  have hlisted := eq_ok_of_toOption hissues
  obtain ⟨k, hk, hcount, hpos, -⟩ := hrows v (hv ▸ List.mem_singleton_self v) issues hlisted
    (hnumbers ▸ List.nodup_singleton 1) e he hstatus
  exact ⟨v, t, issues, k, ht, hlisted, hnumbers, hk.symm.trans hmessage, hcount, hpos⟩

/-- One issue is listed, and the row tells that two of one failed. -/
theorem syncAll_counts_failures_twice :
    (after small.syncAll unsearchableWorld).tables.journal.map (·.entry.message) = ["2 of 1 issues failed"] ∧
      (outcome small.syncAll unsearchableWorld).toOption.map
        (fun t => (t.count "issues", t.errors.map (·.issue))) = some (1, [some 1, some 1]) := by
  decide +kernel

end Bridge

end IssueBridge
