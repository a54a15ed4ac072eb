import IssueBridge.Proofs.Bridge.Audit
import IssueBridge.Proofs.Bridge.Mirror
import Mathlib.Data.List.Basic

/-! # What a pass accounts for

No failure of a tracker or of a commit leaves its place: every repository is listed, every issue is attended to,
and the tally, the journal and the watermark agree with what happened.
-/

namespace IssueBridge

open Step Tracker

namespace Visit

def isCreated : Except Failure Bool → Bool
  | .ok made => made
  | .error _ => false

def updateErrors (v : Visit) : List TallyError := failures v.name v.updated

theorem credits_created (l : List (GitHub.Issue × Except Failure Bool)) :
    credits ensuredCredit "created" l = l.countP (isCreated ·.2) := by
  refine List.countP_congr fun p _ => ?_
  match p.2 with
  | .ok true => exact Iff.rfl
  | .ok false => exact Iff.rfl
  | .error f => exact Iff.rfl

theorem ensuredCredit_ne {key : String} (h : "created" ≠ key) (made : Bool) : ensuredCredit made ≠ some key := by
  cases made with
  | true => exact fun he => h (Option.some.inj he)
  | false => exact nofun

theorem updatedCredit_ne {key : String} (h : "updated" ≠ key) (u : Unit) : updatedCredit u ≠ some key :=
  fun he => h (Option.some.inj he)

/-- Every issue that is listed was brought up to date or counts as an error. -/
theorem credits_updated {faults : Faults} {clock : Time.Timestamp} {rows : Nat} :
    ∀ {vs : List Visit}, (∀ v ∈ vs, v.Thorough faults clock rows) →
    credits updatedCredit "updated" (vs.flatMap updated) + (vs.flatMap updateErrors).length =
      (vs.flatMap issues).length
  | [], _ => rfl
  | v :: vs, h => by
    have hv : credits updatedCredit "updated" v.updated + (failures v.name v.updated).length = v.updated.length :=
      credits_add_failures (fun _ => rfl) v.name v.updated
    have hvs := credits_updated fun u hu => h u (List.mem_cons_of_mem _ hu)
    have hlength : v.updated.length = v.issues.length := by
      rw [← (h v List.mem_cons_self).updated, List.length_map]
    unfold credits at hv hvs ⊢
    rw [List.flatMap_cons, List.flatMap_cons, List.flatMap_cons, List.countP_append, List.length_append,
      List.length_append, updateErrors]
    omega

theorem entry_of (v : Visit) : v.entry.repository = v.name ∧ v.entry.origin = .reconcile := by
  unfold entry reportEntry
  split
  · split <;> exact ⟨rfl, rfl⟩
  · exact ⟨rfl, rfl⟩

end Visit

namespace Bridge

variable {b : Bridge} {since : Time.Timestamp} {w : World}

def passCalls (b : Bridge) (vs : List Visit) (clock : Time.Timestamp) : List Call :=
  (if b.settings.useWatermark then [.openSession] else []) ++ vs.flatMap (Visit.calls b) ++
    .openSession :: (Watermark.format clock).toOption.toList.map fun _ => .commit

/-- What a pass that ends with a tally accounts for, told by its visits. -/
structure Account (b : Bridge) (w w' : World) (t : Tally) (vs : List Visit) : Prop where
  /-- Every repository is visited once. -/
  visited : vs.map (fun v => (v.name, v.repo)) = b.settings.repos
  thorough : ∀ v ∈ vs, v.Thorough w.faults w.clock (w.tables.attempts + b.settings.repos.length)
  /-- There are no other listings, searches and uses of the database. -/
  calls : w'.history.filter Call.isBooked =
    (b.passCalls vs w.clock).reverse ++ w.history.filter Call.isBooked
  finished : t.skipped = false
  repositories : t.count "repositories" = b.settings.repos.length
  issues : t.count "issues" = (vs.flatMap Visit.issues).length
  created : t.count "created" = (vs.flatMap Visit.ensured).countP (Visit.isCreated ·.2)
  updated : t.count "updated" + (vs.flatMap Visit.updateErrors).length = t.count "issues"
  errors : t.errors = vs.flatMap Visit.errors
  errorCount : t.count "errors" = t.errors.length
  report : t.report = .obj [("status", .str (if t.errors = [] then "success" else "failed")),
    ("stats", t.countsValue), ("errors", .arr (t.errors.map Tally.errorValue))]
  rows : w'.tables.journal.map (·.entry) = w.tables.journal.map (·.entry) ++ vs.filterMap Visit.row?
  /-- Each row is about its repository and tells whether errors were met there. -/
  entries : ∀ v ∈ vs, v.entry.repository = v.name ∧ v.entry.origin = .reconcile ∧
    v.entry.status = if v.errors = [] then .success else .failed
  /-- The watermark is set unless its commit fails or the clock is out of range. -/
  watermark : (∃ value, Watermark.format w.clock = .ok value ∧
      w'.tables.state = Tables.setValue Watermark.key (some value) w.tables.state) ∨
    ∃ f, w'.tables.state = w.tables.state ∧
      ((∃ history, w.faults history .commit = .failed f) ∨ Watermark.format w.clock = .error f)
  released : w'.busy = false

section Folding

variable {vs : List Visit} {clock : Time.Timestamp} {stored : Except Failure Unit} {faults : Faults} {rows : Nat}

section Seen

variable {β : Type} {see : Deed → Option β}

theorem filterMap_sinceDeeds (hcall : ∀ c, see (.call c) = none) (enabled : Bool) :
    (Watermark.sinceDeeds enabled).filterMap see = [] := by
  cases enabled with
  | false => rfl
  | true => exact List.filterMap_cons_none (hcall _)

theorem filterMap_writeDeeds (hcall : ∀ c, see (.call c) = none) (hmark : ∀ key value, see (.mark key value) = none)
    (clock : Time.Timestamp) (stored : Except Failure Unit) :
    (Watermark.writeDeeds clock stored).filterMap see = [] := by
  refine List.filterMap_eq_nil_iff.mpr fun d hd => ?_
  cases d with
  | call c => exact hcall c
  | mark key value => exact hmark key value
  | _ =>
    exfalso
    unfold Watermark.writeDeeds at hd
    split at hd
    · simp at hd
    · cases stored <;> simp [Except.toOption] at hd

theorem filterMap_passDeeds (see : Deed → Option β) : (b.passDeeds vs clock stored).filterMap see =
    (Watermark.sinceDeeds b.settings.useWatermark).filterMap see ++
      vs.flatMap (fun v => (v.deeds b).filterMap see) ++
        (Watermark.writeDeeds clock stored).filterMap see := by
  unfold passDeeds
  rw [List.filterMap_append, List.filterMap_append, List.filterMap_flatMap]

end Seen

theorem call?_passDeeds (h : ∀ v ∈ vs, v.Thorough faults clock rows) :
    (b.passDeeds vs clock stored).filterMap Deed.call? = b.passCalls vs clock := by
  have hsince : (Watermark.sinceDeeds b.settings.useWatermark).filterMap Deed.call? =
      if b.settings.useWatermark then [.openSession] else [] := by
    unfold Watermark.sinceDeeds
    split <;> rfl
  have hwrite : (Watermark.writeDeeds clock stored).filterMap Deed.call? =
      .openSession :: (Watermark.format clock).toOption.toList.map fun _ => .commit := by
    unfold Watermark.writeDeeds
    cases Watermark.format clock with
    | error f => rfl
    | ok value => cases stored <;> rfl
  rw [filterMap_passDeeds, hsince, hwrite, List.flatMap_congr fun v hv => Visit.call?_deeds (h v hv)]
  rfl

theorem error?_passDeeds : (b.passDeeds vs clock stored).filterMap Deed.error? = vs.flatMap Visit.errors := by
  rw [filterMap_passDeeds, filterMap_sinceDeeds fun _ => rfl, filterMap_writeDeeds (fun _ => rfl) fun _ _ => rfl,
    List.flatMap_congr fun v _ => error?_deeds v, List.nil_append, List.append_nil]

theorem row?_passDeeds (h : ∀ v ∈ vs, v.Thorough faults clock rows) :
    (b.passDeeds vs clock stored).filterMap Deed.row? = vs.filterMap Visit.row? := by
  rw [filterMap_passDeeds, filterMap_sinceDeeds fun _ => rfl, filterMap_writeDeeds (fun _ => rfl) fun _ _ => rfl,
    List.flatMap_congr fun v hv => Visit.row?_deeds (h v hv), List.nil_append, List.append_nil,
    List.filterMap_eq_flatMap_toList]

theorem mark?_passDeeds (h : ∀ v ∈ vs, v.Thorough faults clock rows) :
    (b.passDeeds vs clock stored).filterMap Deed.mark? =
      (Watermark.writeDeeds clock stored).filterMap Deed.mark? := by
  have hvisits : (vs.flatMap fun v => (v.deeds b).filterMap Deed.mark?) = [] :=
    List.flatMap_eq_nil_iff.mpr fun v hv => Visit.mark?_deeds (h v hv)
  rw [filterMap_passDeeds, filterMap_sinceDeeds fun _ => rfl, hvisits]
  rfl

theorem total_passDeeds (h : ∀ v ∈ vs, v.Thorough faults clock rows) (key : String) :
    Deed.total key (b.passDeeds vs clock stored) =
      Visit.same "repositories" key * vs.length + Visit.same "issues" key * (vs.flatMap Visit.issues).length +
        Visit.credits Visit.ensuredCredit key (vs.flatMap Visit.ensured) +
          Visit.credits Visit.updatedCredit key (vs.flatMap Visit.updated) +
            Visit.same "errors" key * (vs.flatMap Visit.errors).length := by
  have hsince : Deed.total key (Watermark.sinceDeeds b.settings.useWatermark) = 0 := by
    unfold Watermark.sinceDeeds
    split <;> rfl
  have hwrite : Deed.total key (Watermark.writeDeeds clock stored) = 0 := by
    unfold Watermark.writeDeeds
    cases Watermark.format clock with
    | error f => rfl
    | ok value => cases stored <;> rfl
  unfold passDeeds
  rw [Deed.total_append, Deed.total_append, hsince, hwrite, Int.zero_add, Int.add_zero, Visit.total_visits key h]

theorem credits_ensured {key : String} (h : "created" ≠ key) :
    Visit.credits Visit.ensuredCredit key (vs.flatMap Visit.ensured) = 0 :=
  Visit.credits_eq_zero (Visit.ensuredCredit_ne h) _

theorem credits_updates {key : String} (h : "updated" ≠ key) :
    Visit.credits Visit.updatedCredit key (vs.flatMap Visit.updated) = 0 :=
  Visit.credits_eq_zero (Visit.updatedCredit_ne h) _

end Folding

theorem report_of_finished {t : Tally} (h : t.skipped = false) :
    t.report = .obj [("status", .str (if t.errors = [] then "success" else "failed")),
      ("stats", t.countsValue), ("errors", .arr (t.errors.map Tally.errorValue))] := by
  unfold Tally.report
  rw [if_neg (by simp [h])]
  cases t.errors <;> rfl

theorem account_of_books {u : World} {vs : List Visit} {stored : Except Failure Unit}
    (hvisited : vs.map (fun v => (v.name, v.repo)) = b.settings.repos)
    (hthorough : ∀ v ∈ vs, v.Thorough w.faults w.clock (w.tables.attempts + b.settings.repos.length))
    (hstored : ∀ f, stored = .error f →
      (∃ history, w.faults history .commit = .failed f) ∨ Watermark.format w.clock = .error f)
    (hbooks : u.books = Books.enterAll { w.books with tally := {} } (b.passDeeds vs w.clock stored))
    (hreleased : u.busy = false) : b.Account w u u.tally vs := by
  have hcount : ∀ key, u.tally.count key = Tally.count {} key + Deed.total key (b.passDeeds vs w.clock stored) :=
    fun key => (congrArg (·.tally.count key) hbooks).trans (Books.count_enterAll _ key _)
  have herrors : u.tally.errors = vs.flatMap Visit.errors := by
    have h := congrArg (·.tally.errors) hbooks
    rw [Books.errors_enterAll, error?_passDeeds] at h
    exact h
  have hfinished : u.tally.skipped = false := by
    have h := congrArg (·.tally.skipped) hbooks
    rw [Books.skipped_enterAll] at h
    exact h
  have hissues : u.tally.count "issues" = (vs.flatMap Visit.issues).length := by
    rw [hcount, total_passDeeds hthorough, credits_ensured (by decide), credits_updates (by decide)]
    simp [Visit.same, Tally.count_fresh]
  constructor
  case visited => exact hvisited
  case thorough => exact hthorough
  case calls =>
    have h := congrArg Books.calls hbooks
    rw [Books.calls_enterAll, call?_passDeeds hthorough] at h
    exact h
  case finished => exact hfinished
  case repositories =>
    have hlength : vs.length = b.settings.repos.length := by rw [← hvisited, List.length_map]
    rw [hcount, total_passDeeds hthorough, credits_ensured (by decide), credits_updates (by decide), ← hlength]
    simp [Visit.same, Tally.count_fresh]
  case issues => exact hissues
  case created =>
    rw [hcount, total_passDeeds hthorough, Visit.credits_created, credits_updates (by decide)]
    simp [Visit.same, Tally.count_fresh]
  case updated =>
    have hdone := Visit.credits_updated hthorough
    rw [hissues, hcount, total_passDeeds hthorough, credits_ensured (by decide), ← hdone]
    simp [Visit.same, Tally.count_fresh]
  case errors => exact herrors
  case errorCount =>
    rw [hcount, total_passDeeds hthorough, credits_ensured (by decide), credits_updates (by decide), herrors]
    simp [Visit.same, Tally.count_fresh]
  case report => exact report_of_finished hfinished
  case rows =>
    have h := congrArg Books.rows hbooks
    rw [Books.rows_enterAll, row?_passDeeds hthorough] at h
    exact h
  case entries => exact fun v _ => ⟨v.entry_of.1, v.entry_of.2, v.entry_status⟩
  case watermark =>
    have h : u.tables.state = ((Watermark.writeDeeds w.clock stored).filterMap Deed.mark?).foldl
        (fun state m => Tables.setValue m.1 (some m.2) state) w.tables.state := by
      rw [← mark?_passDeeds hthorough]
      exact (congrArg Books.state hbooks).trans (Books.state_enterAll _ _)
    unfold Watermark.writeDeeds at h
    cases hformat : Watermark.format w.clock with
    | error f =>
      rw [hformat] at h
      exact .inr ⟨f, h, .inr rfl⟩
    | ok value =>
      rw [hformat] at h
      cases stored with
      | ok _ => exact .inl ⟨value, rfl, h⟩
      | error f => exact .inr ⟨f, h, hformat ▸ hstored f rfl⟩
  case released => exact hreleased

/-- Whatever calls to the trackers and commits fail, a pass ends with a tally of all that happened, every
repository and every issue that is listed had its turn, and the bridge is ready for the next pass. -/
theorem syncAll_accounts (hb : b.journaling = true) (hnames : (b.settings.repos.map (·.1)).Nodup)
    (hidle : w.busy = false) (hf : w.faults.Lenient)
    (hsince : outcome (Watermark.since b.settings.useWatermark) w = .ok since) :
    ∃ t, outcome b.syncAll w = .ok t ∧ b.Account w (after b.syncAll w) t (b.passVisits since w) := by
  have hstart : outcome (Watermark.since b.settings.useWatermark) { w with busy := true } = .ok since :=
    (Watermark.outcome_since (v := w) (w := { w with busy := true }) rfl rfl rfl _).trans hsince
  obtain ⟨ho, ⟨stored, hstored, hbooks⟩, hthorough⟩ := pass_books (w := { w with busy := true }) hb hnames hf hstart
  obtain ⟨hall, hafter⟩ := syncAll_of_not_busy hidle b
  refine ⟨_, hall.trans ho, ?_⟩
  have haccount := account_of_books (w := w) (u := after b.syncAll w) (map_visitsOf b since _ _) hthorough hstored
    (by rw [hafter]; exact hbooks) (by rw [hafter])
  rw [hafter] at haccount ⊢
  exact haccount

def troubledWorld : World := { halfWorld with
  faults := fun _ c =>
    match c with
    | .create _ => .failed (.connection "reset")
    | .commit => .failed (.connection "closed")
    | _ => .served }

theorem syncAll_accounts_troubled : ∃ t, outcome small.syncAll troubledWorld = .ok t ∧
    t.skipped = false ∧ t.count "repositories" = 1 ∧ t.count "errors" = t.errors.length ∧
      (after small.syncAll troubledWorld).busy = false := by
  have hwindow : (outcome (Watermark.since small.settings.useWatermark) troubledWorld).toOption.isSome := by
    decide +kernel
  obtain ⟨since, hsince⟩ := Option.isSome_iff_exists.mp hwindow
  have hlenient : troubledWorld.faults.Lenient := ⟨fun _ _ _ _ => nofun, fun _ _ => nofun⟩
  obtain ⟨t, ht, haccount⟩ := syncAll_accounts (b := small) rfl (by decide) rfl hlenient (eq_ok_of_toOption hsince)
  exact ⟨t, ht, haccount.finished, haccount.repositories, haccount.errorCount, haccount.released⟩

end Bridge

end IssueBridge
