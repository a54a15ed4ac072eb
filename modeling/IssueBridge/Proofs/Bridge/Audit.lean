import IssueBridge.Proofs.Bridge.Account
import IssueBridge.Proofs.Bridge.Pass

/-! # The books of a whole pass

Whatever calls and commits fail, a pass ends with a result, and its books can be told from its visits.
-/

namespace IssueBridge

open Step Tracker

/-- The step leaves the tables alone. -/
def Step.Looks {α : Type} (x : Step α) : Prop := ∀ w, (after x w).tables = w.tables

namespace Step.Looks

variable {α β : Type} {x : Step α} {f : α → Step β}

theorem pure (a : α) : Looks (Pure.pure a : Step α) := fun _ => rfl

theorem get : Looks (MonadState.get : Step World) := fun _ => rfl

theorem say (level : Level) (text : String) : Looks (say level text) := fun _ => rfl

theorem place (c : Call) : Looks (place c) := fun w => by
  rw [after_place]

theorem ofExcept (e : Except Failure α) : Looks (ofExcept e) := fun w => by
  rw [after_ofExcept]

theorem bind (hx : Looks x) (hf : ∀ a, Looks (f a)) : Looks (x >>= f) := fun w => by
  rw [after_bind]
  cases outcome x w with
  | ok a => exact (hf a _).trans (hx w)
  | error e => exact hx w

end Step.Looks

namespace Watermark

variable {w : World} {t : Time.Timestamp}

theorem enters_read (w : World) : Enters read w [.call .openSession] :=
  (Enters.place rfl w).bind_plain fun _ => Plain.get.bind fun w => by
    split
    · exact .pure _
    · split
      · exact .pure _
      · exact (Plain.say _ _).bind fun _ => .pure _

def sinceDeeds (enabled : Bool) : List Deed := if enabled then [.call .openSession] else []

theorem error?_sinceDeeds (enabled : Bool) : (sinceDeeds enabled).filterMap Deed.error? = [] := by
  cases enabled <;> rfl

theorem enters_since {enabled : Bool} (h : outcome (since enabled) w = .ok t) :
    Enters (since enabled) w (sinceDeeds enabled) := by
  obtain ⟨w', hw, h⟩ := bind_eq_ok h
  obtain ⟨default, hd, -⟩ := bind_eq_ok h
  refine Plain.get.seq hw ((Plain.ofExcept _).seq hd ?_)
  cases enabled with
  | false => exact Plain.pure default _
  | true =>
    refine (enters_read _).bind_plain fun last => ?_
    cases last with
    | none => exact .pure _
    | some last => exact (Plain.ofExcept _).bind fun _ => .ofExcept _

theorem looks_since (enabled : Bool) : Looks (since enabled) := by
  have hread : Looks read :=
    (Looks.place _).bind fun _ => Looks.get.bind fun w => by
      split
      · exact .pure _
      · split
        · exact .pure _
        · exact (Looks.say _ _).bind fun _ => .pure _
  refine Looks.get.bind fun _ => (Looks.ofExcept _).bind fun _ => ?_
  split
  · exact .pure _
  · refine hread.bind fun last => ?_
    cases last with
    | none => exact .pure _
    | some last => exact (Looks.ofExcept _).bind fun _ => .ofExcept _

def storeOutcome (t : Time.Timestamp) (w : World) : Except Failure Unit :=
  outcome (store t) (after (place .openSession) w)

def writeDeeds (t : Time.Timestamp) (o : Except Failure Unit) : List Deed :=
  .call .openSession ::
    match format t with
    | .error _ => []
    | .ok value => .call .commit :: (o.toOption.map fun _ => Deed.mark key value).toList

theorem enters_setValue (key value : String) (w : World) : Enters (modify fun w =>
    { w with tables := { w.tables with state := Tables.setValue key (some value) w.tables.state } }) w
      [.mark key value] :=
  rfl

theorem enters_store (t : Time.Timestamp) (w : World) : Enters (store t) w
    (match format t with
    | .error _ => []
    | .ok value => .call .commit :: ((outcome (store t) w).toOption.map fun _ => Deed.mark key value).toList) := by
  unfold store
  cases hv : format t with
  | error f => rfl
  | ok value =>
    refine (Plain.ofExcept _).seq rfl ?_
    have hcommit := Enters.place (c := .commit) rfl w
    rw [outcome_bind_ok (outcome_ofExcept ..), after_ofExcept]
    cases hplace : outcome (place .commit) w with
    | error f =>
      rw [outcome_bind_error hplace]
      exact hcommit.bind_error hplace
    | ok served =>
      rw [outcome_bind_ok hplace]
      exact hcommit.bind hplace (enters_setValue key value _)

/-- Only a commit that fails and a time that has no text can keep a time out of the table. -/
theorem storeOutcome_eq_error {f : Failure} (h : storeOutcome t w = .error f) :
    (∃ history, w.faults history .commit = .failed f) ∨ format t = .error f := by
  unfold storeOutcome store at h
  rw [after_place] at h
  cases hv : format t with
  | error f' =>
    rw [outcome_bind_error ((outcome_ofExcept ..).trans hv)] at h
    cases h
    exact .inr rfl
  | ok value =>
    rw [outcome_bind_ok ((outcome_ofExcept ..).trans hv), after_ofExcept] at h
    cases hplace : outcome (place .commit) { w with history := .openSession :: w.history } with
    | error f' =>
      rw [outcome_bind_error hplace] at h
      cases h
      have hc := Bridge.place_eq_error hplace
      exact .inl ⟨_, hc⟩
    | ok served =>
      rw [outcome_bind_ok hplace] at h
      cases h

theorem enters_write (hf : w.faults.Lenient) (t : Time.Timestamp) :
    outcome (write t) w = .ok () ∧ Enters (write t) w (writeDeeds t (storeOutcome t w)) := by
  obtain ⟨served, hopen⟩ := outcome_place_answered (w := w) (c := .openSession) (hf.session _)
  unfold write
  rw [outcome_bind_ok hopen]
  refine ⟨outcome_contain .., ?_⟩
  exact (Enters.place rfl w).bind hopen ((enters_store t _).contain _ _)

end Watermark

namespace Bridge

variable {b : Bridge} {since : Time.Timestamp} {w : World}

def passStart (b : Bridge) (w : World) : World :=
  after (place (.pool b.settings.repos.length "sync-repo")) (after b.startPass { w with busy := true })

def passVisits (b : Bridge) (since : Time.Timestamp) (w : World) : List Visit :=
  b.visitsOf since b.settings.repos (b.passStart w)

theorem startPass_books (hsince : outcome (Watermark.since b.settings.useWatermark) w = .ok since) :
    outcome b.startPass w = .ok since ∧ (after b.startPass w).tables = w.tables ∧
      (after b.startPass w).books =
        (World.books { w with tally := {} }).enterAll (Watermark.sinceDeeds b.settings.useWatermark) := by
  have hblank : outcome (Watermark.since b.settings.useWatermark) { w with tally := {} } = .ok since :=
    (Watermark.outcome_since (v := w) (w := { w with tally := {} }) rfl rfl rfl _).trans hsince
  refine ⟨(outcome_startPass b w).trans hblank, ?_⟩
  unfold startPass
  rw [after_bind_ok rfl]
  refine ⟨(congrArg World.tables (after_bind_ok hblank)).trans (Watermark.looks_since _ _), ?_⟩
  exact (Watermark.enters_since hblank).bind_plain fun _ => (Plain.say _ _).bind fun _ => .pure _

theorem enters_syncConfigured (hb : b.journaling = true) (hf : w.faults.Lenient)
    (hnames : (b.settings.repos.map (·.1)).Nodup) (hblank : w.tally.errors = []) (since : Time.Timestamp) :
    let vs := b.visitsOf since b.settings.repos (after (place (.pool b.settings.repos.length "sync-repo")) w)
    outcome (b.syncConfigured since) w = .ok () ∧
      Enters (b.syncConfigured since) w (vs.flatMap (Visit.deeds b)) ∧
      ∀ v ∈ vs, v.Thorough w.faults w.clock (w.tables.attempts + b.settings.repos.length) := by
  intro vs
  unfold syncConfigured
  dsimp only
  obtain ⟨served, hpool⟩ := outcome_place_answered (w := w) (c := .pool b.settings.repos.length "sync-repo")
    (hf.pool _ _ _)
  have hplaced := after_place w (.pool b.settings.repos.length "sync-repo")
  have hvisits := enters_syncRepositories hb since b.settings.repos
    (w := after (place (.pool b.settings.repos.length "sync-repo")) w) (hplaced ▸ hf) hnames fun e he => by
      rw [hplaced, hblank] at he
      cases he
  obtain ⟨ho, he, hthorough⟩ := hvisits
  by_cases hnone : b.settings.repos = []
  · rw [if_neg (by rw [hnone]; decide)]
    have hvs : vs = [] := by
      show b.visitsOf since b.settings.repos _ = []
      rw [hnone]
      rfl
    rw [hvs]
    exact ⟨rfl, rfl, nofun⟩
  · rw [if_pos (by simpa using hnone), outcome_bind_ok hpool, outcome_bind_ok ho]
    refine ⟨rfl, ?_, fun v hv => ?_⟩
    · have hend : Enters (b.syncRepositories since b.settings.repos >>= fun fs => fs.forM reportCrash)
          (after (place (.pool b.settings.repos.length "sync-repo")) w) (vs.flatMap (Visit.deeds b) ++ []) :=
        he.bind ho (Plain.pure () _)
      rw [List.append_nil] at hend
      exact (Plain.place rfl).seq hpool hend
    · have h := hthorough v hv
      rwa [hplaced] at h

theorem enters_endPass (hf : w.faults.Lenient) :
    outcome endPass w = .ok (after endPass w).tally ∧
      Enters endPass w (Watermark.writeDeeds w.clock (Watermark.storeOutcome w.clock w)) := by
  obtain ⟨ho, he⟩ := Watermark.enters_write hf w.clock
  unfold endPass
  rw [outcome_bind_ok (outcome_get w), after_bind_ok (outcome_get w), after_get, outcome_bind_ok ho,
    after_bind_ok ho]
  exact ⟨rfl, Plain.get.seq (outcome_get w)
    (he.bind_plain fun _ => Plain.get.bind fun _ => (Plain.say _ _).bind fun _ => .pure _)⟩

def passDeeds (b : Bridge) (vs : List Visit) (clock : Time.Timestamp) (stored : Except Failure Unit) : List Deed :=
  Watermark.sinceDeeds b.settings.useWatermark ++ vs.flatMap (Visit.deeds b) ++
    Watermark.writeDeeds clock stored

/-- A pass ends with its tally, and its entries are made in books with a blank tally. -/
theorem pass_books (hb : b.journaling = true) (hnames : (b.settings.repos.map (·.1)).Nodup)
    (hf : w.faults.Lenient) (hsince : outcome (Watermark.since b.settings.useWatermark) w = .ok since) :
    let vs := b.visitsOf since b.settings.repos
      (after (place (.pool b.settings.repos.length "sync-repo")) (after b.startPass w))
    outcome b.pass w = .ok (after b.pass w).tally ∧
      (∃ stored, (∀ f, stored = .error f →
          (∃ history, w.faults history .commit = .failed f) ∨ Watermark.format w.clock = .error f) ∧
        (after b.pass w).books = (World.books { w with tally := {} }).enterAll (b.passDeeds vs w.clock stored)) ∧
      ∀ v ∈ vs, v.Thorough w.faults w.clock (w.tables.attempts + b.settings.repos.length) := by
  intro vs
  obtain ⟨hstart, htables, hbooks⟩ := startPass_books hsince
  have hfaults : (after b.startPass w).faults = w.faults := by
    have h := congrArg Books.faults hbooks
    rwa [Books.faults_enterAll] at h
  have hblank : (after b.startPass w).tally.errors = [] := by
    have h := congrArg (·.tally.errors) hbooks
    rw [Books.errors_enterAll, Watermark.error?_sinceDeeds] at h
    exact h
  obtain ⟨hvisit, hvisits, hthorough⟩ := enters_syncConfigured hb (hfaults ▸ hf) hnames hblank since
  have hlast : (after (b.syncConfigured since) (after b.startPass w)).faults = w.faults :=
    (faults_of_enters hvisits).trans hfaults
  have hstarted : (after b.startPass w).clock = w.clock := by
    have h := congrArg Books.clock hbooks
    rwa [Books.clock_enterAll] at h
  have hclock : (after (b.syncConfigured since) (after b.startPass w)).clock = w.clock :=
    (clock_of_enters hvisits).trans hstarted
  obtain ⟨hend, hends⟩ := enters_endPass (w := after (b.syncConfigured since) (after b.startPass w)) (hlast ▸ hf)
  unfold pass
  rw [outcome_bind_ok hstart, after_bind_ok hstart, outcome_bind_ok hvisit, after_bind_ok hvisit]
  refine ⟨hend, ⟨Watermark.storeOutcome w.clock (after (b.syncConfigured since) (after b.startPass w)),
    fun f h => ?_, ?_⟩, ?_⟩
  · have hmissed := Watermark.storeOutcome_eq_error h
    rwa [hlast] at hmissed
  · unfold Enters at hends hvisits
    rw [hends, hvisits, hbooks, passDeeds, Books.enterAll_append, Books.enterAll_append, hclock]
  · rwa [hfaults, hstarted, htables] at hthorough

end Bridge

end IssueBridge
