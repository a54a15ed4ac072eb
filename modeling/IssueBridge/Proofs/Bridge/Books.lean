import IssueBridge.Proofs.Bridge.Work
import IssueBridge.Proofs.Step.Books
import IssueBridge.Proofs.Time.Universal

/-! # What the steps of a pass enter in the books

Work on tickets and comments is not seen in the books. What is seen of a search, of a listing and of a row for
the journal is their calls, and whether the row was written.
-/

namespace IssueBridge

open Step Tracker

/-- The worlds in which a step is taken for the members of a list, up to the first that fails. -/
def Step.starts {α : Type} (f : α → Step Unit) : List α → World → List (α × World)
  | [], _ => []
  | a :: l, w =>
    (a, w) :: match outcome (f a) w with
      | .ok () => starts f l (after (f a) w)
      | .error _ => []

theorem Step.map_starts {α : Type} {f : α → Step Unit} : ∀ {l : List α},
    (∀ a ∈ l, ∀ w, outcome (f a) w = .ok ()) → ∀ w, (starts f l w).map (·.1) = l
  | [], _, _ => rfl
  | a :: l, h, w => by
    have hl := map_starts (fun c hc => h c (List.mem_cons_of_mem _ hc)) (after (f a) w)
    rw [starts, h a List.mem_cons_self w, List.map_cons, hl]

namespace Step.Enters

theorem count (key : String) (n : Int) (w : World) : Enters (Bridge.count key n) w [.count key n] := rfl

theorem recordError (repository : String) (issue : Option Int) (e : Failure) (w : World) :
    Enters (Bridge.recordError repository issue e) w [.error ⟨repository, issue, e⟩] :=
  rfl

theorem forM {f : α → Step Unit} {deeds : α → World → List Deed} : ∀ {l : List α},
    (∀ a ∈ l, ∀ w, outcome (f a) w = .ok ()) → (∀ a ∈ l, ∀ w, Enters (f a) w (deeds a w)) →
      ∀ w, Enters (l.forM f) w ((starts f l w).flatMap fun p => deeds p.1 p.2)
  | [], _, _, _ => rfl
  | a :: l, hok, h, w => by
    have ha := hok a List.mem_cons_self w
    have hrest := forM (fun c hc => hok c (List.mem_cons_of_mem _ hc))
      (fun c hc => h c (List.mem_cons_of_mem _ hc)) (after (f a) w)
    rw [starts, ha, List.flatMap_cons]
    exact (h a List.mem_cons_self w).bind ha hrest

end Step.Enters

section Work

variable {α : Type} {P : Call → Prop} {x : Step α}

theorem Call.isBooked_of_isWork {c : Call} (h : c.isWork = true) : c.isBooked = false := by
  cases c <;> first | rfl | cases h

theorem Call.Discusses.isBooked_eq {since : Time.Timestamp} {c : Call} (h : c.Discusses since) :
    c.isBooked = false := by
  cases c with
  | repository fullName lazy => exact congrArg (!·) h
  | _ => first | rfl | cases h

theorem Step.Works.plain (h : Works P x) (hP : ∀ c, P c → c.isBooked = false) : Plain x := by
  refine .of_composed h fun α x hx => ?_
  cases hx with
  | place h => exact .place (hP _ h)
  | look f => exact fun _ => rfl
  | modifyStore f => exact .modifyStore f
  | onStore f => exact .onStore f

theorem Making.plain (h : Making x) : Plain x := Works.plain h.labours fun _ => Call.isBooked_of_isWork

theorem Bridge.plain_syncComments (b : Bridge) (r : TicketRef) (i : GitHub.Issue) (name : String) (repo : Repo)
    (since : Time.Timestamp) : Plain (b.syncComments r i name repo since) :=
  Works.plain (b.works_syncComments r i name repo since) fun _ => Call.Discusses.isBooked_eq

end Work

section Attempts

def Call.isCommit : Call → Bool
  | .commit => true
  | _ => false

def Deed.isCommit : Deed → Bool
  | .call c => c.isCommit
  | _ => false

/-- No more rows are tried than there are commits. -/
def World.Tried (v w : World) : Prop :=
  w.tables.attempts + v.history.countP Call.isCommit ≤ v.tables.attempts + w.history.countP Call.isCommit

theorem World.Worked.tried {P : Call → Prop} {v w : World} (h : v.Worked P w) : v.Tried w := by
  obtain ⟨store, log, calls, rfl, -⟩ := h
  unfold World.Tried
  rw [List.countP_append]
  dsimp only
  omega

theorem Step.journal_tried (e : JournalEntry) (w : World) : w.Tried (after (journal e) w) := by
  have hall := journalled e w
  have hcommit : (Call.commit :: .openSession :: w.history).countP Call.isCommit =
      w.history.countP Call.isCommit + 1 := by
    rw [List.countP_cons_of_pos rfl, List.countP_cons_of_neg (by decide)]
  generalize outcome (journal e) w = o, after (journal e) w = v at hall
  unfold World.Tried
  cases hall with
  | closed => exact Nat.add_le_add_left (List.countP_cons_of_neg (by decide)).ge _
  | uncommitted => exact Nat.add_le_add_left (hcommit ▸ Nat.le_succ _) _
  | refused =>
    rw [hcommit]
    exact (Nat.add_right_comm ..).le
  | written =>
    rw [hcommit]
    exact (Nat.add_right_comm ..).le

theorem Step.Bookkeeping.tried {P : Call → Prop} {α : Type} {x : Step α} (h : Bookkeeping P α x) (w : World) :
    w.Tried (after x w) := by
  cases h with
  | work h => exact (h.worked w).tried
  | count f => exact Nat.le_refl _
  | modifyTally f => exact Nat.le_refl _
  | journal e => exact journal_tried e w

theorem Step.Keeping.tried {P : Call → Prop} {α : Type} {x : Step α} (h : Keeping P x) (w : World) :
    w.Tried (after x w) :=
  h.rel (fun _ _ => Nat.le_refl _) (fun h h' => by unfold World.Tried at *; omega) (fun _ _ => Bookkeeping.tried) w

theorem Step.Enters.attempts_le {P : Call → Prop} {α : Type} {x : Step α} {w : World} {ds : List Deed}
    (h : Enters x w ds) (hx : Keeping P x) :
    (after x w).tables.attempts ≤ w.tables.attempts + ds.countP Deed.isCommit := by
  have hbooked : ∀ v : World, v.books.calls.countP Call.isCommit = v.history.countP Call.isCommit := fun v => by
    refine (List.countP_filter ..).trans (List.countP_congr fun c _ => ?_)
    cases c <;> simp [Call.isCommit, Call.isBooked]
  have hcalls : (after x w).books.calls.countP Call.isCommit = (w.books.enterAll ds).calls.countP Call.isCommit :=
    congrArg (fun k : Books => k.calls.countP Call.isCommit) h
  have hdeeds : (ds.filterMap Deed.call?).countP Call.isCommit = ds.countP Deed.isCommit := by
    refine List.countP_filterMap.trans (List.countP_congr fun d _ => ?_)
    cases d <;> simp [Deed.call?, Deed.isCommit]
  rw [Books.calls_enterAll, List.countP_append, List.countP_reverse, hbooked, hbooked, hdeeds] at hcalls
  have htried := hx.tried w
  unfold World.Tried at htried
  omega

end Attempts

/-- Workers can be hired and sessions opened, whatever else fails. -/
structure Faults.Lenient (faults : Faults) : Prop where
  pool : ∀ history n name f, faults history (.pool n name) ≠ .failed f
  session : ∀ history f, faults history .openSession ≠ .failed f

namespace Bridge

variable {w : World} {project : String} {id : Int}

section Calls

theorem place_eq_error {c : Call} {f : Failure} (h : outcome (place c) w = .error f) :
    w.faults w.history c = .failed f := by
  rw [outcome_place] at h
  split at h
  · cases h
  · cases h
  · rename_i hc
    exact hc.trans (congrArg Reply.failed (Except.error.inj h))

theorem enters_search (query : String) (w : World) :
    Enters (search query) w [.call (.search query)] := by
  refine Enters.logging (Enters.bind_plain (.place rfl w) fun served => ?_) _ _
  cases served with
  | false => exact .pure _
  | true =>
    rw [if_pos rfl]
    cases Correlation.Query.read? query with
    | none => exact .pure _
    | some q => exact Plain.get.bind fun _ => .pure _

theorem enters_findIssue (b : Bridge) (project : String) (id : Int) (w : World) :
    Enters (b.findIssue project id) w [.call (.search (query b.fieldIds project id).text)] :=
  (enters_search _ w).bind_plain fun refs => by
    match refs with
    | [] => exact .throw _
    | [r] => exact .pure r
    | r :: r' :: refs => exact Plain.get.bind fun _ => (Plain.say _ _).bind fun _ => .throw _

theorem enters_githubIssues (owner name : String) (since : Option Time.Timestamp) (w : World) :
    Enters (GitHub.issues owner name since) w [.call (.repository (GitHub.fullName owner name) false)] :=
  Enters.logging (Enters.bind_plain (.place rfl w) fun _ => (Plain.place rfl).bind fun _ =>
    Plain.get.bind fun _ => (Plain.ofExcept _).bind fun _ => .pure _) _ _

def rowOutcome (e : JournalEntry) (w : World) : Except Failure Unit :=
  outcome (insertRow e) (after (place .openSession) w)

def rowOf (e : JournalEntry) : Except Failure Unit → List Deed
  | .ok _ => [.row e]
  | .error _ => []

def rowDeeds (e : JournalEntry) (o : Except Failure Unit) : List Deed :=
  .call .openSession :: .call .commit :: rowOf e o

theorem enters_fillRow (e : JournalEntry) (w : World) :
    Enters (fillRow e) w (rowOf e (outcome (fillRow e) w)) := by
  unfold fillRow Enters
  rw [outcome_bind_ok (outcome_modify ..), after_bind_ok (outcome_modify ..), after_modify,
    outcome_bind_ok (outcome_get _), after_bind_ok (outcome_get _), after_get]
  cases hrow : w.tables.tried.newRow w.clock e with
  | error f => rfl
  | ok row =>
    have hentries : (w.tables.journal ++ [row]).map (·.entry) = w.tables.journal.map (·.entry) ++ [e] := by
      rw [List.map_append, List.map_singleton, Tables.entry_of_newRow hrow]
    exact congrArg (fun rows => { w.books with rows }) hentries

theorem enters_insertRow (e : JournalEntry) (w : World) :
    Enters (insertRow e) w (.call .commit :: rowOf e (outcome (insertRow e) w)) := by
  have hcommit := Enters.place (c := .commit) rfl w
  rw [insertRow_eq]
  cases hplace : outcome (place .commit) w with
  | error f =>
    rw [outcome_bind_error hplace]
    exact hcommit.bind_error hplace
  | ok served =>
    rw [outcome_bind_ok hplace]
    exact hcommit.bind hplace (enters_fillRow e _)

theorem newRow_eq_error {t : Tables} {clock : Time.Timestamp} {e : JournalEntry} (he : e.issue = none)
    {f : Failure} (h : t.newRow clock e = .error f) : f = .dateOutOfRange ∧ ¬ clock.Lasts t.attempts := by
  unfold Tables.newRow at h
  rw [he] at h
  split at h
  · rename_i hundated
    refine ⟨(Except.error.inj h).symm, fun hlasts => ?_⟩
    obtain ⟨w, hw⟩ := hlasts.exists_shift
    rw [hw] at hundated
    cases hundated
  · cases h

/-- Only a commit that fails and the end of the calendar can keep a row for a repository out of the journal. -/
theorem rowOutcome_eq_error {e : JournalEntry} (he : e.issue = none) {f : Failure}
    (h : rowOutcome e w = .error f) : (∃ history, w.faults history .commit = .failed f) ∨
      f = .dateOutOfRange ∧ ¬ w.clock.Lasts (w.tables.attempts + 1) := by
  unfold rowOutcome at h
  rw [after_place, insertRow_eq] at h
  cases hplace : outcome (place .commit) { w with history := .openSession :: w.history } with
  | error f' =>
    rw [outcome_bind_error hplace] at h
    cases h
    have hc := place_eq_error hplace
    exact .inl ⟨_, hc⟩
  | ok served =>
    rw [outcome_bind_ok hplace, outcome_fillRow, after_place] at h
    cases hrow : w.tables.tried.newRow w.clock e with
    | ok row =>
      rw [hrow] at h
      cases h
    | error f' =>
      rw [hrow] at h
      obtain ⟨hf', hlate⟩ := newRow_eq_error he hrow
      exact .inr ⟨(Except.error.inj h).symm.trans hf', hlate⟩

theorem enters_journal {b : Bridge} (hb : b.journaling = true) (hf : w.faults.Lenient) (e : JournalEntry) :
    outcome (b.journal e) w = .ok () ∧ Enters (b.journal e) w (rowDeeds e (rowOutcome e w)) := by
  obtain ⟨served, hopen⟩ := outcome_place_answered (w := w) (c := .openSession) (hf.session _)
  unfold Bridge.journal
  rw [if_pos hb]
  unfold Step.journal
  rw [outcome_bind_ok hopen]
  refine ⟨outcome_contain .., ?_⟩
  exact (Enters.place rfl w).bind hopen ((enters_insertRow e _).contain _ _)

end Calls

end Bridge

end IssueBridge
