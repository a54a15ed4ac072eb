import IssueBridge.Proofs.Bridge.Current
import IssueBridge.Proofs.Bridge.Work

/-! # What becomes of a delivery

A delivery is refused, passed over, or given to the only handler of its kind and action. In the first two cases
nothing but the log shows that it came. In the last case the handler runs once, and a row is journalled where it
fails.
-/

namespace IssueBridge

open Step Tracker

namespace World

/-- Nothing happened but that something was logged. -/
def Logs (v w : World) : Prop := ∃ entries, w = { v with log := entries ++ v.log }

/-- Nothing happened but that something was logged and one row was journalled. -/
def Reports (e : JournalEntry) (v w : World) : Prop :=
  ∃ entries row, row.entry = e ∧ w = { v with
    log := entries ++ v.log
    history := .commit :: .openSession :: v.history
    tables := { v.tables with journal := v.tables.journal ++ [row], attempts := v.tables.attempts + 1 } }

/-- The database works: sessions are opened, commits succeed, and there is a time for the next row. -/
structure Writable (w : World) : Prop where
  session : ∀ history f, w.faults history .openSession ≠ .failed f
  commit : ∀ history f, w.faults history .commit ≠ .failed f
  dated : (w.clock.universal?.bind (·.shift? (w.tables.tried.attempts * Time.microsPerSecond : Nat))).isSome

variable {u v w : World}

theorem Logs.refl (w : World) : w.Logs w := ⟨[], rfl⟩

theorem Logs.tables (h : v.Logs w) : w.tables = v.tables := by
  obtain ⟨_, rfl⟩ := h
  rfl

theorem logs_say (level : Level) (text : String) (w : World) : w.Logs (after (say level text) w) :=
  ⟨[⟨level, text⟩], rfl⟩

theorem Logs.reports {e : JournalEntry} (h : u.Logs v) (h' : v.Reports e w) : u.Reports e w := by
  obtain ⟨entries, rfl⟩ := h
  obtain ⟨entries', row, hrow, rfl⟩ := h'
  exact ⟨entries' ++ entries, row, hrow, by rw [List.append_assoc]⟩

theorem Worked.tables {P : Call → Prop} (h : v.Worked P w) : w.tables = v.tables := by
  obtain ⟨_, _, _, rfl, -⟩ := h
  rfl

theorem Writable.of_worked {P : Call → Prop} (hv : v.Writable) (h : v.Worked P w) : w.Writable := by
  obtain ⟨_, _, _, rfl, -⟩ := h
  exact ⟨hv.session, hv.commit, hv.dated⟩

theorem Writable.of_logs (hv : v.Writable) (h : v.Logs w) : w.Writable := by
  obtain ⟨_, rfl⟩ := h
  exact ⟨hv.session, hv.commit, hv.dated⟩

end World

/-- The step comes to this outcome and leaves such a world. -/
def Step.Ends {α : Type} (x : Step α) (w : World) (o : Except Failure α) (R : World → Prop) : Prop :=
  outcome x w = o ∧ R (after x w)

/-- A database that works takes every row whose issue number fits its column. -/
theorem World.Writable.journal {w : World} (hw : w.Writable) {e : JournalEntry}
    (he : (e.issue.map Record.Form.fits64).getD true = true) :
    outcome (Step.journal e) w = .ok () ∧ w.Reports e (after (Step.journal e) w) := by
  obtain ⟨createdAt, hdated⟩ := Option.isSome_iff_exists.mp hw.dated
  have hrow : w.tables.tried.newRow w.clock e = .ok ⟨w.tables.journal.length + 1, e, createdAt⟩ := by
    unfold Tables.newRow
    rw [hdated]
    exact if_pos he
  have hall := journalled e w
  generalize outcome (Step.journal e) w = o, after (Step.journal e) w = v at hall
  cases hall with
  | closed hopen => exact absurd hopen (hw.session _ _)
  | uncommitted hopen hcommit => exact absurd hcommit (hw.commit _ _)
  | refused hopen hcommit hrefused =>
    rw [hrow] at hrefused
    cases hrefused
  | written hopen hcommit hwritten =>
    rw [hrow, Except.ok.injEq] at hwritten
    subst hwritten
    exact ⟨rfl, [], _, rfl, rfl⟩

namespace Event

def kinds : List String := ["issues", "issue_comment"]

def modelName (kind : String) : String := if kind = "issues" then "IssuesEvent" else "IssueCommentEvent"

def actions : Event → List String
  | .issue _ => ["opened", "closed", "reopened", "edited", "assigned", "unassigned", "labeled", "unlabeled"]
  | .comment _ => ["created", "edited", "deleted"]

/-- What handles an event, by its kind and action. -/
inductive HandledBy (b : Bridge) : Event → (Repo → Step Unit) → Prop
  | opened {e : GitHub.IssueEvent} (h : e.action = "opened") :
    HandledBy b (.issue e) fun repo => discard (b.opened e.issue repo)
  | closed {e : GitHub.IssueEvent} (h : e.action = "closed") : HandledBy b (.issue e) (b.closed e.issue)
  | reopened {e : GitHub.IssueEvent} (h : e.action = "reopened") : HandledBy b (.issue e) (b.reopened e.issue)
  | edited {e : GitHub.IssueEvent} (h : e.action = "edited") :
    HandledBy b (.issue e) fun repo => discard (b.edited e.issue repo)
  | assigned {e : GitHub.IssueEvent} (h : e.action = "assigned") : HandledBy b (.issue e) (b.assigned e)
  | unassigned {e : GitHub.IssueEvent} (h : e.action = "unassigned") : HandledBy b (.issue e) (b.unassigned e)
  | labeled {e : GitHub.IssueEvent} (h : e.action = "labeled") : HandledBy b (.issue e) (b.labeled e)
  | unlabeled {e : GitHub.IssueEvent} (h : e.action = "unlabeled") : HandledBy b (.issue e) (b.unlabeled e)
  | commentCreated {e : GitHub.CommentEvent} (h : e.action = "created") :
    HandledBy b (.comment e) fun repo => discard (b.commentCreated e repo)
  | commentEdited {e : GitHub.CommentEvent} (h : e.action = "edited") :
    HandledBy b (.comment e) fun repo => discard (b.commentEdited e repo)
  | commentDeleted {e : GitHub.CommentEvent} (h : e.action = "deleted") :
    HandledBy b (.comment e) (b.commentDeleted e)

/-- The event is about a pull request, has no action of its kind, or is about a repository that is not bridged. -/
def PassedOver (b : Bridge) (e : Event) : Prop :=
  e.subject.isPullRequest = true ∨ e.action ∉ e.actions ∨ b.settings.repos.lookup e.repository = none

end Event

section Handlers

variable {b : Bridge} {e : Event} {handler : Repo → Step Unit}

theorem Step.discard_map {α β : Type} (x : Step α) (f : α → β) : discard (f <$> x) = discard x := by
  funext w
  show EStateM.map _ (EStateM.map f x) w = EStateM.map _ x w
  unfold EStateM.map
  cases x w <;> rfl

theorem Step.discard_seq {α : Type} (x : Step Unit) (a : α) : (discard (x >>= fun _ => pure a) : Step Unit) = x := by
  funext w
  show EStateM.map _ (EStateM.bind x _) w = x w
  unfold EStateM.map EStateM.bind
  cases x w <;> rfl

theorem IssueAction.mem_of_named? {name : String} {a : IssueAction} (h : IssueAction.named? name = some a) :
    (name, a) ∈ [("opened", IssueAction.opened), ("closed", .closed), ("reopened", .reopened), ("edited", .edited),
      ("assigned", .assigned), ("unassigned", .unassigned), ("labeled", .labeled), ("unlabeled", .unlabeled)] := by
  obtain ⟨before, after, heq, -⟩ := List.lookup_eq_some_iff.mp h
  rw [heq]
  exact List.mem_append_right _ List.mem_cons_self

theorem CommentAction.mem_of_named? {name : String} {a : CommentAction} (h : CommentAction.named? name = some a) :
    (name, a) ∈ [("created", CommentAction.created), ("edited", .edited), ("deleted", .deleted)] := by
  obtain ⟨before, after, heq, -⟩ := List.lookup_eq_some_iff.mp h
  rw [heq]
  exact List.mem_append_right _ List.mem_cons_self

namespace Event

theorem handler?_issue {e : GitHub.IssueEvent} {name : String} {a : IssueAction} (h : e.action = name)
    (ha : IssueAction.named? name = some a) (hdoes : ∀ repo, discard (b.handleIssue a e repo) = handler repo) :
    (Event.issue e).handler? b = some handler :=
  (congrArg (Option.map _) (h ▸ ha : IssueAction.named? e.action = some a)).trans (congrArg some (funext hdoes))

theorem handler?_comment {e : GitHub.CommentEvent} {name : String} {a : CommentAction} (h : e.action = name)
    (ha : CommentAction.named? name = some a) (hdoes : ∀ repo, discard (b.handleComment a e repo) = handler repo) :
    (Event.comment e).handler? b = some handler :=
  (congrArg (Option.map _) (h ▸ ha : CommentAction.named? e.action = some a)).trans (congrArg some (funext hdoes))

theorem HandledBy.handler? (h : e.HandledBy b handler) : e.handler? b = some handler := by
  cases h with
  | opened h => exact handler?_issue (a := .opened) h (by decide) fun _ => discard_map ..
  | closed h => exact handler?_issue (a := .closed) h (by decide) fun _ => discard_seq ..
  | reopened h => exact handler?_issue (a := .reopened) h (by decide) fun _ => discard_seq ..
  | edited h => exact handler?_issue (a := .edited) h (by decide) fun _ => discard_map ..
  | assigned h => exact handler?_issue (a := .assigned) h (by decide) fun _ => discard_seq ..
  | unassigned h => exact handler?_issue (a := .unassigned) h (by decide) fun _ => discard_seq ..
  | labeled h => exact handler?_issue (a := .labeled) h (by decide) fun _ => discard_seq ..
  | unlabeled h => exact handler?_issue (a := .unlabeled) h (by decide) fun _ => discard_seq ..
  | commentCreated h => exact handler?_comment (a := .created) h (by decide) fun _ => discard_map ..
  | commentEdited h => exact handler?_comment (a := .edited) h (by decide) fun _ => discard_map ..
  | commentDeleted h => exact handler?_comment (a := .deleted) h (by decide) fun _ => discard_seq ..

/-- Every action of an event's kind has something that handles it. -/
theorem exists_handledBy (b : Bridge) (h : e.action ∈ e.actions) : ∃ handler, e.HandledBy b handler := by
  cases e with
  | issue e =>
    simp only [actions, List.mem_cons, List.not_mem_nil, or_false] at h
    rcases h with h | h | h | h | h | h | h | h
    · exact ⟨_, .opened h⟩
    · exact ⟨_, .closed h⟩
    · exact ⟨_, .reopened h⟩
    · exact ⟨_, .edited h⟩
    · exact ⟨_, .assigned h⟩
    · exact ⟨_, .unassigned h⟩
    · exact ⟨_, .labeled h⟩
    · exact ⟨_, .unlabeled h⟩
  | comment e =>
    simp only [actions, List.mem_cons, List.not_mem_nil, or_false] at h
    rcases h with h | h | h
    · exact ⟨_, .commentCreated h⟩
    · exact ⟨_, .commentEdited h⟩
    · exact ⟨_, .commentDeleted h⟩

theorem HandledBy.unique {handler' : Repo → Step Unit} (h : e.HandledBy b handler) (h' : e.HandledBy b handler') :
    handler' = handler :=
  Option.some.inj (h'.handler?.symm.trans h.handler?)

theorem handler?_eq_none (b : Bridge) (h : e.action ∉ e.actions) : e.handler? b = none := by
  cases e with
  | issue e =>
    refine congrArg (Option.map _) (Option.eq_none_iff_forall_not_mem.mpr fun a ha => h ?_)
    have hmem := IssueAction.mem_of_named? ha
    exact List.mem_map_of_mem (f := Prod.fst) hmem
  | comment e =>
    refine congrArg (Option.map _) (Option.eq_none_iff_forall_not_mem.mpr fun a ha => h ?_)
    have hmem := CommentAction.mem_of_named? ha
    exact List.mem_map_of_mem (f := Prod.fst) hmem

end Event

end Handlers

namespace Event

variable {kind : String} {body : ByteArray} {e : Event} {f : Failure}

theorem read?_eq_none (h : kind ∉ kinds) (body : ByteArray) : read? kind body = none := by
  simp only [kinds, List.mem_cons, List.not_mem_nil, or_false, not_or] at h
  unfold read?
  rw [if_neg h.1, if_neg h.2]

theorem kind_of_read? (h : read? kind body = some (.ok e)) : e.kind = kind := by
  unfold read? at h
  split at h
  · rename_i hkind
    cases ho : GitHub.IssueEvent.model.ofBytes body <;> rw [ho] at h <;> cases h
    exact hkind.symm
  · split at h
    · rename_i hkind
      cases ho : GitHub.CommentEvent.model.ofBytes body <;> rw [ho] at h <;> cases h
      exact hkind.symm
    · cases h

theorem ofBytes_eq_error {α : Type} {m : Record.Model α} (h : m.ofBytes body = .error f) :
    ∃ problems, f = .invalidRecord m.name problems := by
  unfold Record.Model.ofBytes at h
  split at h
  · rename_i v _
    unfold Record.Model.ofValue at h
    cases hv : m.form v with
    | good a =>
      rw [hv] at h
      cases h
    | bad problems =>
      rw [hv] at h
      exact ⟨problems, (Except.error.inj h).symm⟩
  · exact ⟨_, (Except.error.inj h).symm⟩

theorem error_of_map {α β : Type} {g : α → β} : ∀ {o : Except Failure α}, o.map g = .error f → o = .error f
  | .error _, h => congrArg Except.error (Except.error.inj h)

theorem invalid_of_read? (h : read? kind body = some (.error f)) :
    ∃ problems, f = .invalidRecord (modelName kind) problems := by
  unfold read? at h
  unfold modelName
  split at h
  · rename_i hkind
    rw [if_pos hkind]
    exact ofBytes_eq_error (error_of_map (Option.some.inj h))
  · rename_i hkind
    rw [if_neg hkind]
    split at h
    · exact ofBytes_eq_error (error_of_map (Option.some.inj h))
    · cases h

end Event

namespace Bridge

variable {b : Bridge} {kind : String} {body : ByteArray} {e : Event} {f : Failure} {repo : Repo}
  {handler : Repo → Step Unit} {w : World}

section Without

theorem dispatch_of_foreign (h : kind ∉ Event.kinds) (b : Bridge) (delivery : String) (body : ByteArray)
    (w : World) : Ends (b.dispatch kind delivery body) w (.error (.unsupportedEvent kind)) w.Logs := by
  unfold dispatch
  rw [Event.read?_eq_none h]
  exact ⟨rfl, World.logs_say _ _ w⟩

theorem dispatch_of_invalid (h : Event.read? kind body = some (.error f)) (b : Bridge) (delivery : String)
    (w : World) : Ends (b.dispatch kind delivery body) w (.error f) w.Logs := by
  unfold dispatch
  rw [h]
  exact ⟨rfl, .refl w⟩

theorem handle_of_passedOver (h : e.PassedOver b) (delivery : String) (w : World) :
    Ends (b.handle e delivery) w (.ok false) w.Logs := by
  unfold handle
  dsimp only
  split
  · exact ⟨rfl, World.logs_say _ _ w⟩
  · rename_i hissue
    split
    · exact ⟨rfl, .refl w⟩
    · rename_i handler hhandler
      split
      · exact ⟨rfl, World.logs_say _ _ w⟩
      · rename_i repo hrepo
        rcases h with h | h | h
        · exact absurd h hissue
        · rw [Event.handler?_eq_none b h] at hhandler
          cases hhandler
        · rw [h] at hrepo
          cases hrepo

end Without

section Attempts

variable {x : Step Unit}

theorem attempt_of_ok (context : String) (h : outcome x w = .ok ()) (b : Bridge) (e : Event) :
    Ends (b.attempt e context x) w (.ok true) (after x w).Logs := by
  unfold attempt Ends
  rw [outcome_bind_ok (outcome_observe ..), after_bind_ok (outcome_observe ..), after_observe, h]
  exact ⟨rfl, World.logs_say _ _ _⟩

def failureRow (e : Event) (f : Failure) : JournalEntry where
  status := .failed
  origin := .webhook
  message := f.message
  repository := e.repository
  issue := some e.subject.number
  action := some e.title

theorem attempt_of_error (context : String) (h : outcome x w = .error f) (b : Bridge) (e : Event) :
    ∃ v, (after x w).Logs v ∧
      outcome (b.attempt e context x) w = outcome (b.journal (failureRow e f) >>= fun _ => pure false) v ∧
      after (b.attempt e context x) w = after (b.journal (failureRow e f)) v := by
  refine ⟨_, World.logs_say .error (context ++ " Error handling event: " ++ f.message) (after x w), ?_⟩
  unfold attempt
  rw [outcome_bind_ok (outcome_observe ..), after_bind_ok (outcome_observe ..), after_observe, h]
  exact ⟨rfl, after_bind_pure _ _ fun _ => false⟩

theorem attempt_journalled (context : String) (h : outcome x w = .error f) (hw : (after x w).Writable)
    (hb : b.journaling = true) (hn : Record.Form.fits64 e.subject.number = true) :
    Ends (b.attempt e context x) w (.ok false) ((after x w).Reports (failureRow e f)) := by
  obtain ⟨v, hlogs, ho, ha⟩ := attempt_of_error context h b e
  obtain ⟨hok, hreports⟩ := (hw.of_logs hlogs).journal (e := failureRow e f) hn
  have hjournal : b.journal (failureRow e f) = Step.journal (failureRow e f) := if_pos hb
  unfold Ends
  rw [ho, ha, hjournal, outcome_bind_ok hok]
  exact ⟨rfl, hlogs.reports hreports⟩

theorem attempt_unjournalled (context : String) (h : outcome x w = .error f) (hb : b.journaling = false)
    (e : Event) : Ends (b.attempt e context x) w (.ok false) (after x w).Logs := by
  obtain ⟨v, hlogs, ho, ha⟩ := attempt_of_error context h b e
  have hjournal : b.journal (failureRow e f) = pure () := if_neg (by simp [hb])
  unfold Ends
  rw [ho, ha, hjournal]
  exact ⟨rfl, hlogs⟩

end Attempts

/-- What is not passed over is handled by what handles its kind and action, for its repository. -/
theorem exists_accepts (h : ¬ e.PassedOver b) :
    ∃ repo handler, b.Accepts e handler repo ∧ ∀ handler', e.HandledBy b handler' ↔ handler' = handler := by
  simp only [Event.PassedOver, not_or, Bool.not_eq_true, not_not] at h
  obtain ⟨hissue, haction, hrepo⟩ := h
  obtain ⟨repo, hrepo⟩ := Option.ne_none_iff_exists'.mp hrepo
  obtain ⟨handler, hhandler⟩ := Event.exists_handledBy b haction
  exact ⟨repo, handler, ⟨hissue, hhandler.handler?, hrepo⟩, fun handler' =>
    ⟨hhandler.unique, fun heq => heq ▸ hhandler⟩⟩

/-- A delivery has its effect through the only handler of its kind and action, or it has none. Other kinds are
refused, and so are bodies that are no such event. Pull requests, other actions and repositories that are not
bridged are passed over. In all these cases there is neither a call nor a row. Otherwise the handler is run once, for
the repository of the event; it writes to no table, and the delivery adds nothing to what it did if it succeeds. If
it fails, the delivery does not, but one row is journalled. -/
theorem dispatch_exact (hw : w.Writable) (b : Bridge) (kind delivery : String) (body : ByteArray) :
    (kind ∉ Event.kinds → Ends (b.dispatch kind delivery body) w (.error (.unsupportedEvent kind)) w.Logs) ∧
    (∀ f, Event.read? kind body = some (.error f) →
      (∃ problems, f = .invalidRecord (Event.modelName kind) problems) ∧
        Ends (b.dispatch kind delivery body) w (.error f) w.Logs) ∧
    (∀ e, Event.read? kind body = some (.ok e) → e.PassedOver b →
      Ends (b.dispatch kind delivery body) w (.ok false) w.Logs) ∧
    ∀ e, Event.read? kind body = some (.ok e) → ¬ e.PassedOver b →
      e.kind = kind ∧ ∃ repo handler, b.settings.repos.lookup e.repository = some repo ∧
        (∀ handler', e.HandledBy b handler' ↔ handler' = handler) ∧
        (after (handler repo) w).tables = w.tables ∧
        (outcome (handler repo) w = .ok () →
          Ends (b.dispatch kind delivery body) w (.ok true) (after (handler repo) w).Logs) ∧
        ∀ f, outcome (handler repo) w = .error f → Record.Form.fits64 e.subject.number = true →
          Ends (b.dispatch kind delivery body) w (.ok false)
            (if b.journaling then (after (handler repo) w).Reports (failureRow e f)
              else (after (handler repo) w).Logs) := by
  refine ⟨fun h => dispatch_of_foreign h b delivery body w, fun f h =>
    ⟨Event.invalid_of_read? h, dispatch_of_invalid h b delivery w⟩, fun e he h => ?_, fun e he h => ?_⟩
  · rw [dispatch_eq he]
    exact handle_of_passedOver h delivery w
  · obtain ⟨repo, handler, haccepts, honly⟩ := exists_accepts h
    have hworked := (tracks_handler haccepts.handler repo).worked w
    rw [dispatch_eq he, haccepts.handle_eq]
    refine ⟨Event.kind_of_read? he, repo, handler, haccepts.repository, honly, hworked.tables,
      fun hok => attempt_of_ok _ hok b e, fun f hf hn => ?_⟩
    split
    · rename_i hb
      exact attempt_journalled _ hf (hw.of_worked hworked) hb hn
    · rename_i hb
      exact attempt_unjournalled _ hf (Bool.eq_false_iff.mpr hb) e

section Unopened

def unopened : Delivery := told "closed" "New" 7

theorem read?_unopened : Event.read? unopened.kind unopened.body = some (.ok (.issue eventNew)) := by
  with_unfolding_all rfl

theorem writable_stepWorld : stepWorld.Writable := ⟨nofun, nofun, by decide⟩

theorem dispatch_exact_unopened :
    Ends (stepped.dispatch unopened.kind unopened.name unopened.body) stepWorld (.ok false)
      ((after (stepped.closed eventNew.issue steppedRepo) stepWorld).Reports
        (failureRow (.issue eventNew) (.issueNotFound "AB" 7))) := by
  have hover : ¬ Event.PassedOver stepped (.issue eventNew) := by
    unfold Event.PassedOver
    decide
  obtain ⟨-, repo, handler, hrepo, honly, -, -, hfails⟩ :=
    (dispatch_exact writable_stepWorld stepped unopened.kind unopened.name unopened.body).2.2.2
      (.issue eventNew) read?_unopened hover
  obtain rfl : steppedRepo = repo := Option.some.inj hrepo
  obtain rfl := (honly _).mp (.closed (e := eventNew) rfl)
  exact hfails _ (by with_unfolding_all rfl) (by decide)

end Unopened

end Bridge

end IssueBridge
