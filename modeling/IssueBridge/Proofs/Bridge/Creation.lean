import IssueBridge.Proofs.Bridge.Counterpart
import IssueBridge.Proofs.Tracker.Fresh

/-! # Creating the counterpart of an issue

A creation makes one ticket or fails without making any, although the tracker may be asked twice. What
a pass does to a new ticket afterwards stays among its mirrored fields.
-/

namespace IssueBridge

open Step Tracker

/-- The step makes one ticket, of fields that satisfy `P`, or it fails and makes none. -/
def Creates (P : Fields → Prop) (x : Step TicketRef) : Prop := ∀ w,
  (∃ fs, P fs ∧ outcome x w = .ok w.store.tickets.length ∧
    World.Agrees { w with store := (w.store.create fs).2 } (after x w)) ∨
  ((∃ f, outcome x w = .error f) ∧ w.Agrees (after x w))

section

variable {α : Type} {P Q : Fields → Prop} {x : Step TicketRef} {w : World}

theorem Creates.mono (h : Creates P x) (hPQ : ∀ fs, P fs → Q fs) : Creates Q x := fun w =>
  (h w).imp_left fun ⟨fs, hfs, h⟩ => ⟨fs, hPQ fs hfs, h⟩

theorem Creates.silent_bind {y : Step α} {f : α → Step TicketRef} (hy : Silent y)
    (hf : ∀ a w, outcome y w = .ok a → Creates P (f a)) : Creates P (y >>= f) := by
  intro w
  have hw : w.Agrees (after y w) := hy w
  cases h : outcome y w with
  | error e =>
    rw [outcome_bind_error h, after_bind_error h]
    exact .inr ⟨⟨e, rfl⟩, hw⟩
  | ok a =>
    rw [outcome_bind_ok h, after_bind_ok h]
    rcases hf a w h (after y w) with ⟨fs, hfs, ho, hs⟩ | ⟨hf, hs⟩
    · rw [hw.store] at ho
      refine .inl ⟨fs, hfs, ho, .trans ?_ hs⟩
      exact ⟨by rw [hw.store], hw.source, hw.faults, hw.clock⟩
    · exact .inr ⟨hf, hw.trans hs⟩

theorem Creates.logging (h : Creates P x) (kind : Failure → Bool) (start : String) :
    Creates P (logging kind start x) := by
  intro w
  have hl := Keeps.agrees_logging x kind start w
  rw [outcome_logging]
  exact (h w).imp (fun ⟨fs, hfs, ho, hs⟩ => ⟨fs, hfs, ho, hs.trans hl⟩) fun ⟨ho, hs⟩ => ⟨ho, hs.trans hl⟩

theorem creates_create (fs : Fields) : Creates (· = fs) (create fs) := by
  intro w
  unfold create
  cases hp : outcome (place (.create fs)) w with
  | error f =>
    rw [outcome_bind_error hp, after_bind_error hp, after_place]
    exact .inr ⟨⟨f, rfl⟩, rfl, rfl, rfl, rfl⟩
  | ok served =>
    refine .inl ⟨fs, rfl, ?_⟩
    rw [outcome_bind_ok hp, after_bind_ok hp, after_place]
    have ht := Store.ticket?_create w.store fs
    rw [outcome_bind_ok (outcome_onStore ..), after_bind_ok (outcome_onStore ..), after_onStore]
    rw [outcome_bind_ok (outcome_ticket ht), after_bind_ok (outcome_ticket ht), after_ticket]
    exact ⟨rfl, rfl, rfl, rfl, rfl⟩

def Attempts (fs fs' : Fields) : Prop := fs' = fs ∨ fs' = fs.erase "assignee"

theorem creates_createAgain (fs : Fields) (f : Failure) :
    Creates (Attempts fs) (Bridge.createAgain fs f) := by
  unfold Bridge.createAgain
  split
  · refine .silent_bind (.say _ _) fun _ _ _ => ?_
    exact ((creates_create _).logging _ _).mono fun fs' h => .inr h
  · split
    · exact .silent_bind (.say _ _) fun _ _ _ _ => .inr ⟨⟨f, rfl⟩, .refl _⟩
    · exact fun _ => .inr ⟨⟨f, rfl⟩, .refl _⟩

theorem creates_createTicket (fs : Fields) : Creates (Attempts fs) (Bridge.createTicket fs) := by
  intro w
  unfold Bridge.createTicket
  rw [outcome_bind_ok (outcome_observe ..), after_bind_ok (outcome_observe ..), after_observe]
  rcases creates_create fs w with ⟨_, rfl, ho, hs⟩ | ⟨⟨f, ho⟩, hs⟩
  · rw [ho]
    exact .inl ⟨_, .inl rfl, rfl, hs⟩
  · -- The first attempt changed nothing that the second one depends on.
    rw [ho]
    rcases creates_createAgain fs f (after (create fs) w) with ⟨fs', hfs, ho', hs'⟩ | ⟨ho', hs'⟩
    · rw [hs.store] at ho'
      refine .inl ⟨fs', hfs, ho', .trans ?_ hs'⟩
      exact ⟨by rw [hs.store], hs.source, hs.faults, hs.clock⟩
    · exact .inr ⟨ho', hs.trans hs'⟩

inductive Makes : ∀ α : Type, Step α → Prop
  | create (fs : Fields) : Makes _ (create fs)
  | edit {α : Type} {x : Step α} {r : TicketRef} (h : Edits mirrored r α x) : Makes α x

abbrev Making {α : Type} (x : Step α) : Prop := Composed Makes x

theorem Editing.making {α : Type} {x : Step α} {r : TicketRef} (h : Editing mirrored r x) : Making x :=
  Composed.mono h fun _ _ => .edit

/-- Making tickets and working on them stays inside every frame that admits both. -/
theorem Making.keeps {α : Type} {F : Frame} {x : Step α} (h : Making x)
    (hcreate : ∀ (w : World) fs, F.rel w { w with store := (w.store.create fs).2 })
    (hF : ∀ r, F.Admits mirrored r) : Keeps F x := by
  refine Composed.keeps h fun α x hx w => ?_
  cases hx with
  | create fs =>
    rcases creates_create fs w with ⟨_, rfl, -, hs⟩ | ⟨-, hs⟩
    · exact F.trans (hcreate w _) (F.noted hs)
    · exact F.noted hs
  | edit he => exact he.keeps (hF _) w

theorem making_createTicket (fs : Fields) : Making (Bridge.createTicket fs) := by
  refine .seq (.observe (.base (.create fs))) fun o => ?_
  cases o with
  | ok r => exact .pure r
  | error f =>
    dsimp only
    unfold Bridge.createAgain
    split
    · exact .seq (.say _ _) fun _ => .logging (.base (.create _)) _ _
    · split
      · exact .seq (.say _ _) fun _ => .throw f
      · exact .throw f

end

namespace Bridge

variable {b : Bridge} {i : GitHub.Issue} {repo : Repo} {w : World}

/-- The fields that the counterpart of an issue may be created from. -/
def Drafts (b : Bridge) (i : GitHub.Issue) (repo : Repo) (fs : Fields) : Prop :=
  ∃ d, Logged.result (b.description i) = .ok d ∧ Attempts (b.newFieldsOf i repo d) fs

theorem creates_opened (b : Bridge) (i : GitHub.Issue) (repo : Repo) :
    Creates (b.Drafts i repo) (b.opened i repo) := by
  refine .silent_bind (.ofLogged _) fun fs w hfs => ?_
  rw [outcome_ofLogged (b.blind_newFields i repo), b.result_newFields] at hfs
  cases hd : Logged.result (b.description i) with
  | error f =>
    rw [hd] at hfs
    cases hfs
  | ok d =>
    rw [hd] at hfs
    cases hfs
    exact (creates_createTicket _).mono fun fs' h => ⟨d, hd, h⟩

theorem Drafts.get?_of_ne {fs : Fields} (h : b.Drafts i repo fs) {name : String}
    (hn : name ≠ "assignee") : ∃ d, fs.get? name = (b.newFieldsOf i repo d).get? name := by
  obtain ⟨d, -, rfl | rfl⟩ := h
  · exact ⟨d, rfl⟩
  · exact ⟨d, Fields.get?_erase_of_ne hn⟩

theorem Drafts.project {fs : Fields} (h : b.Drafts i repo fs) (s : Store) :
    (s.newTicket fs).project = repo.project := by
  obtain ⟨d, hd⟩ := h.get?_of_ne (by decide : "project" ≠ "assignee")
  rw [Projector.get?_project_newFieldsOf] at hd
  rw [Store.project_newTicket, Store.projectKey, hd]
  rfl

theorem Drafts.sourceId {fs : Fields} (h : b.Drafts i repo fs)
    (hids : b.fieldIds.githubUrl ≠ some b.fieldIds.githubId) (s : Store) :
    (s.newTicket fs).sourceId (customField b.fieldIds.githubId) = .int i.id := by
  obtain ⟨d, hd⟩ := h.get?_of_ne (customField_ne (by decide) b.fieldIds.githubId)
  rw [Projector.get?_githubId_newFieldsOf hids] at hd
  rw [Store.sourceId_newTicket (customField_ne (by decide) _), hd]
  rfl

/-- A new ticket is found under its own project and id and no other. -/
theorem Drafts.answers_iff {fs : Fields} (h : b.Drafts i repo fs)
    (hids : b.fieldIds.githubUrl ≠ some b.fieldIds.githubId) (s : Store) (project : String) (id : Int) :
    (s.newTicket fs).answers (query b.fieldIds project id) ↔ repo.project = project ∧ i.id = id := by
  unfold Ticket.answers query
  rw [h.project, show "customfield_" ++ b.fieldIds.githubId = customField b.fieldIds.githubId from rfl,
    h.sourceId hids]
  simp [Value.isNumber]

theorem Drafts.id_of_answers {fs : Fields} (h : b.Drafts i repo fs) {s : Store} {q : Correlation.Query}
    (ha : (s.newTicket fs).answers q) : i.id = q.id := by
  obtain ⟨d, hd⟩ := h.get?_of_ne (customField_ne (by decide) q.field)
  unfold Ticket.answers at ha
  simp only [Bool.and_eq_true] at ha
  rw [show "customfield_" ++ q.field = customField q.field from rfl,
    Store.sourceId_newTicket (customField_ne (by decide) _), hd] at ha
  cases hv : (b.newFieldsOf i repo d).get? (customField q.field) with
  | none =>
    rw [hv] at ha
    cases ha.2
  | some v =>
    rw [hv] at ha
    exact Projector.id_of_isNumber_newFieldsOf hv ha.2

theorem outcome_closeNew (r : TicketRef) (i : GitHub.Issue) (repo : Repo) (w : World) :
    outcome (closeNew r i repo) w = .ok () := by
  unfold closeNew
  split
  · exact outcome_contain ..
  · rfl

theorem outcome_fillIn (r : TicketRef) (i : GitHub.Issue) (repo : Repo) :
    ∀ rule ∈ LabelRule.all, ∀ w, outcome (fillIn r i repo rule) w = .ok () := by
  intro rule hr w
  obtain ⟨o, ho⟩ : ∃ o, rule.creationFields repo i.labelNames = .ok o := by
    rcases LabelRule.mem_all_iff.mp hr with rfl | rfl
    · exact ⟨_, rfl⟩
    · unfold LabelRule.component
      dsimp only
      split <;> exact ⟨_, rfl⟩
  unfold fillIn
  rw [ho, outcome_bind_ok (outcome_ofExcept w (.ok o))]
  cases o with
  | none => rfl
  | some fs => exact outcome_contain ..

theorem outcome_settleNew (r : TicketRef) (i : GitHub.Issue) (repo : Repo) (w : World) :
    outcome (settleNew r i repo) w = .ok () :=
  (outcome_bind_ok (outcome_closeNew r i repo w)).trans (outcome_forM (outcome_fillIn r i repo) _)

theorem silent_warnUnmapped (b : Bridge) (i : GitHub.Issue) : Silent (b.warnUnmapped i) := by
  unfold warnUnmapped
  split
  · exact .say _ _
  · exact .pure _

theorem making_opened (b : Bridge) (i : GitHub.Issue) (repo : Repo) : Making (b.opened i repo) :=
  .seq (.ofLogged (b.blind_newFields i repo)) making_createTicket

theorem making_createFromSource (b : Bridge) (i : GitHub.Issue) (repo : Repo) :
    Making (b.createFromSource i repo) := by
  have hwarn : Making (b.warnUnmapped i) := by
    unfold warnUnmapped
    split
    · exact .say _ _
    · exact .pure _
  exact .seq hwarn fun _ => .seq (making_opened b i repo) fun r =>
    .seq (editing_settleNew r i repo).making fun _ => .pure r

/-- A pass creates one ticket, of which it changes only mirrored fields; or it fails and creates none. -/
theorem createFromSource_cases (b : Bridge) (i : GitHub.Issue) (repo : Repo) (w : World) :
    (∃ fs, b.Drafts i repo fs ∧
      outcome (b.createFromSource i repo) w = .ok w.store.tickets.length ∧
      (Frame.alters mirrored (· = w.store.tickets.length) fun _ => False).rel
        { w with store := (w.store.create fs).2 } (after (b.createFromSource i repo) w)) ∨
    ((∃ f, outcome (b.createFromSource i repo) w = .error f) ∧
      w.Agrees (after (b.createFromSource i repo) w)) := by
  have hc : Creates (b.Drafts i repo) (do b.warnUnmapped i; b.opened i repo) :=
    .silent_bind (silent_warnUnmapped b i) fun _ _ _ => creates_opened b i repo
  have hsplit : b.createFromSource i repo =
      (do b.warnUnmapped i; b.opened i repo) >>= fun r => do settleNew r i repo; return r :=
    (bind_assoc ..).symm
  rw [hsplit]
  rcases hc w with ⟨fs, hfs, ho, hs⟩ | ⟨⟨f, ho⟩, hs⟩
  · rw [outcome_bind_ok ho, after_bind_ok ho, outcome_bind_ok (outcome_settleNew ..), after_bind_pure]
    refine .inl ⟨fs, hfs, rfl, ?_⟩
    exact (Frame.alters ..).trans ((Frame.alters ..).noted hs) ((editing_settleNew _ i repo).alters _)
  · rw [outcome_bind_error ho, after_bind_error ho]
    exact .inr ⟨⟨f, rfl⟩, hs⟩

end Bridge

end IssueBridge
