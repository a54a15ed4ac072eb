import IssueBridge.Projection.Fields
import IssueBridge.Proofs.Step.Outcome

/-! # Results that do not depend on the log

What is projected is written to the log but never read from it. So a projection has one result,
wherever it is asked for.
-/

namespace Except

variable {ε α β : Type} {x : Except ε α} {b : β}

theorem bind_eq_ok_iff {f : α → Except ε β} : x.bind f = .ok b ↔ ∃ a, x = .ok a ∧ f a = .ok b := by
  cases x with
  | error e => exact ⟨nofun, fun ⟨_, h, _⟩ => nomatch h⟩
  | ok a => exact ⟨fun h => ⟨a, rfl, h⟩, fun ⟨_, ha, h⟩ => Except.ok.inj ha ▸ h⟩

theorem map_eq_ok_iff {f : α → β} : x.map f = .ok b ↔ ∃ a, x = .ok a ∧ f a = b := by
  cases x with
  | error e => exact ⟨nofun, fun ⟨_, h, _⟩ => nomatch h⟩
  | ok a => exact ⟨fun h => ⟨a, rfl, Except.ok.inj h⟩, fun ⟨_, ha, h⟩ => congrArg _ (Except.ok.inj ha ▸ h)⟩

theorem exists_bind_map_iff {γ : Type} {y : Except ε γ} {f : α → γ → β} :
    (∃ b, (x.bind fun a => y.map (f a)) = .ok b) ↔ (∃ a, x = .ok a) ∧ ∃ c, y = .ok c := by
  constructor
  · rintro ⟨b, h⟩
    obtain ⟨a, hx, h⟩ := bind_eq_ok_iff.mp h
    obtain ⟨c, hy, -⟩ := map_eq_ok_iff.mp h
    exact ⟨⟨a, hx⟩, c, hy⟩
  · rintro ⟨⟨a, hx⟩, c, hy⟩
    exact ⟨f a c, bind_eq_ok_iff.mpr ⟨a, hx, map_eq_ok_iff.mpr ⟨c, hy, rfl⟩⟩⟩

end Except

namespace IssueBridge

namespace Logged

variable {α β : Type}

def resultFrom (x : Logged α) (log : Log) : Except Failure α :=
  match x log with
  | .ok a _ => .ok a
  | .error f _ => .error f

def result (x : Logged α) : Except Failure α := resultFrom x []

/-- The computation does not read the log. -/
def Blind (x : Logged α) : Prop := ∀ log, resultFrom x log = result x

theorem resultFrom_bind (x : Logged α) (f : α → Logged β) (log : Log) :
    resultFrom (x >>= f) log =
      match x log with
      | .ok a log' => resultFrom (f a) log'
      | .error e _ => .error e := by
  unfold resultFrom
  rw [show (x >>= f) log = EStateM.bind x f log from rfl, EStateM.bind]
  cases x log <;> rfl

section

variable {x : Logged α} {f : α → Logged β}

theorem resultFrom_bind_eq_ok {log : Log} {c : β} (h : resultFrom (x >>= f) log = .ok c) :
    ∃ a log', resultFrom (f a) log' = .ok c := by
  rw [resultFrom_bind] at h
  cases hx : x log with
  | ok a log' =>
    rw [hx] at h
    exact ⟨a, log', h⟩
  | error e _ =>
    rw [hx] at h
    cases h

theorem Blind.resultFrom_bind (hx : Blind x) (hf : ∀ a, Blind (f a)) (log : Log) :
    resultFrom (x >>= f) log = (result x).bind fun a => result (f a) := by
  rw [Logged.resultFrom_bind, ← hx log, resultFrom]
  cases x log with
  | ok a log' => exact hf a log'
  | error e log' => rfl

theorem Blind.bind (hx : Blind x) (hf : ∀ a, Blind (f a)) : Blind (x >>= f) := fun log =>
  (hx.resultFrom_bind hf log).trans (hx.resultFrom_bind hf []).symm

theorem Blind.result_bind (hx : Blind x) (hf : ∀ a, Blind (f a)) :
    result (x >>= f) = (result x).bind fun a => result (f a) :=
  hx.resultFrom_bind hf []

end

theorem blind_pure (a : α) : Blind (pure a : Logged α) := fun _ => rfl

@[simp]
theorem result_pure (a : α) : result (pure a : Logged α) = .ok a := rfl

theorem blind_say (level : Level) (text : String) : Blind (say level text) := fun _ => rfl

@[simp]
theorem result_say (level : Level) (text : String) : result (say level text) = .ok () := rfl

theorem blind_ofExcept (e : Except Failure α) : Blind (ofExcept e) := by
  cases e <;> exact fun _ => rfl

@[simp]
theorem result_ofExcept (e : Except Failure α) : result (ofExcept e) = e := by
  cases e <;> rfl

end Logged

theorem Step.outcome_ofLogged {α : Type} {x : Logged α} (h : x.Blind) (w : World) :
    outcome (ofLogged x) w = x.result := by
  rw [← h w.log, Logged.resultFrom]
  unfold outcome ofLogged
  cases x w.log <;> rfl

namespace Projector

open Logged

variable (p : Projector) (i : GitHub.Issue) (repo : Repo) (c : GitHub.Comment)

theorem blind_converted (text : String) : Blind (p.converted text) :=
  (blind_ofExcept _).bind fun o => by
    split
    · exact (blind_say _ _).bind fun _ => blind_pure _
    · exact blind_pure _

theorem blind_description : Blind (p.description i) :=
  (p.blind_converted _).bind fun t => by
    split
    · exact (blind_say _ _).bind fun _ => (blind_ofExcept _).bind fun _ => blind_pure _
    · exact (blind_ofExcept _).bind fun _ => blind_pure _

theorem blind_commentBody : Blind (p.commentBody c) :=
  (p.blind_converted _).bind fun t => by
    split
    · exact (blind_say _ _).bind fun _ => (blind_ofExcept _).bind fun _ => blind_pure _
    · exact (blind_ofExcept _).bind fun _ => blind_pure _

theorem result_converted (text : String) :
    result (p.converted text) = Projection.convert p.programs p.settings text := by
  refine ((blind_ofExcept _).result_bind fun o => ?_).trans ?_
  · split
    · exact (blind_say _ _).bind fun _ => blind_pure _
    · exact blind_pure _
  · rw [result_ofExcept]
    cases Projection.convert p.programs p.settings text with
    | error f => rfl
    | ok o =>
      obtain ⟨text, fault⟩ := o
      cases fault <;> rfl

/-- A text that is put together from a converted one and the time of an attribution. Only the conversion and the time
can keep it from being rendered. -/
theorem result_rendering (text warning : String) (moment : Option Time.Timestamp) (f : String → String → String) :
    result (do
      let c ← p.converted text
      if c.fault.isSome then Logged.warn warning
      let stamp ← Logged.ofExcept (p.stamp moment)
      return f c.text stamp) =
    (Projection.convert p.programs p.settings text).bind fun o => (p.stamp moment).map (f o.text) := by
  have hstamped (text : String) :
      result (Logged.ofExcept (p.stamp moment) >>= fun stamp => (pure (f text stamp) : Logged String)) =
        (p.stamp moment).map (f text) := by
    rw [(blind_ofExcept _).result_bind fun _ => blind_pure _, result_ofExcept]
    cases p.stamp moment <;> rfl
  refine ((p.blind_converted _).result_bind fun o => ?_).trans ?_
  · split
    · exact (blind_say _ _).bind fun _ => (blind_ofExcept _).bind fun _ => blind_pure _
    · exact (blind_ofExcept _).bind fun _ => blind_pure _
  · rw [result_converted]
    cases Projection.convert p.programs p.settings text with
    | error f => rfl
    | ok o =>
      refine Eq.trans ?_ (hstamped o.text)
      show result _ = result _
      split
      · exact (blind_say _ _).result_bind fun _ => (blind_ofExcept _).bind fun _ => blind_pure _
      · rfl

def described (text stamp : String) : String := text ++ "\n" ++ rule ++ "\n" ++ issueAttribution i stamp

theorem result_description : result (p.description i) =
    (Projection.convert p.programs p.settings (i.body.getD "")).bind fun o =>
      (p.stamp i.createdAt).map (described i o.text) :=
  p.result_rendering (i.body.getD "") ("Description of " ++ i.url ++ " synced without markup conversion")
    i.createdAt (described i)

def mappedUser (login : String) : Option String :=
  if login = "" then none else p.settings.assigneeOf.lookup login

theorem blind_assignee? (login : String) : Blind (p.assignee? login) := by
  unfold assignee?
  split
  · exact blind_pure _
  · split
    · exact blind_pure _
    · exact (blind_say _ _).bind fun _ => blind_pure _

@[simp]
theorem result_assignee? (login : String) : result (p.assignee? login) = .ok (p.mappedUser login) := by
  unfold assignee? mappedUser
  split
  · rfl
  · cases p.settings.assigneeOf.lookup login <;> rfl

theorem blind_withUrl (fs : Fields) : Blind (p.withUrl i repo fs) := by
  unfold withUrl
  split
  · split
    · exact (blind_say _ _).bind fun _ => blind_pure _
    · exact blind_pure _
  · exact blind_pure _

/-- The fields with the address of the source's issue, where it is to be and can be carried. -/
def urlFields (fs : Fields) : Fields :=
  if p.settings.urlProjects.contains repo.project then
    match p.fieldIds.githubUrl.getD "" with
    | "" => fs
    | id => fs.set (customField id) (.str i.url)
  else fs

@[simp]
theorem result_withUrl (fs : Fields) : result (p.withUrl i repo fs) = .ok (p.urlFields i repo fs) := by
  unfold withUrl urlFields
  by_cases hp : p.settings.urlProjects.contains repo.project
  · rw [if_pos hp, if_pos hp]
    generalize p.fieldIds.githubUrl.getD "" = id
    by_cases hid : id = ""
    · subst hid
      rfl
    · simp only
      rfl
  · rw [if_neg hp, if_neg hp]
    rfl

theorem blind_newFields : Blind (p.newFields i repo) :=
  (p.blind_description i).bind fun _ => (p.blind_assignee? _).bind fun _ => p.blind_withUrl i repo _

def newFieldsOf (description : String) : Fields :=
  p.urlFields i repo (withAssignee (p.baseFields i repo description) (p.mappedUser i.assigneeLogin))

theorem result_newFields :
    result (p.newFields i repo) = (result (p.description i)).map (p.newFieldsOf i repo) := by
  refine ((p.blind_description i).result_bind fun d =>
    (p.blind_assignee? _).bind fun _ => p.blind_withUrl i repo _).trans ?_
  cases result (p.description i) with
  | error f => rfl
  | ok d =>
    refine ((p.blind_assignee? _).result_bind fun _ => p.blind_withUrl i repo _).trans ?_
    rw [result_assignee?]
    exact p.result_withUrl i repo _

theorem blind_updatedFields : Blind (p.updatedFields i) :=
  (p.blind_description i).bind fun _ => blind_pure _

theorem result_updatedFields : result (p.updatedFields i) =
    (result (p.description i)).map fun d => [("summary", .str i.title), ("description", .str d)] := by
  refine ((p.blind_description i).result_bind fun _ => blind_pure _).trans ?_
  cases result (p.description i) <;> rfl

end Projector

end IssueBridge
