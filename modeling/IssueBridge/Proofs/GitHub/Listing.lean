import IssueBridge.GitHub.Client
import IssueBridge.Proofs.Step.Frame

/-! # What the source lists

A listing that succeeds yields the readable records of the source, whatever the start of its window.
-/

namespace IssueBridge

open Step

namespace Source

/-- The issues that a repository lists, without the pull requests; none if a record is invalid. -/
def listing (src : Source) (owner name : String) : List GitHub.Issue :=
  match GitHub.readAll GitHub.Issue.listed ((src.issues.lookup (GitHub.fullName owner name)).getD []) with
  | .ok all => all.filter fun i => !i.isPullRequest
  | .error _ => []

def readRemarks (src : Source) (owner name : String) (number : Int) :
    Except Failure (List GitHub.Comment) :=
  GitHub.readAll GitHub.Comment.listed
    ((src.comments.lookup (GitHub.fullName owner name ++ "#" ++ toString number)).getD [])

/-- The comments that an issue lists; none if a record is invalid. -/
def remarks (src : Source) (owner name : String) (number : Int) : List GitHub.Comment :=
  match GitHub.readAll GitHub.Comment.listed
      ((src.comments.lookup (GitHub.fullName owner name ++ "#" ++ toString number)).getD []) with
  | .ok all => all
  | .error _ => []

theorem remarks_eq (src : Source) (owner name : String) (number : Int) :
    src.remarks owner name number = (src.readRemarks owner name number).toOption.getD [] := by
  unfold remarks readRemarks
  split <;> rename_i h <;> rw [h] <;> rfl

end Source

/-- No attempt to list the issues of the repository is refused. -/
def Faults.Lists (faults : Faults) (repository : String) : Prop :=
  ∀ history f, faults history (.repository repository false) ≠ .failed f ∧
    ∀ since, faults history (.listIssues repository since) ≠ .failed f

namespace GitHub

theorem silent_issues (owner name : String) (since : Option Time.Timestamp) :
    Silent (issues owner name since) :=
  .logging ((Keeps.place _).bind fun _ => (Keeps.place _).bind fun _ => Keeps.get.bind fun _ =>
    (Keeps.ofExcept _).bind fun _ => .pure _) _ _

theorem issues_eq_ok {owner name : String} {since : Option Time.Timestamp} {w : World}
    {l : List Issue} (h : outcome (issues owner name since) w = .ok l) :
    l = w.source.listing owner name := by
  unfold issues at h
  rw [outcome_logging] at h
  obtain ⟨_, -, h⟩ := bind_eq_ok h
  obtain ⟨_, -, h⟩ := bind_eq_ok h
  obtain ⟨_, hv, h⟩ := bind_eq_ok h
  cases hv
  obtain ⟨all, hall, h⟩ := bind_eq_ok h
  simp only [after_place, after_get, outcome_ofExcept] at hall
  unfold Source.listing
  rw [hall]
  exact (Except.ok.inj h).symm

/-- A listing that is not refused fails only if a record is invalid. -/
theorem issues_of_lists {owner name : String} {w : World} (h : w.faults.Lists (fullName owner name))
    (since : Option Time.Timestamp) :
    (∃ l, outcome (issues owner name since) w = .ok l) ∨ w.source.listing owner name = [] := by
  have hplace : ∀ (c : Call) (v : World), (∀ f, v.faults v.history c ≠ .failed f) → ∃ served,
      outcome (place c) v = .ok served := by
    intro c v hc
    rw [outcome_place]
    split
    · exact ⟨_, rfl⟩
    · exact ⟨_, rfl⟩
    · rename_i f hf
      exact absurd hf (hc f)
  unfold issues
  rw [outcome_logging]
  obtain ⟨_, hrepository⟩ := hplace (.repository (fullName owner name) false) w fun f => (h _ f).1
  rw [outcome_bind_ok hrepository, after_place]
  obtain ⟨_, hlist⟩ := hplace (.listIssues (fullName owner name) (windowStart since))
    { w with history := .repository (fullName owner name) false :: w.history } fun f => (h _ f).2 _
  rw [outcome_bind_ok hlist, after_place, outcome_bind_ok (outcome_get _), after_get]
  unfold Source.listing
  dsimp only
  cases readAll Issue.listed ((w.source.issues.lookup (fullName owner name)).getD []) with
  | ok all => exact .inl ⟨_, rfl⟩
  | error f => exact .inr rfl

theorem silent_comments (owner name : String) (number : Int) (since : Option Time.Timestamp) :
    Silent (comments owner name number since) :=
  .logging ((Keeps.place _).bind fun _ => (Keeps.place _).bind fun _ => (Keeps.place _).bind fun _ =>
    Keeps.get.bind fun _ => .ofExcept _) _ _

end GitHub

end IssueBridge
