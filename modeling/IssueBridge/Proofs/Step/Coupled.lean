import IssueBridge.Proofs.Step.Composed
import Mathlib.Data.List.Forall2

/-! # Two runs side by side

Two runs go side by side while related worlds lead to related worlds and the results correspond. Steps that do
so can be composed, so two runs that start alike end alike in whatever the relation holds on to.
-/

namespace IssueBridge

open Step

/-- A relation between the worlds of two runs that overlooks what was noted in each. -/
structure Bond where
  rel : World → World → Prop
  noted : ∀ {v v' w w' : World}, v.Agrees v' → w.Agrees w' → rel v w → rel v' w'

namespace Step

/-- Both outcomes are results that correspond, or both are the same failure. -/
def Paired {α β : Type} (S : α → β → Prop) : Except Failure α → Except Failure β → Prop
  | .ok a, .ok b => S a b
  | .error f, .error g => f = g
  | _, _ => False

/-- From related worlds, the two steps lead to related worlds, and their outcomes are paired. -/
def Coupled {α β : Type} (B : Bond) (S : α → β → Prop) (x : Step α) (y : Step β) : Prop :=
  ∀ v w, B.rel v w → Paired S (outcome x v) (outcome y w) ∧ B.rel (after x v) (after y w)

def Abreast {α β : Type} (B : Bond) (x : Step α) (y : Step β) : Prop :=
  ∀ v w, B.rel v w → B.rel (after x v) (after y w)

section

variable {α β γ δ : Type} {B : Bond} {S S' : α → β → Prop} {T : γ → δ → Prop} {x : Step α} {y : Step β}
  {f : α → Step γ} {g : β → Step δ}

namespace Paired

theorem mono (hS : ∀ a b, S a b → S' a b) : ∀ {o : Except Failure α} {p : Except Failure β},
    Paired S o p → Paired S' o p
  | .ok a, .ok b, h => hS a b h
  | .error _, .error _, h => h
  | .ok _, .error _, h => h.elim
  | .error _, .ok _, h => h.elim

theorem of_eq {o p : Except Failure α} (h : o = p) : Paired Eq o p := by
  subst h
  cases o <;> rfl

theorem eq : ∀ {o p : Except Failure α}, Paired Eq o p → o = p
  | .ok _, .ok _, h => congrArg Except.ok h
  | .error _, .error _, h => congrArg Except.error h
  | .ok _, .error _, h => h.elim
  | .error _, .ok _, h => h.elim

end Paired

namespace Coupled

theorem mono (h : Coupled B S x y) (hS : ∀ a b, S a b → S' a b) : Coupled B S' x y := fun v w hvw =>
  ⟨(h v w hvw).1.mono hS, (h v w hvw).2⟩

theorem of_rel (h : ∀ v w, B.rel v w → Coupled B S x y) : Coupled B S x y := fun v w hvw => h v w hvw v w hvw

theorem bind_of_outcome (hx : Coupled B S x y)
    (hf : ∀ a b, S a b → (∃ v, outcome x v = .ok a) → Coupled B T (f a) (g b)) :
    Coupled B T (x >>= f) (y >>= g) := by
  intro v w hvw
  obtain ⟨ho, hr⟩ := hx v w hvw
  match hv : outcome x v, hw : outcome y w, ho with
  | .ok a, .ok b, ho =>
    rw [outcome_bind_ok hv, outcome_bind_ok hw, after_bind_ok hv, after_bind_ok hw]
    exact hf a b ho ⟨v, hv⟩ _ _ hr
  | .error e, .error _, rfl =>
    rw [outcome_bind_error hv, outcome_bind_error hw, after_bind_error hv, after_bind_error hw]
    exact ⟨rfl, hr⟩

theorem bind (hx : Coupled B S x y) (hf : ∀ a b, S a b → Coupled B T (f a) (g b)) :
    Coupled B T (x >>= f) (y >>= g) :=
  hx.bind_of_outcome fun a b h _ => hf a b h

theorem seq {x x' : Step α} {f : α → Step γ} {g : α → Step δ} (hx : Coupled B Eq x x')
    (hf : ∀ a, Coupled B T (f a) (g a)) : Coupled B T (x >>= f) (x' >>= g) :=
  hx.bind fun a _ h => h ▸ hf a

theorem of_silent (hx : Silent x) (hy : Silent y)
    (h : ∀ v w, B.rel v w → Paired S (outcome x v) (outcome y w)) : Coupled B S x y := fun v w hvw =>
  ⟨h v w hvw, B.noted (hx v) (hy w) hvw⟩

theorem pure {a : α} {b : β} (h : S a b) : Coupled B S (Pure.pure a : Step α) (Pure.pure b : Step β) :=
  .of_silent (.pure a) (.pure b) fun _ _ _ => h

theorem throw (e : Failure) : Coupled B S (MonadExcept.throw e : Step α) (MonadExcept.throw e : Step β) :=
  .of_silent (.throw e) (.throw e) fun _ _ _ => rfl

theorem get : Coupled B B.rel (MonadState.get : Step World) MonadState.get :=
  .of_silent .get .get fun _ _ h => h

theorem say (level level' : Level) (text text' : String) :
    Coupled B Eq (Step.say level text) (Step.say level' text') :=
  .of_silent (.say level text) (.say level' text') fun _ _ _ => rfl

theorem ofExcept {o : Except Failure α} {p : Except Failure β} (h : Paired S o p) :
    Coupled B S (Step.ofExcept o) (Step.ofExcept p) :=
  .of_silent (.ofExcept o) (.ofExcept p) fun v w _ => by
    rw [outcome_ofExcept, outcome_ofExcept]
    exact h

theorem ofLogged {x : Logged α} (h : x.Blind) : Coupled B Eq (Step.ofLogged x) (Step.ofLogged x) :=
  .of_silent (.ofLogged x) (.ofLogged x) fun v w _ => by
    rw [outcome_ofLogged h, outcome_ofLogged h]
    exact .of_eq rfl

theorem observe (hx : Coupled B S x y) : Coupled B (Paired S) (Step.observe x) (Step.observe y) :=
  fun v w hvw => by
    rw [outcome_observe, outcome_observe, after_observe, after_observe]
    exact hx v w hvw

theorem loggingFrom {start start' : Step String} (hx : Coupled B S x y) (hs : Coupled B Eq start start')
    (kind : Failure → Bool) : Coupled B S (Step.loggingFrom kind start x) (Step.loggingFrom kind start' y) :=
  hx.observe.bind fun o p h => by
    match o, p, h with
    | .ok a, .ok b, h => exact .pure h
    | .error e, .error _, rfl =>
      dsimp only
      split
      · exact hs.seq fun _ => (say _ _ _ _).seq fun _ => .throw e
      · exact .throw e

theorem logging (hx : Coupled B S x y) (kind : Failure → Bool) (start start' : String) :
    Coupled B S (Step.logging kind start x) (Step.logging kind start' y) := by
  -- The failure goes on whatever the entry for it says.
  refine hx.observe.bind fun o p h => ?_
  match o, p, h with
  | .ok a, .ok b, h => exact .pure h
  | .error e, .error _, rfl =>
    dsimp only
    split
    · exact (say _ _ _ _).seq fun _ => .throw e
    · exact .throw e

theorem map (hx : Coupled B S x y) {f : α → γ} {g : β → δ} (h : ∀ a b, S a b → T (f a) (g b)) :
    Coupled B T (f <$> x) (g <$> y) := by
  rw [map_eq_pure_bind, map_eq_pure_bind]
  exact hx.bind fun a b hab => .pure (h a b hab)

theorem discard (hx : Coupled B S x y) : Coupled B Eq (Functor.discard x) (Functor.discard y) :=
  hx.map fun _ _ _ => rfl

theorem modifyTally (f g : Tally → Tally) : Coupled B Eq (Step.modifyTally f) (Step.modifyTally g) :=
  .of_silent (.modifyTally f) (.modifyTally g) fun _ _ _ => rfl

theorem abreast (h : Coupled B S x y) : Abreast B x y := fun v w hvw => (h v w hvw).2

theorem bind_abreast (hx : Coupled B S x y) (hf : ∀ a b, S a b → Abreast B (f a) (g b)) :
    Abreast B (x >>= f) (y >>= g) := by
  intro v w hvw
  obtain ⟨ho, hr⟩ := hx v w hvw
  match hv : outcome x v, hw : outcome y w, ho with
  | .ok a, .ok b, ho =>
    rw [after_bind_ok hv, after_bind_ok hw]
    exact hf a b ho _ _ hr
  | .error e, .error _, rfl =>
    rw [after_bind_error hv, after_bind_error hw]
    exact hr

theorem modifyStore {f g : Tracker.Store → Tracker.Store}
    (h : ∀ v w, B.rel v w → B.rel { v with store := f v.store } { w with store := g w.store }) :
    Coupled B Eq (Step.modifyStore f) (Step.modifyStore g) := fun v w hvw => ⟨rfl, h v w hvw⟩

theorem onStore {f : Tracker.Store → α × Tracker.Store} {g : Tracker.Store → β × Tracker.Store}
    (h : ∀ v w, B.rel v w → S (f v.store).1 (g w.store).1 ∧
      B.rel { v with store := (f v.store).2 } { w with store := (g w.store).2 }) :
    Coupled B S (Step.onStore f) (Step.onStore g) := fun v w hvw => h v w hvw

theorem forM {ι κ : Type} {f : ι → Step Unit} {g : κ → Step Unit} {l : List ι} {l' : List κ}
    (h : List.Forall₂ (fun i k => Coupled B Eq (f i) (g k)) l l') : Coupled B Eq (l.forM f) (l'.forM g) := by
  induction h with
  | nil => exact .pure rfl
  | cons h _ ih => exact h.seq fun _ => ih

theorem forM_self {ι : Type} {f g : ι → Step Unit} {l : List ι} (h : ∀ i ∈ l, Coupled B Eq (f i) (g i)) :
    Coupled B Eq (l.forM f) (l.forM g) :=
  forM (List.forall₂_same.mpr h)

/-- A step that is composed of steps that go side by side with themselves does so itself. -/
theorem of_composed {P : ∀ α : Type, Step α → Prop} {x : Step α} (h : Composed P x)
    (hP : ∀ α x, P α x → Coupled B Eq x x) : Coupled B Eq x x := by
  induction h with
  | base h => exact hP _ _ h
  | pure a => exact .pure rfl
  | throw e => exact .throw e
  | ofLogged h => exact .ofLogged h
  | say level text => exact say _ _ _ _
  | observe _ ih => exact ih.observe.mono fun _ _ h => h.eq
  | bind _ _ ihx ihf => exact ihx.bind_of_outcome fun a _ hab ha => hab ▸ ihf a ha

end Coupled

namespace Abreast

theorem of_silent (hx : Silent x) (hy : Silent y) : Abreast B x y := fun v w hvw => B.noted (hx v) (hy w) hvw

theorem observe (h : Abreast B x y) : Coupled B (fun _ _ => True) (Step.observe x) (Step.observe y) :=
  fun v w hvw => by
    rw [outcome_observe, outcome_observe, after_observe, after_observe]
    exact ⟨trivial, h v w hvw⟩

theorem contain {x y : Step Unit} (h : Abreast B x y) (level : Level) (start start' : String) :
    Coupled B Eq (Step.contain level start x) (Step.contain level start' y) := by
  refine h.observe.bind fun o p _ => ?_
  -- Whether a failure is logged or not, nothing else happens.
  cases o <;> cases p
  case ok.ok => exact .pure rfl
  case error.error => exact .say _ _ _ _
  case ok.error => exact .of_silent (.pure _) (.say _ _) fun _ _ _ => rfl
  case error.ok => exact .of_silent (.say _ _) (.pure _) fun _ _ _ => rfl

end Abreast

end

end Step

end IssueBridge
