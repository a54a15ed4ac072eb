import IssueBridge.Proofs.Projection.Result
import IssueBridge.Proofs.Step.Frame

/-! # Steps that are composed of others

What a step can do is decided by the few operations it is composed of. So how a step is composed is
shown once, and whatever its operations have in common holds of the step itself.
-/

namespace IssueBridge.Step

/-- Composed of steps in `P`, of computations and of entries in the log. -/
inductive Composed (P : ∀ α : Type, Step α → Prop) : ∀ {α : Type}, Step α → Prop
  | base {α : Type} {x : Step α} (h : P α x) : Composed P x
  | pure {α : Type} (a : α) : Composed P (Pure.pure a)
  | throw {α : Type} (e : Failure) : Composed P (MonadExcept.throw e : Step α)
  | ofLogged {α : Type} {x : Logged α} (h : x.Blind) : Composed P (ofLogged x)
  | say (level : Level) (text : String) : Composed P (say level text)
  | observe {α : Type} {x : Step α} (h : Composed P x) : Composed P (observe x)
  | bind {α β : Type} {x : Step α} {f : α → Step β} (hx : Composed P x)
      (hf : ∀ a, (∃ w, outcome x w = .ok a) → Composed P (f a)) : Composed P (x >>= f)

namespace Composed

variable {α β : Type} {P Q : ∀ α : Type, Step α → Prop} {x : Step α} {f : α → Step β}

theorem mono (h : Composed P x) (hPQ : ∀ α x, P α x → Q α x) : Composed Q x := by
  induction h with
  | base h => exact .base (hPQ _ _ h)
  | pure a => exact .pure a
  | throw e => exact .throw e
  | ofLogged h => exact .ofLogged h
  | say level text => exact .say level text
  | observe _ ih => exact .observe ih
  | bind _ _ ihx ihf => exact .bind ihx ihf

theorem keeps {F : Frame} (h : Composed P x) (hP : ∀ α x, P α x → Keeps F x) : Keeps F x := by
  induction h with
  | base h => exact hP _ _ h
  | pure a => exact .pure a
  | throw e => exact .throw e
  | ofLogged _ => exact .ofLogged _
  | say level text => exact .say level text
  | observe _ ih => exact .observe ih
  | bind _ _ ihx ihf => exact fun w => rel_bind (ihx w) fun a ha => ihf a ⟨w, ha⟩ _

theorem seq (hx : Composed P x) (hf : ∀ a, Composed P (f a)) : Composed P (x >>= f) :=
  .bind hx fun a _ => hf a

theorem ofExcept : ∀ e : Except Failure α, Composed P (ofExcept e)
  | .ok a => .pure a
  | .error e => .throw e

theorem map (h : Composed P x) (g : α → β) : Composed P (g <$> x) := by
  rw [map_eq_pure_bind]
  exact h.seq fun _ => .pure _

theorem discard (h : Composed P x) : Composed P (Functor.discard x) := h.map _

theorem contain {x : Step Unit} (h : Composed P x) (level : Level) (start : String) :
    Composed P (contain level start x) :=
  .seq (.observe h) fun o => by
    cases o with
    | ok _ => exact .pure _
    | error _ => exact .say _ _

theorem logging (h : Composed P x) (kind : Failure → Bool) (start : String) :
    Composed P (logging kind start x) :=
  .seq (.observe h) fun o => by
    cases o with
    | ok a => exact .pure a
    | error e =>
      dsimp only
      split
      · exact .seq (.pure start) fun _ => .seq (.say _ _) fun _ => .throw e
      · exact .throw e

theorem forM {f : α → Step Unit} : ∀ {l : List α}, (∀ a ∈ l, Composed P (f a)) → Composed P (l.forM f)
  | [], _ => .pure _
  | a :: _, h => .seq (h a List.mem_cons_self) fun _ => forM fun b hb => h b (List.mem_cons_of_mem _ hb)

end Composed

end IssueBridge.Step
