import IssueBridge.Proofs.Step.Outcome

/-! # What a step may change

A frame says what may differ between the world before a step and the world after it, whether the step
fails or not. Steps that keep a frame can be composed, so a frame holds wherever a run is cut off.
-/

namespace IssueBridge

/-- A relation between worlds that steps may be composed in and that overlooks what was noted. -/
structure Frame where
  rel : World → World → Prop
  trans : ∀ {u v w : World}, rel u v → rel v w → rel u w
  noted : ∀ {v w : World}, v.Agrees w → rel v w

namespace Frame

def agreement : Frame := ⟨World.Agrees, .trans, id⟩

/-- The source, the clock and the answers to calls are not changed. -/
def surroundings : Frame where
  rel v w := w.source = v.source ∧ w.faults = v.faults ∧ w.clock = v.clock
  trans h h' := ⟨h'.1.trans h.1, h'.2.1.trans h.2.1, h'.2.2.trans h.2.2⟩
  noted h := ⟨h.source, h.faults, h.clock⟩

/-- A frame for the worlds with a property that is preserved in it. -/
def under (F : Frame) (P : World → Prop) (hP : ∀ {v w : World}, v.Agrees w → P v → P w) : Frame where
  rel v w := P v → P w ∧ F.rel v w
  trans h h' hv := ⟨(h' (h hv).1).1, F.trans (h hv).2 (h' (h hv).1).2⟩
  noted h hv := ⟨hP h hv, F.noted h⟩

def within (F : Frame) (src : Source) : Frame :=
  F.under (fun w => w.source = src) fun h hv => h.source.trans hv

theorem refl (F : Frame) (w : World) : F.rel w w := F.noted (.refl w)

end Frame

namespace Step

variable {α β : Type} {F : Frame} {x : Step α} {f : α → Step β} {w : World}

/-- The step stays inside a frame, wherever it starts and however it ends. -/
def Keeps (F : Frame) (x : Step α) : Prop := ∀ w, F.rel w (after x w)

abbrev Silent (x : Step α) : Prop := Keeps .agreement x

/-- The step changes the store by `g` or not at all. -/
def Applies (g : Tracker.Store → Tracker.Store) (x : Step α) : Prop :=
  ∀ w, w.Agrees (after x w) ∨ World.Agrees { w with store := g w.store } (after x w)

theorem Silent.keeps (h : Silent x) : Keeps F x := fun w => F.noted (h w)

theorem Applies.keeps {g : Tracker.Store → Tracker.Store} (h : Applies g x)
    (hg : ∀ w, F.rel w { w with store := g w.store }) : Keeps F x := by
  intro w
  rcases h w with h | h
  · exact F.noted h
  · exact F.trans (hg w) (F.noted h)

theorem rel_bind (hx : F.rel w (after x w))
    (hf : ∀ a, outcome x w = .ok a → F.rel (after x w) (after (f a) (after x w))) :
    F.rel w (after (x >>= f) w) := by
  cases h : outcome x w with
  | ok a =>
    rw [after_bind_ok h]
    exact F.trans hx (hf a h)
  | error e =>
    rw [after_bind_error h]
    exact hx

/-- Either the second part is run or the composed step ends with the first part. -/
theorem bind_cases (hx : Keeps F x) (f : α → Step β) (w : World) :
    (∃ a, outcome x w = .ok a ∧ F.rel w (after x w) ∧
      after (x >>= f) w = after (f a) (after x w)) ∨ F.rel w (after (x >>= f) w) := by
  cases h : outcome x w with
  | ok a => exact .inl ⟨a, rfl, hx w, after_bind_ok h⟩
  | error e =>
    rw [after_bind_error h]
    exact .inr (hx w)

/-- What follows a step stays inside the frame, as seen from where the step ended. -/
theorem rel_after (x : Step α) (hf : ∀ a, Keeps F (f a)) (w : World) :
    F.rel (after x w) (after (x >>= f) w) := by
  cases h : outcome x w with
  | ok a =>
    rw [after_bind_ok h]
    exact hf a _
  | error e =>
    rw [after_bind_error h]
    exact F.refl _

namespace Keeps

theorem pure (a : α) : Keeps F (Pure.pure a : Step α) := F.refl

theorem throw (e : Failure) : Keeps F (MonadExcept.throw e : Step α) := F.refl

theorem get : Keeps F (MonadState.get : Step World) := F.refl

theorem bind (hx : Keeps F x) (hf : ∀ a, Keeps F (f a)) : Keeps F (x >>= f) := fun w =>
  rel_bind (hx w) fun a _ => hf a _

theorem map (hx : Keeps F x) (g : α → β) : Keeps F (g <$> x) := fun w => by
  rw [after_map]
  exact hx w

theorem discard (hx : Keeps F x) : Keeps F (discard x) := hx.map _

theorem observe (hx : Keeps F x) : Keeps F (observe x) := fun w => by
  rw [after_observe]
  exact hx w

theorem ofExcept (e : Except Failure α) : Keeps F (ofExcept e) := fun w => by
  rw [after_ofExcept]
  exact F.refl w

theorem ofLogged (x : Logged α) : Keeps F (ofLogged x) := fun w => by
  refine F.noted ?_
  unfold Step.ofLogged after
  dsimp only
  cases x w.log <;> exact ⟨rfl, rfl, rfl, rfl⟩

theorem say (level : Level) (text : String) : Keeps F (say level text) := fun _ =>
  F.noted ⟨rfl, rfl, rfl, rfl⟩

theorem place (c : Call) : Keeps F (place c) := fun w => by
  rw [after_place]
  exact F.noted ⟨rfl, rfl, rfl, rfl⟩

theorem contain {x : Step Unit} (hx : Keeps F x) (level : Level) (start : String) :
    Keeps F (contain level start x) :=
  hx.observe.bind fun o => by
    cases o with
    | ok _ => exact .pure _
    | error _ => exact .say _ _

theorem report {start : Step String} (hs : Keeps F start) (kind : Failure → Bool) :
    ∀ o : Except Failure α, Keeps F (match o with
      | .ok a => Pure.pure a
      | .error e => do
        if kind e then error ((← start) ++ e.message)
        MonadExcept.throw e : Step α)
  | .ok a => .pure a
  | .error e => by
    dsimp only
    split
    · exact hs.bind fun _ => (say _ _).bind fun _ => .throw e
    · exact .throw e

theorem loggingFrom {start : Step String} (hx : Keeps F x) (hs : Keeps F start)
    (kind : Failure → Bool) : Keeps F (loggingFrom kind start x) :=
  hx.observe.bind fun o => report hs kind o

theorem logging (hx : Keeps F x) (kind : Failure → Bool) (start : String) :
    Keeps F (logging kind start x) :=
  hx.loggingFrom (.pure start) kind

theorem agrees_logging (x : Step α) (kind : Failure → Bool) (start : String) (w : World) :
    (after x w).Agrees (after (Step.logging kind start x) w) := by
  unfold Step.logging Step.loggingFrom
  rw [after_bind_ok (outcome_observe x w), after_observe]
  exact report (F := .agreement) (.pure start) kind (outcome x w) (after x w)

theorem forM {α : Type} {f : α → Step Unit} : ∀ {l : List α}, (∀ a ∈ l, Keeps F (f a)) →
    Keeps F (l.forM f)
  | [], _ => .pure _
  | a :: _, h => (h a List.mem_cons_self).bind fun _ =>
      forM fun b hb => h b (List.mem_cons_of_mem _ hb)

theorem modifyTally (g : Tally → Tally) : Keeps F (modifyTally g) := fun _ =>
  F.noted ⟨rfl, rfl, rfl, rfl⟩

end Keeps

namespace Applies

variable {g : Tracker.Store → Tracker.Store}

theorem modifyStore (g : Tracker.Store → Tracker.Store) : Applies g (modifyStore g) := fun w =>
  .inr (.refl { w with store := g w.store })

theorem onStore (h : Tracker.Store → α × Tracker.Store) : Applies (fun s => (h s).2) (onStore h) :=
  fun w => .inr (.refl { w with store := (h w.store).2 })

theorem bind_silent (hx : Applies g x) (hf : ∀ a, Silent (f a)) : Applies g (x >>= f) := by
  intro w
  cases h : outcome x w with
  | error e =>
    rw [after_bind_error h]
    exact hx w
  | ok a =>
    rw [after_bind_ok h]
    exact (hx w).imp (·.trans (hf a _)) (·.trans (hf a _))

theorem silent_bind (hx : Silent x) (hf : ∀ a, Applies g (f a)) : Applies g (x >>= f) := by
  intro w
  have hw : w.Agrees (after x w) := hx w
  cases h : outcome x w with
  | error e =>
    rw [after_bind_error h]
    exact .inl hw
  | ok a =>
    rw [after_bind_ok h]
    rcases hf a (after x w) with hs | hs
    · exact .inl (hw.trans hs)
    · refine .inr (World.Agrees.trans ?_ hs)
      exact ⟨congrArg g hw.store, hw.source, hw.faults, hw.clock⟩

theorem observe (hx : Applies g x) : Applies g (observe x) := fun w => by
  rw [after_observe]
  exact hx w

theorem loggingFrom {start : Step String} (hx : Applies g x) (hs : Silent start)
    (kind : Failure → Bool) : Applies g (loggingFrom kind start x) :=
  hx.observe.bind_silent fun o => .report hs kind o

theorem logging (hx : Applies g x) (kind : Failure → Bool) (start : String) :
    Applies g (logging kind start x) :=
  hx.loggingFrom (.pure start) kind

end Applies

end Step

end IssueBridge
