import IssueBridge.World

/-! # What a step comes to

A step has an outcome, a result or a failure, and leaves a world behind in either case. Both are
determined by the parts of a composed step in turn.
-/

namespace IssueBridge

/-- Two worlds that differ at most in what was noted: the calls, the log, the tables, the tally and
the jobs. -/
structure World.Agrees (w w' : World) : Prop where
  store : w'.store = w.store
  source : w'.source = w.source
  faults : w'.faults = w.faults
  clock : w'.clock = w.clock

namespace World.Agrees

variable {w w' w'' : World}

theorem refl (w : World) : w.Agrees w := ⟨rfl, rfl, rfl, rfl⟩

theorem trans (h : w.Agrees w') (h' : w'.Agrees w'') : w.Agrees w'' where
  store := h'.store.trans h.store
  source := h'.source.trans h.source
  faults := h'.faults.trans h.faults
  clock := h'.clock.trans h.clock

end World.Agrees

namespace Step

variable {α β : Type}

def outcome (x : Step α) (w : World) : Except Failure α :=
  match x w with
  | .ok a _ => .ok a
  | .error f _ => .error f

def after (x : Step α) (w : World) : World :=
  match x w with
  | .ok _ w => w
  | .error _ w => w

section Equations

variable (x : Step α) (f : α → Step β) (w : World)

@[simp]
theorem outcome_pure (a : α) : outcome (pure a) w = .ok a := rfl

@[simp]
theorem after_pure (a : α) : after (pure a : Step α) w = w := rfl

@[simp]
theorem outcome_throw (e : Failure) : outcome (throw e : Step α) w = .error e := rfl

@[simp]
theorem after_throw (e : Failure) : after (throw e : Step α) w = w := rfl

@[simp]
theorem outcome_get : outcome get w = .ok w := rfl

@[simp]
theorem after_get : after get w = w := rfl

@[simp]
theorem outcome_modify (g : World → World) : outcome (modify g) w = .ok () := rfl

@[simp]
theorem after_modify (g : World → World) : after (modify g) w = g w := rfl

theorem outcome_bind : outcome (x >>= f) w =
    match outcome x w with
    | .ok a => outcome (f a) (after x w)
    | .error e => .error e := by
  show outcome (EStateM.bind x f) w = _
  unfold outcome after EStateM.bind
  cases x w <;> rfl

theorem after_bind : after (x >>= f) w =
    match outcome x w with
    | .ok a => after (f a) (after x w)
    | .error _ => after x w := by
  show after (EStateM.bind x f) w = _
  unfold outcome after EStateM.bind
  cases x w <;> rfl

theorem after_bind_pure (g : α → β) : after (x >>= fun a => pure (g a)) w = after x w := by
  rw [after_bind]
  cases outcome x w <;> rfl

theorem outcome_map (g : α → β) : outcome (g <$> x) w = (outcome x w).map g := by
  show outcome (EStateM.map g x) w = _
  unfold outcome EStateM.map
  cases x w <;> rfl

@[simp]
theorem after_map (g : α → β) : after (g <$> x) w = after x w := by
  show after (EStateM.map g x) w = _
  unfold after EStateM.map
  cases x w <;> rfl

@[simp]
theorem after_discard : after (discard x) w = after x w := after_map ..

@[simp]
theorem outcome_observe : outcome (observe x) w = .ok (outcome x w) := by
  unfold outcome observe
  cases x w <;> rfl

@[simp]
theorem after_observe : after (observe x) w = after x w := by
  unfold after observe
  cases x w <;> rfl

@[simp]
theorem outcome_ofExcept (e : Except Failure α) : outcome (ofExcept e) w = e := by
  cases e <;> rfl

@[simp]
theorem after_ofExcept (e : Except Failure α) : after (ofExcept e) w = w := by
  cases e <;> rfl

theorem outcome_place (c : Call) : outcome (place c) w =
    match w.faults w.history c with
    | .served => .ok true
    | .empty => .ok false
    | .failed f => .error f := by
  unfold place
  rw [outcome_bind]
  show outcome _ _ = _
  cases h : w.faults w.history c <;> rfl

@[simp]
theorem after_place (c : Call) : after (place c) w = { w with history := c :: w.history } := by
  unfold place
  rw [after_bind]
  show after _ _ = _
  cases h : w.faults w.history c <;> rfl

@[simp]
theorem outcome_say (level : Level) (text : String) : outcome (say level text) w = .ok () := rfl

@[simp]
theorem outcome_modifyStore (g : Tracker.Store → Tracker.Store) :
    outcome (modifyStore g) w = .ok () := rfl

@[simp]
theorem after_modifyStore (g : Tracker.Store → Tracker.Store) :
    after (modifyStore g) w = { w with store := g w.store } := rfl

@[simp]
theorem outcome_onStore (g : Tracker.Store → α × Tracker.Store) :
    outcome (onStore g) w = .ok (g w.store).1 := rfl

@[simp]
theorem after_onStore (g : Tracker.Store → α × Tracker.Store) :
    after (onStore g) w = { w with store := (g w.store).2 } := rfl

@[simp]
theorem outcome_logging (kind : Failure → Bool) (start : String) :
    outcome (logging kind start x) w = outcome x w := by
  unfold logging loggingFrom
  rw [outcome_bind, outcome_observe]
  cases outcome x w with
  | ok a => rfl
  | error e =>
    dsimp only
    cases kind e <;> rfl

@[simp]
theorem outcome_contain (level : Level) (start : String) (x : Step Unit) :
    outcome (contain level start x) w = .ok () := by
  unfold contain
  rw [outcome_bind, outcome_observe]
  cases outcome x w <;> rfl

end Equations

variable {x : Step α} {f : α → Step β} {w : World}

theorem outcome_bind_ok {a : α} (h : outcome x w = .ok a) :
    outcome (x >>= f) w = outcome (f a) (after x w) := by
  rw [outcome_bind, h]

theorem after_bind_ok {a : α} (h : outcome x w = .ok a) :
    after (x >>= f) w = after (f a) (after x w) := by
  rw [after_bind, h]

theorem outcome_bind_error {e : Failure} (h : outcome x w = .error e) :
    outcome (x >>= f) w = .error e := by
  rw [outcome_bind, h]

theorem after_bind_error {e : Failure} (h : outcome x w = .error e) :
    after (x >>= f) w = after x w := by
  rw [after_bind, h]

theorem bind_eq_ok {b : β} (h : outcome (x >>= f) w = .ok b) :
    ∃ a, outcome x w = .ok a ∧ outcome (f a) (after x w) = .ok b := by
  cases hx : outcome x w with
  | error e => rw [outcome_bind_error hx] at h; cases h
  | ok a => exact ⟨a, rfl, outcome_bind_ok hx ▸ h⟩

theorem outcome_forM {f : α → Step Unit} : ∀ {l : List α},
    (∀ a ∈ l, ∀ w, outcome (f a) w = .ok ()) → ∀ w, outcome (l.forM f) w = .ok ()
  | [], _, _ => rfl
  | a :: _, h, w =>
    (outcome_bind_ok (h a List.mem_cons_self w)).trans
      (outcome_forM (fun b hb => h b (List.mem_cons_of_mem _ hb)) _)

theorem eq_ok_of_toOption {a : α} : ∀ {o : Except Failure α}, o.toOption = some a → o = .ok a
  | .ok _, h => congrArg Except.ok (Option.some.inj h)

end Step

end IssueBridge
