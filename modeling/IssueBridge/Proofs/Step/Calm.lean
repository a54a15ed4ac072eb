import IssueBridge.Proofs.Projection.Result
import IssueBridge.Proofs.Tracker.Operation

/-! # Runs in which no call fails

While every call is served, what a step comes to depends only on the source and the store. A scene
consists of these two and of the calls that made or deleted something.
-/

namespace IssueBridge

open Step Tracker

def Call.isMaking : Call → Bool
  | .create _ => true
  | .addComment .. => true
  | .deleteComment _ => true
  | _ => false

structure Scene where
  source : Source
  store : Store
  /-- The calls so far that made or deleted something, the latest first. -/
  made : List Call

def World.Calm (w : World) : Prop :=
  ∀ history c, w.history <:+ history → w.faults history c = .served

def World.scene (w : World) : Scene := ⟨w.source, w.store, w.history.filter Call.isMaking⟩

/-- No call fails from now on, and the world presents the scene. -/
structure World.Shows (w : World) (v : Scene) : Prop where
  calm : w.Calm
  scene : w.scene = v

namespace World.Shows

variable {w : World} {v : Scene}

theorem store (h : w.Shows v) : w.store = v.store := congrArg Scene.store h.scene

theorem source (h : w.Shows v) : w.source = v.source := congrArg Scene.source h.scene

end World.Shows

namespace Scene

def call (v : Scene) (c : Call) : Scene :=
  { v with made := if c.isMaking then c :: v.made else v.made }

theorem call_of_not_making (v : Scene) {c : Call} (h : c.isMaking = false) : v.call c = v := by
  simp [call, h]

def mapStore (v : Scene) (f : Store → Store) : Scene := { v with store := f v.store }

theorem mapStore_congr {v : Scene} {f g : Store → Store} (h : f v.store = g v.store) :
    v.mapStore f = v.mapStore g := by
  unfold mapStore
  rw [h]

end Scene

/-- In a scene and without failing calls, the step has the outcome `o` and leads to another scene. -/
def Does {α : Type} (v : Scene) (x : Step α) (o : Except Failure α) (v' : Scene) : Prop :=
  ∀ w : World, w.Shows v → outcome x w = o ∧ (after x w).Shows v'

/-- In a scene and without failing calls, the step leads to another scene, whether it fails or not. -/
def Leaves {α : Type} (v : Scene) (x : Step α) (v' : Scene) : Prop :=
  ∀ w : World, w.Shows v → (after x w).Shows v'

namespace Does

variable {α β : Type} {v v' v'' : Scene} {x : Step α} {f : α → Step β} {a : α} {o : Except Failure β}
  {e : Failure}

theorem leaves {o : Except Failure α} (h : Does v x o v') : Leaves v x v' := fun w hw => (h w hw).2

theorem pure (a : α) : Does v (Pure.pure a : Step α) (.ok a) v := fun _ hw => ⟨rfl, hw⟩

theorem throw (e : Failure) : Does v (MonadExcept.throw e : Step α) (.error e) v := fun _ hw => ⟨rfl, hw⟩

theorem bind (hx : Does v x (.ok a) v') (hf : Does v' (f a) o v'') : Does v (x >>= f) o v'' := by
  intro w hw
  obtain ⟨ho, hv⟩ := hx w hw
  rw [outcome_bind_ok ho, after_bind_ok ho]
  exact hf _ hv

theorem bind_error (hx : Does v x (.error e) v') : Does v (x >>= f) (.error e) v' := by
  intro w hw
  obtain ⟨ho, hv⟩ := hx w hw
  rw [outcome_bind_error ho, after_bind_error ho]
  exact ⟨rfl, hv⟩

theorem get_bind {f : World → Step β} (h : ∀ w : World, w.Shows v → Does v (f w) o v') :
    Does v (get >>= f) o v' := by
  intro w hw
  rw [outcome_bind_ok (outcome_get w), after_bind_ok (outcome_get w), after_get]
  exact h w hw w hw

theorem map (h : Does v x (.ok a) v') (g : α → β) : Does v (g <$> x) (.ok (g a)) v' := by
  intro w hw
  rw [outcome_map, after_map, (h w hw).1]
  exact ⟨rfl, (h w hw).2⟩

theorem discard (h : Does v x (.ok a) v') : Does v (discard x) (.ok ()) v' := h.map _

theorem observe {o : Except Failure α} (h : Does v x o v') : Does v (observe x) (.ok o) v' := by
  intro w hw
  rw [outcome_observe, after_observe, (h w hw).1]
  exact ⟨rfl, (h w hw).2⟩

theorem ofExcept (o : Except Failure α) : Does v (Step.ofExcept o) o v := by
  intro w hw
  rw [outcome_ofExcept, after_ofExcept]
  exact ⟨rfl, hw⟩

theorem say (level : Level) (text : String) : Does v (say level text) (.ok ()) v := fun _ hw =>
  ⟨rfl, hw.calm, hw.scene⟩

theorem modifyTally (g : Tally → Tally) : Does v (modifyTally g) (.ok ()) v := fun _ hw =>
  ⟨rfl, hw.calm, hw.scene⟩

theorem ofLogged {x : Logged α} (h : x.Blind) : Does v (ofLogged x) x.result v := by
  intro w hw
  refine ⟨outcome_ofLogged h w, ?_⟩
  unfold Step.ofLogged after
  dsimp only
  cases x w.log <;> exact ⟨hw.calm, hw.scene⟩

theorem modifyStore (g : Store → Store) : Does v (modifyStore g) (.ok ()) (v.mapStore g) := by
  rintro w ⟨hc, rfl⟩
  exact ⟨rfl, hc, rfl⟩

theorem onStore (g : Store → α × Store) :
    Does v (onStore g) (.ok (g v.store).1) (v.mapStore fun s => (g s).2) := by
  rintro w ⟨hc, rfl⟩
  exact ⟨rfl, hc, rfl⟩

theorem place (c : Call) : Does v (place c) (.ok true) (v.call c) := by
  rintro w ⟨hc, rfl⟩
  rw [outcome_place, after_place, hc _ c (List.suffix_refl _)]
  refine ⟨rfl, fun history d hd => hc history d ((List.suffix_cons c _).trans hd), ?_⟩
  unfold World.scene Scene.call
  rw [List.filter_cons]

theorem logging {o : Except Failure α} (h : Does v x o v') (kind : Failure → Bool) (start : String) :
    Does v (logging kind start x) o v' := by
  intro w hw
  obtain ⟨ho, hv⟩ := h w hw
  refine ⟨(outcome_logging x w kind start).trans ho, ?_⟩
  unfold Step.logging Step.loggingFrom
  rw [after_bind_ok (outcome_observe x w), after_observe, ho]
  cases o with
  | ok a => exact hv
  | error e =>
    dsimp only
    cases kind e with
    | false => exact hv
    | true => exact ⟨hv.calm, hv.scene⟩

theorem loggingFrom {x : Step α} (h : Does v x (.ok a) v') (kind : Failure → Bool)
    (start : Step String) : Does v (loggingFrom kind start x) (.ok a) v' := by
  unfold Step.loggingFrom
  exact h.observe.bind (.pure a)

end Does

namespace Leaves

variable {α β : Type} {v v' v'' : Scene} {x : Step α} {f : α → Step β} {a : α}

theorem bind (hx : Does v x (.ok a) v') (hf : Leaves v' (f a) v'') : Leaves v (x >>= f) v'' := by
  intro w hw
  obtain ⟨ho, hv⟩ := hx w hw
  rw [after_bind_ok ho]
  exact hf _ hv

theorem contain {x : Step Unit} (h : Leaves v x v') (level : Level) (start : String) :
    Does v (contain level start x) (.ok ()) v' := by
  intro w hw
  refine ⟨outcome_contain w level start x, ?_⟩
  have hv := h w hw
  unfold Step.contain
  rw [after_bind_ok (outcome_observe ..), after_observe]
  cases outcome x w with
  | ok u => exact hv
  | error e => exact ⟨hv.calm, hv.scene⟩

/-- What follows a step that is observed does not fail because the step did. -/
theorem observe_bind {f : Except Failure α → Step β} {o : Except Failure β} (hx : Leaves v x v')
    (hf : ∀ p, Does v' (f p) o v'') : Does v (Step.observe x >>= f) o v'' := by
  intro w hw
  rw [outcome_bind_ok (outcome_observe ..), after_bind_ok (outcome_observe ..), after_observe]
  exact hf _ _ (hx w hw)

end Leaves

/-- The step leaves every scene as it is, whether it fails or not. -/
def Idle {α : Type} (x : Step α) : Prop := ∀ v, Leaves v x v

namespace Idle

variable {α β : Type} {x : Step α} {f : α → Step β}

theorem pure (a : α) : Idle (Pure.pure a : Step α) := fun _ => (Does.pure a).leaves

theorem get : Idle (MonadState.get : Step World) := fun _ _ hw => hw

theorem bind (hx : Idle x) (hf : ∀ a, Idle (f a)) : Idle (x >>= f) := by
  intro v w hw
  have hafter := hx v w hw
  cases h : outcome x w with
  | ok a =>
    rw [after_bind_ok h]
    exact hf a v _ hafter
  | error e =>
    rw [after_bind_error h]
    exact hafter

theorem ofExcept (o : Except Failure α) : Idle (Step.ofExcept o) := fun _ => (Does.ofExcept o).leaves

theorem say (level : Level) (text : String) : Idle (say level text) := fun _ =>
  (Does.say level text).leaves

theorem place {c : Call} (h : c.isMaking = false) : Idle (place c) := fun v => by
  have hplace := (Does.place (v := v) c).leaves
  rwa [v.call_of_not_making h] at hplace

theorem modifyTables (g : World → Tables) : Idle (modify fun w => { w with tables := g w }) :=
  fun _ _ hw => ⟨hw.calm, hw.scene⟩

theorem modifyTally (g : Tally → Tally) : Idle (modifyTally g) := fun _ => (Does.modifyTally g).leaves

theorem contain {x : Step Unit} (hx : Idle x) (level : Level) (start : String) (v : Scene) :
    Does v (contain level start x) (.ok ()) v :=
  (hx v).contain level start

end Idle

end IssueBridge
