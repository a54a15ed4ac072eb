import IssueBridge.Proofs.Projection.Result

/-! # Runs in which any call may fail

How calls are answered decides how a run goes on. What a step of the tracker's comes to depends only on the store,
on the answers and on the calls that were made before. A call that fails leaves the store as it is; whether
anything follows depends on whether the failure is contained.
-/

namespace IssueBridge

open Step Tracker

section Answers

variable {α : Type}

namespace Faults

def serves (faults : Faults) (history : List Call) (c : Call) : Bool :=
  match faults history c with
  | .failed _ => false
  | _ => true

/-- Those members of a list whose calls do not fail, when the calls are made one after the other. -/
def letThrough (faults : Faults) (call : α → Call) : List Call → List α → List α
  | _, [] => []
  | history, a :: l =>
    if faults.serves history (call a) then a :: letThrough faults call (call a :: history) l
    else letThrough faults call (call a :: history) l

def upToFailure (faults : Faults) : List Call → List Call → List Call
  | _, [] => []
  | history, c :: calls =>
    if faults.serves history c then c :: upToFailure faults (c :: history) calls else [c]

variable {faults : Faults} {call : α → Call} {history : List Call}

theorem sublist_letThrough (faults : Faults) (call : α → Call) (history : List Call) (l : List α) :
    (faults.letThrough call history l).Sublist l := by
  induction l generalizing history with
  | nil => exact .slnil
  | cons a l ih =>
    unfold letThrough
    split
    · exact (ih _).cons_cons a
    · exact (ih _).cons a

end Faults

end Answers

/-- The tracker's store, how calls are answered, and the calls so far, the latest first. -/
structure Course where
  store : Store
  faults : Faults
  history : List Call

def World.course (w : World) : Course := ⟨w.store, w.faults, w.history⟩

namespace Course

variable {α : Type}

def call (u : Course) (c : Call) : Course := { u with history := c :: u.history }

def mapStore (u : Course) (f : Store → Store) : Course := { u with store := f u.store }

def serves (u : Course) (c : Call) : Bool := u.faults.serves u.history c

def answer (u : Course) (c : Call) : Except Failure Unit :=
  match u.faults u.history c with
  | .failed f => .error f
  | _ => .ok ()

def ask (u : Course) (c : Call) (change : Store → Store) : Course :=
  if u.serves c then (u.call c).mapStore change else u.call c

/-- A call was made for each member of a list, whatever the calls before it came to. -/
def askAll (u : Course) (call : α → Call) (change : α → Store → Store) (l : List α) : Course :=
  l.foldl (fun u a => u.ask (call a) (change a)) u

/-- Calls were made for the members of a list, up to the first that failed. -/
def askUntil (call : α → Call) (change : α → Store → Store) : Course → List α → Course
  | u, [] => u
  | u, a :: l => if u.serves (call a) then askUntil call change (u.ask (call a) (change a)) l
    else u.ask (call a) (change a)

variable {u : Course} {c : Call}

theorem answer_eq_error_iff {f : Failure} : u.answer c = .error f ↔ u.faults u.history c = .failed f := by
  unfold answer
  cases u.faults u.history c <;> simp

theorem answer_eq_ok_iff : u.answer c = .ok () ↔ ∀ f, u.faults u.history c ≠ .failed f := by
  unfold answer
  cases u.faults u.history c <;> simp

theorem serves_eq (u : Course) (c : Call) : u.serves c = (u.answer c).isOk := by
  unfold serves Faults.serves answer
  cases u.faults u.history c <;> rfl

theorem ask_of_ok (h : u.answer c = .ok ()) (change : Store → Store) :
    u.ask c change = (u.call c).mapStore change := by
  rw [ask, serves_eq, h]
  exact if_pos rfl

theorem ask_of_error {f : Failure} (h : u.answer c = .error f) (change : Store → Store) :
    u.ask c change = u.call c := by
  rw [ask, serves_eq, h]
  exact if_neg Bool.false_ne_true

@[simp]
theorem faults_ask (u : Course) (c : Call) (change : Store → Store) : (u.ask c change).faults = u.faults := by
  unfold ask
  split <;> rfl

@[simp]
theorem history_ask (u : Course) (c : Call) (change : Store → Store) :
    (u.ask c change).history = c :: u.history := by
  unfold ask
  split <;> rfl

theorem store_ask (u : Course) (c : Call) (change : Store → Store) :
    (u.ask c change).store = if u.serves c then change u.store else u.store := by
  unfold ask
  split <;> rfl

section Lists

variable {call : α → Call} {change : α → Store → Store}

theorem askAll_append (u : Course) (call : α → Call) (change : α → Store → Store) (l l' : List α) :
    u.askAll call change (l ++ l') = (u.askAll call change l).askAll call change l' :=
  List.foldl_append

theorem history_askAll (l : List α) : ∀ u : Course,
    (u.askAll call change l).history = (l.map call).reverse ++ u.history := by
  induction l with
  | nil => exact fun _ => rfl
  | cons a l ih =>
    intro u
    rw [List.map_cons, List.reverse_cons, List.append_assoc]
    refine (ih _).trans ?_
    rw [history_ask]
    rfl

theorem store_askAll (l : List α) : ∀ u : Course, (u.askAll call change l).store =
    (u.faults.letThrough call u.history l).foldl (fun s a => change a s) u.store := by
  induction l with
  | nil => exact fun _ => rfl
  | cons a l ih =>
    intro u
    refine (ih _).trans ?_
    rw [faults_ask, history_ask, store_ask, Faults.letThrough]
    unfold serves
    split <;> rfl

theorem history_askUntil (l : List α) : ∀ u : Course, (askUntil call change u l).history =
    (u.faults.upToFailure u.history (l.map call)).reverse ++ u.history := by
  induction l with
  | nil => exact fun _ => rfl
  | cons a l ih =>
    intro u
    unfold askUntil
    rw [List.map_cons, Faults.upToFailure]
    unfold serves
    split
    · rw [ih, faults_ask, history_ask, List.reverse_cons, List.append_assoc]
      rfl
    · exact u.history_ask _ _

end Lists

end Course

/-- From a course on, the step has the outcome `o` and leads to another course. -/
def Proceeds {α : Type} (u : Course) (x : Step α) (o : Except Failure α) (u' : Course) : Prop :=
  ∀ w : World, w.course = u → outcome x w = o ∧ (after x w).course = u'

namespace Proceeds

variable {α β : Type} {u u' u'' : Course} {x : Step α} {f : α → Step β} {a : α} {o : Except Failure α}
  {o' : Except Failure β} {e : Failure} {c : Call} {change : Store → Store}

theorem pure (a : α) : Proceeds u (Pure.pure a : Step α) (.ok a) u := fun _ hw => ⟨rfl, hw⟩

theorem throw (e : Failure) : Proceeds u (MonadExcept.throw e : Step α) (.error e) u := fun _ hw => ⟨rfl, hw⟩

theorem say (level : Level) (text : String) : Proceeds u (Step.say level text) (.ok ()) u := fun _ hw => ⟨rfl, hw⟩

theorem bind (hx : Proceeds u x (.ok a) u') (hf : Proceeds u' (f a) o' u'') : Proceeds u (x >>= f) o' u'' := by
  intro w hw
  obtain ⟨ho, hu⟩ := hx w hw
  rw [outcome_bind_ok ho, after_bind_ok ho]
  exact hf _ hu

theorem bind_error (hx : Proceeds u x (.error e) u') : Proceeds u (x >>= f) (.error e) u' := by
  intro w hw
  obtain ⟨ho, hu⟩ := hx w hw
  rw [outcome_bind_error ho, after_bind_error ho]
  exact ⟨rfl, hu⟩

theorem get_bind {f : World → Step β} (h : ∀ w : World, w.course = u → Proceeds u (f w) o' u') :
    Proceeds u (get >>= f) o' u' := by
  intro w hw
  rw [outcome_bind_ok (outcome_get w), after_bind_ok (outcome_get w), after_get]
  exact h w hw w hw

theorem map (h : Proceeds u x o u') (g : α → β) : Proceeds u (g <$> x) (o.map g) u' := by
  intro w hw
  rw [outcome_map, after_map, (h w hw).1]
  exact ⟨rfl, (h w hw).2⟩

theorem ofExcept (o : Except Failure α) : Proceeds u (Step.ofExcept o) o u := by
  intro w hw
  rw [outcome_ofExcept, after_ofExcept]
  exact ⟨rfl, hw⟩

theorem ofLogged {x : Logged α} (h : x.Blind) : Proceeds u (ofLogged x) x.result u := by
  intro w hw
  refine ⟨outcome_ofLogged h w, ?_⟩
  unfold Step.ofLogged after
  dsimp only
  cases x w.log <;> exact hw

theorem observe (h : Proceeds u x o u') : Proceeds u (Step.observe x) (.ok o) u' := by
  intro w hw
  rw [outcome_observe, after_observe, (h w hw).1]
  exact ⟨rfl, (h w hw).2⟩

theorem modifyStore (change : Store → Store) : Proceeds u (Step.modifyStore change) (.ok ()) (u.mapStore change) := by
  rintro w rfl
  exact ⟨rfl, rfl⟩

theorem onStore (change : Store → α × Store) :
    Proceeds u (Step.onStore change) (.ok (change u.store).1) (u.mapStore fun s => (change s).2) := by
  rintro w rfl
  exact ⟨rfl, rfl⟩

theorem loggingFrom {text : String} {start : Step String} (h : Proceeds u x o u')
    (hstart : Proceeds u' start (.ok text) u') (kind : Failure → Bool) : Proceeds u (loggingFrom kind start x) o u' := by
  unfold Step.loggingFrom
  refine h.observe.bind ?_
  cases o with
  | ok a => exact .pure a
  | error e =>
    dsimp only
    cases kind e with
    | false => exact .throw e
    | true => exact hstart.bind ((say _ _).bind (.throw e))

theorem logging (h : Proceeds u x o u') (kind : Failure → Bool) (start : String) :
    Proceeds u (logging kind start x) o u' :=
  h.loggingFrom (.pure start) kind

theorem contain {x : Step Unit} {o : Except Failure Unit} (h : Proceeds u x o u') (level : Level) (start : String) :
    Proceeds u (contain level start x) (.ok ()) u' := by
  unfold Step.contain
  refine h.observe.bind ?_
  cases o with
  | ok _ => exact .pure ()
  | error e => exact say _ _

theorem place_of_served (h : u.faults u.history c = .served) : Proceeds u (place c) (.ok true) (u.call c) := by
  rintro w rfl
  rw [outcome_place, after_place, show w.faults w.history c = _ from h]
  exact ⟨rfl, rfl⟩

theorem place_of_empty (h : u.faults u.history c = .empty) : Proceeds u (place c) (.ok false) (u.call c) := by
  rintro w rfl
  rw [outcome_place, after_place, show w.faults w.history c = _ from h]
  exact ⟨rfl, rfl⟩

theorem place_of_ok (h : u.answer c = .ok ()) : ∃ served, Proceeds u (place c) (.ok served) (u.call c) := by
  cases hc : u.faults u.history c with
  | failed f => exact absurd hc (Course.answer_eq_ok_iff.mp h f)
  | served => exact ⟨true, place_of_served hc⟩
  | empty => exact ⟨false, place_of_empty hc⟩

theorem place_of_error (h : u.answer c = .error e) : Proceeds u (place c) (.error e) (u.call c) := by
  rintro w rfl
  rw [outcome_place, after_place, show w.faults w.history c = _ from Course.answer_eq_error_iff.mp h]
  exact ⟨rfl, rfl⟩

theorem asks {f : Bool → Step α} (h : ∀ served, Proceeds (u.call c) (f served) (.ok a) ((u.call c).mapStore change)) :
    Proceeds u (place c >>= f) ((u.answer c).map fun _ => a) (u.ask c change) := by
  cases hanswer : u.answer c with
  | ok _ =>
    obtain ⟨served, hplace⟩ := place_of_ok hanswer
    rw [Course.ask_of_ok hanswer]
    exact hplace.bind (h served)
  | error e =>
    rw [Course.ask_of_error hanswer]
    exact (place_of_error hanswer).bind_error

theorem tells {f : Bool → Step Unit}
    (h : ∀ served, Proceeds (u.call c) (f served) (.ok ()) ((u.call c).mapStore change)) :
    Proceeds u (place c >>= f) (u.answer c) (u.ask c change) := by
  have hasks := asks h
  cases hanswer : u.answer c with
  | ok _ =>
    rw [hanswer] at hasks
    exact hasks
  | error e =>
    rw [hanswer] at hasks
    exact hasks

section Lists

variable {call : α → Call} {change : α → Store → Store} {P : Course → Prop} {l : List α}

theorem forM_askAll {f : β → Step Unit} {g : α → β}
    (hP : ∀ u, P u → ∀ a ∈ l, P (u.ask (call a) (change a)))
    (hf : ∀ u, P u → ∀ a ∈ l, Proceeds u (f (g a)) (.ok ()) (u.ask (call a) (change a))) (hu : P u) :
    Proceeds u ((l.map g).forM f) (.ok ()) (u.askAll call change l) := by
  induction l generalizing u with
  | nil => exact .pure ()
  | cons a l ih =>
    refine (hf u hu a List.mem_cons_self).bind ?_
    exact ih (fun u hu b hb => hP u hu b (List.mem_cons_of_mem _ hb))
      (fun u hu b hb => hf u hu b (List.mem_cons_of_mem _ hb)) (hP u hu a List.mem_cons_self)

/-- Calls whose failures are not contained are made up to the first that fails. -/
theorem forM_askUntil {f : α → Step Unit} (hP : ∀ u, P u → ∀ a ∈ l, P (u.ask (call a) (change a)))
    (hf : ∀ u, P u → ∀ a ∈ l, Proceeds u (f a) (u.answer (call a)) (u.ask (call a) (change a))) (hu : P u) :
    ∃ o, Proceeds u (l.forM f) o (Course.askUntil call change u l) := by
  induction l generalizing u with
  | nil => exact ⟨_, .pure ()⟩
  | cons a l ih =>
    have hfirst := hf u hu a List.mem_cons_self
    unfold Course.askUntil
    rw [Course.serves_eq]
    cases hanswer : u.answer (call a) with
    | ok _ =>
      rw [hanswer] at hfirst
      obtain ⟨o, hrest⟩ := ih (fun u hu b hb => hP u hu b (List.mem_cons_of_mem _ hb))
        (fun u hu b hb => hf u hu b (List.mem_cons_of_mem _ hb)) (hP u hu a List.mem_cons_self)
      exact ⟨o, hfirst.bind hrest⟩
    | error e =>
      rw [hanswer] at hfirst
      exact ⟨_, hfirst.bind_error⟩

end Lists

end Proceeds

end IssueBridge
