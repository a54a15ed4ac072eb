import IssueBridge.Proofs.Step.Composed
import Mathlib.Algebra.BigOperators.Group.List.Basic
import Mathlib.Tactic.Ring

/-! # The books of a pass

The books hold what is counted, recorded and journalled, and the calls by which a pass can be followed: those
that list a repository, look for a ticket or use the database. Each step makes some entries in the books, and
whatever else it does is not seen in them.
-/

namespace IssueBridge

open Step Tracker

/-- The call lists a repository, looks for a ticket or uses the database. -/
def Call.isBooked : Call → Bool
  | .repository _ lazy => !lazy
  | .search _ => true
  | .openSession => true
  | .commit => true
  | _ => false

structure Books where
  faults : Faults
  clock : Time.Timestamp
  /-- The booked calls, the latest first. -/
  calls : List Call
  tally : Tally
  rows : List JournalEntry
  state : List StateRow

def World.books (w : World) : Books where
  faults := w.faults
  clock := w.clock
  calls := w.history.filter Call.isBooked
  tally := w.tally
  rows := w.tables.journal.map (·.entry)
  state := w.tables.state

inductive Deed
  | call (c : Call)
  | count (key : String) (n : Int)
  | error (e : TallyError)
  | row (e : JournalEntry)
  /-- A value is put into the table of the process. -/
  | mark (key value : String)

namespace Books

def enter (k : Books) : Deed → Books
  | .call c => { k with calls := c :: k.calls }
  | .count key n => { k with tally := k.tally.add key n }
  | .error e => { k with tally := k.tally.addError e.repository e.issue e.failure }
  | .row e => { k with rows := k.rows ++ [e] }
  | .mark key value => { k with state := Tables.setValue key (some value) k.state }

def enterAll (k : Books) (ds : List Deed) : Books := ds.foldl enter k

theorem enterAll_append (k : Books) (ds ds' : List Deed) :
    k.enterAll (ds ++ ds') = (k.enterAll ds).enterAll ds' :=
  List.foldl_append

end Books

namespace Deed

def call? : Deed → Option Call
  | .call c => some c
  | _ => none

def error? : Deed → Option TallyError
  | .error e => some e
  | _ => none

def row? : Deed → Option JournalEntry
  | .row e => some e
  | _ => none

def mark? : Deed → Option (String × String)
  | .mark key value => some (key, value)
  | _ => none

def gain (key : String) : Deed → Int
  | .count k n => if k = key then n else 0
  | .error _ => if "errors" = key then 1 else 0
  | _ => 0

def total (key : String) (ds : List Deed) : Int := (ds.map (gain key)).sum

theorem total_append (key : String) (ds ds' : List Deed) :
    total key (ds ++ ds') = total key ds + total key ds' := by
  unfold total
  rw [List.map_append, List.sum_append]

theorem total_cons (key : String) (d : Deed) (ds : List Deed) :
    total key (d :: ds) = d.gain key + total key ds := by
  unfold total
  rw [List.map_cons, List.sum_cons]

/-- The order of the entries does not matter for what a counter gains. -/
theorem total_perm (key : String) {ds ds' : List Deed} (h : ds'.Perm ds) : total key ds' = total key ds :=
  (h.map _).sum_eq

end Deed

namespace Tally

theorem lookup_bump (key key' : String) (n : Int) : ∀ t : Table Int,
    ((bump key n t).lookup key').getD 0 = (t.lookup key').getD 0 + if key = key' then n else 0
  | [] => by
    unfold bump
    rw [List.lookup_cons]
    by_cases h : key = key'
    · simp [h]
    · have hb : (key' == key) = false := beq_eq_false_iff_ne.mpr (Ne.symm h)
      simp [h, hb]
  | (k, m) :: t => by
    unfold bump
    by_cases hk : k = key
    · subst hk
      rw [if_pos rfl, List.lookup_cons, List.lookup_cons]
      by_cases h : k = key'
      · simp [h]
      · have hb : (key' == k) = false := beq_eq_false_iff_ne.mpr (Ne.symm h)
        simp [h, hb]
    · rw [if_neg hk, List.lookup_cons, List.lookup_cons]
      by_cases h : k = key'
      · subst h
        simp [Ne.symm hk]
      · have hb : (key' == k) = false := beq_eq_false_iff_ne.mpr (Ne.symm h)
        simp only [hb]
        exact lookup_bump key key' n t

theorem count_fresh (key : String) : Tally.count {} key = 0 := by
  unfold count
  cases h : freshCounts.lookup key with
  | none => rfl
  | some n =>
    obtain ⟨before, after, heq, -⟩ := List.lookup_eq_some_iff.mp h
    have hzero : ∀ p ∈ freshCounts, p.2 = 0 := by decide
    exact hzero (key, n) (heq ▸ List.mem_append_right _ List.mem_cons_self)

theorem count_add (t : Tally) (key key' : String) (n : Int) :
    (t.add key n).count key' = t.count key' + if key = key' then n else 0 :=
  lookup_bump key key' n t.counts

theorem count_addError (t : Tally) (repository : String) (issue : Option Int) (f : Failure) (key : String) :
    (t.addError repository issue f).count key = t.count key + if "errors" = key then 1 else 0 :=
  lookup_bump "errors" key 1 t.counts

end Tally

namespace Books

section Totals

open Deed

variable (k : Books)

theorem enterAll_cons (d : Deed) (ds : List Deed) : k.enterAll (d :: ds) = (k.enter d).enterAll ds := rfl

theorem calls_enterAll (ds : List Deed) :
    (k.enterAll ds).calls = (ds.filterMap Deed.call?).reverse ++ k.calls := by
  induction ds generalizing k with
  | nil => rfl
  | cons d ds ih =>
    rw [enterAll_cons, ih]
    cases d with
    | call c =>
      show _ = (c :: ds.filterMap call?).reverse ++ k.calls
      rw [List.reverse_cons, List.append_assoc]
      rfl
    | _ => rfl

theorem rows_enterAll (ds : List Deed) : (k.enterAll ds).rows = k.rows ++ ds.filterMap Deed.row? := by
  induction ds generalizing k with
  | nil => exact (List.append_nil _).symm
  | cons d ds ih =>
    rw [enterAll_cons, ih]
    cases d with
    | row e =>
      exact List.append_assoc k.rows [e] _
    | _ => rfl

theorem state_enterAll (ds : List Deed) : (k.enterAll ds).state =
    (ds.filterMap Deed.mark?).foldl (fun state m => Tables.setValue m.1 (some m.2) state) k.state := by
  induction ds generalizing k with
  | nil => rfl
  | cons d ds ih =>
    rw [enterAll_cons, ih]
    cases d <;> rfl

theorem errors_enterAll (ds : List Deed) :
    (k.enterAll ds).tally.errors = k.tally.errors ++ ds.filterMap Deed.error? := by
  induction ds generalizing k with
  | nil => exact (List.append_nil _).symm
  | cons d ds ih =>
    rw [enterAll_cons, ih]
    cases d with
    | error e =>
      exact List.append_assoc k.tally.errors [e] _
    | _ => rfl

theorem enterAll_eq {γ : Type} {f : Books → γ} (h : ∀ k d, f (enter k d) = f k) (ds : List Deed) :
    f (k.enterAll ds) = f k := by
  induction ds generalizing k with
  | nil => rfl
  | cons d ds ih => exact (ih _).trans (h k d)

theorem skipped_enterAll (ds : List Deed) : (k.enterAll ds).tally.skipped = k.tally.skipped :=
  k.enterAll_eq (f := (·.tally.skipped)) (fun _ d => by cases d <;> rfl) ds

theorem faults_enterAll (ds : List Deed) : (k.enterAll ds).faults = k.faults :=
  k.enterAll_eq (fun _ d => by cases d <;> rfl) ds

theorem clock_enterAll (ds : List Deed) : (k.enterAll ds).clock = k.clock :=
  k.enterAll_eq (fun _ d => by cases d <;> rfl) ds

theorem count_enterAll (key : String) (ds : List Deed) :
    (k.enterAll ds).tally.count key = k.tally.count key + Deed.total key ds := by
  induction ds generalizing k with
  | nil => exact (Int.add_zero _).symm
  | cons d ds ih =>
    rw [enterAll_cons, ih, Deed.total_cons, ← Int.add_assoc]
    congr 1
    cases d with
    | count key' n => exact Tally.count_add k.tally key' key n
    | error e => exact Tally.count_addError k.tally _ _ _ key
    | _ => exact (Int.add_zero _).symm

end Totals

end Books

namespace Step

variable {α β : Type} {x : Step α} {f : α → Step β} {w : World} {ds ds' : List Deed}

/-- The step, started in this world, makes these entries in the books. -/
def Enters (x : Step α) (w : World) (ds : List Deed) : Prop :=
  (after x w).books = w.books.enterAll ds

def Plain (x : Step α) : Prop := ∀ w, Enters x w []

namespace Enters

theorem bind {a : α} (h : outcome x w = .ok a) (hx : Enters x w ds) (hf : Enters (f a) (after x w) ds') :
    Enters (x >>= f) w (ds ++ ds') := by
  unfold Enters at *
  rw [after_bind_ok h, hf, hx, Books.enterAll_append]

theorem bind_error {e : Failure} (h : outcome x w = .error e) (hx : Enters x w ds) :
    Enters (x >>= f) w ds := by
  unfold Enters at *
  rw [after_bind_error h, hx]

theorem observe (h : Enters x w ds) : Enters (observe x) w ds := by
  unfold Enters at *
  rw [after_observe, h]

theorem observe_bind {f : Except Failure α → Step β} (hx : Enters x w ds)
    (hf : Enters (f (outcome x w)) (after x w) ds') : Enters (Step.observe x >>= f) w (ds ++ ds') := by
  have hafter := after_observe x w
  refine bind (outcome_observe x w) hx.observe ?_
  rwa [hafter]

theorem bind_plain (hx : Enters x w ds) (hf : ∀ a, Plain (f a)) : Enters (x >>= f) w ds := by
  cases h : outcome x w with
  | error e => exact hx.bind_error h
  | ok a => exact List.append_nil ds ▸ hx.bind h (hf a _)

theorem place {c : Call} (h : c.isBooked) (w : World) : Enters (place c) w [.call c] := by
  unfold Enters
  rw [after_place]
  unfold World.books
  dsimp only
  rw [List.filter_cons_of_pos h]
  rfl

theorem logging (h : Enters x w ds) (kind : Failure → Bool) (start : String) :
    Enters (logging kind start x) w ds := by
  refine h.observe.bind_plain fun o => ?_
  cases o with
  | ok a => exact fun _ => rfl
  | error e =>
    dsimp only
    split
    · exact fun _ => rfl
    · exact fun _ => rfl

theorem contain {x : Step Unit} (h : Enters x w ds) (level : Level) (start : String) :
    Enters (contain level start x) w ds := by
  refine h.observe.bind_plain fun o => ?_
  cases o <;> exact fun _ => rfl

end Enters

namespace Plain

theorem pure (a : α) : Plain (Pure.pure a : Step α) := fun _ => rfl

theorem throw (e : Failure) : Plain (MonadExcept.throw e : Step α) := fun _ => rfl

theorem get : Plain (MonadState.get : Step World) := fun _ => rfl

theorem say (level : Level) (text : String) : Plain (say level text) := fun _ => rfl

theorem bind (hx : Plain x) (hf : ∀ a, Plain (f a)) : Plain (x >>= f) := fun w =>
  (hx w).bind_plain hf

theorem ofExcept (e : Except Failure α) : Plain (ofExcept e) := fun w => by
  unfold Enters
  rw [after_ofExcept]
  rfl

theorem ofLogged (x : Logged α) : Plain (ofLogged x) := fun w => by
  unfold Enters Step.ofLogged after
  dsimp only
  cases x w.log <;> rfl

theorem place {c : Call} (h : c.isBooked = false) : Plain (place c) := fun w => by
  unfold Enters
  rw [after_place]
  unfold World.books
  dsimp only
  rw [List.filter_cons_of_neg (by simp [h])]
  rfl

theorem modifyStore (g : Store → Store) : Plain (modifyStore g) := fun _ => rfl

theorem onStore (g : Store → α × Store) : Plain (onStore g) := fun _ => rfl

theorem seq {a : α} (hx : Plain x) (h : outcome x w = .ok a) (hf : Enters (f a) (after x w) ds) :
    Enters (x >>= f) w ds :=
  Enters.bind h (hx w) hf

theorem seq_observe {f : Except Failure α → Step β} (hx : Plain x)
    (hf : Enters (f (outcome x w)) (after x w) ds) : Enters (Step.observe x >>= f) w ds :=
  Enters.observe_bind (hx w) hf

theorem of_composed {P : ∀ α : Type, Step α → Prop} {x : Step α} (h : Composed P x)
    (hP : ∀ α x, P α x → Plain x) : Plain x := by
  induction h with
  | base h => exact hP _ _ h
  | pure a => exact .pure a
  | throw e => exact .throw e
  | ofLogged _ => exact .ofLogged _
  | say level text => exact .say level text
  | observe _ ih => exact fun w => (ih w).observe
  | @bind _ _ x f _ _ ihx ihf =>
    intro w
    cases h : outcome x w with
    | error e => exact (ihx w).bind_error h
    | ok a => exact (ihx w).bind h (ihf a ⟨w, h⟩ _)

end Plain

end Step

end IssueBridge
