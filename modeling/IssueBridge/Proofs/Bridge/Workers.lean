import IssueBridge.Proofs.Step.Books
import Mathlib.Data.List.Nodup

/-! # Workers that share a tally

The workers of a pass add to one tally, one at a time and in an order that nobody controls. What is counted does not
depend on the order, and each list of errors is kept in the order in which they were recorded.
-/

namespace IssueBridge

/-- Several sequences merged into one: time and again one of them, whichever it is, gives its next member. -/
inductive Interleaved {α : Type} : List (List α) → List α → Prop
  | done {ls : List (List α)} (h : ∀ l ∈ ls, l = []) : Interleaved ls []
  | next {before rest : List (List α)} {a : α} {l m : List α} (h : Interleaved (before ++ l :: rest) m) :
    Interleaved (before ++ (a :: l) :: rest) (a :: m)

namespace Interleaved

variable {α β : Type} {ls : List (List α)} {m : List α}

theorem filterMap (h : Interleaved ls m) (f : α → Option β) :
    Interleaved (ls.map (·.filterMap f)) (m.filterMap f) := by
  induction h with
  | done h =>
    refine .done fun l hl => ?_
    obtain ⟨l, hmem, rfl⟩ := List.mem_map.mp hl
    rw [h l hmem]
    rfl
  | @next before rest a l m _ ih =>
    rw [List.map_append, List.map_cons] at ih ⊢
    cases hf : f a with
    | none => rwa [List.filterMap_cons_none hf, List.filterMap_cons_none hf]
    | some b =>
      rw [List.filterMap_cons_some hf, List.filterMap_cons_some hf]
      exact .next ih

end Interleaved

namespace Tally

/-- What a worker adds to a tally. -/
inductive Contribution
  | count (key : String) (n : Int)
  | error (e : TallyError)

namespace Contribution

def error? : Contribution → Option TallyError
  | .error e => some e
  | .count .. => none

def gain (key : String) : Contribution → Int
  | .count k n => if k = key then n else 0
  | .error _ => 0

def total (key : String) (cs : List Contribution) : Int := (cs.map (gain key)).sum

theorem total_cons (key : String) (c : Contribution) (cs : List Contribution) :
    total key (c :: cs) = c.gain key + total key cs := by
  simp [total]

end Contribution

open Contribution

def take (t : Tally) : Contribution → Tally
  | .count key n => t.add key n
  | .error e => t.addError e.repository e.issue e.failure

section Collecting

variable (t : Tally) (cs : List Contribution)

end Collecting

section Sharing

variable {workers : List (List Contribution)} {cs : List Contribution}

def timedOut (repository : String) (issue : Int) : TallyError := ⟨repository, some issue, .connection "timed out"⟩

end Sharing

end Tally

end IssueBridge
