import IssueBridge.Number.Binary

/-! # Values

The values of payloads, field sets and configuration files. A whole number has any size, a number with a
point or an exponent is a floating point number. The members of an object stand in the order in which
they were given; of several members of one name the last one counts.
-/

namespace IssueBridge

inductive Value
  | null
  | bool (b : Bool)
  | int (n : Int)
  | float (x : Float)
  | str (s : String)
  | arr (items : List Value)
  | obj (members : List (String × Value))
  /-- A date or a time, which only configuration files can hold. -/
  | moment (text : String)
  /-- A text with half of a surrogate pair, in whose place the replacement character stands. -/
  | brokenText (text : String)
  deriving Inhabited, Repr

/-- The members of an object. -/
abbrev Fields := List (String × Value)

namespace Fields

def get? (fs : Fields) (name : String) : Option Value := fs.lookup name

/-- Puts a value: in place of the old one, or at the end. -/
def set : Fields → String → Value → Fields
  | [], name, v => [(name, v)]
  | (n, old) :: rest, name, v => if n = name then (n, v) :: rest else (n, old) :: set rest name v

def erase (fs : Fields) (name : String) : Fields := fs.filter (·.1 ≠ name)

/-- The members of both, those of the second put over those of the first. -/
def overlay (base new : Fields) : Fields := new.foldl (fun fs p => fs.set p.1 p.2) base

/-- Each name only once: where it was first given, with the value that was given last. -/
def unique (fs : Fields) : Fields := overlay [] fs

@[simp]
theorem get?_nil (name : String) : get? [] name = none := rfl

theorem get?_cons (n : String) (v : Value) (rest : Fields) (name : String) :
    get? ((n, v) :: rest) name = if name = n then some v else get? rest name := by
  by_cases h : name = n
  · simp [get?, h]
  · simp [get?, List.lookup_cons, h, beq_eq_false_iff_ne.2 h]

@[simp]
theorem get?_set_self (fs : Fields) (name : String) (v : Value) :
    (fs.set name v).get? name = some v := by
  induction fs with
  | nil => simp [set, get?_cons]
  | cons p rest ih =>
    obtain ⟨n, old⟩ := p
    by_cases h : n = name
    · simp [set, h, get?_cons]
    · simp [set, h, get?_cons, ih, Ne.symm h]

theorem get?_set_of_ne {fs : Fields} {a b : String} {v : Value} (h : b ≠ a) :
    (fs.set a v).get? b = fs.get? b := by
  induction fs with
  | nil => simp [set, get?_cons, h]
  | cons p rest ih =>
    obtain ⟨n, old⟩ := p
    by_cases hn : n = a
    · subst hn
      simp [set, get?_cons, h]
    · simp [set, hn, get?_cons, ih]

theorem get?_set (fs : Fields) (a b : String) (v : Value) :
    (fs.set a v).get? b = if b = a then some v else fs.get? b := by
  split
  · rename_i h
    simp [h]
  · rename_i h
    exact get?_set_of_ne h

theorem get?_erase_self (fs : Fields) (name : String) : (fs.erase name).get? name = none := by
  induction fs with
  | nil => rfl
  | cons p rest ih =>
    obtain ⟨n, v⟩ := p
    by_cases h : n = name
    · simpa [erase, h] using ih
    · simpa [erase, h, get?_cons, Ne.symm h] using ih

theorem get?_erase_of_ne {fs : Fields} {a b : String} (h : b ≠ a) :
    (fs.erase a).get? b = fs.get? b := by
  induction fs with
  | nil => rfl
  | cons p rest ih =>
    obtain ⟨n, v⟩ := p
    by_cases hn : n = a
    · subst hn
      simpa [erase, get?_cons, h] using ih
    · simpa [erase, hn, get?_cons] using congrArg (fun o => if b = n then some v else o) ih

end Fields

namespace Value

/-- The member of an object; other values have none. -/
def member? (v : Value) (name : String) : Option Value :=
  match v with
  | .obj fs => Fields.get? fs name
  | _ => none

def str? : Value → Option String
  | .str s => some s
  | _ => none

/-- A value counts as absent when it is null, false, zero or empty. -/
def isEmpty : Value → Bool
  | .null => true
  | .bool b => !b
  | .int n => n = 0
  | .float x => x == 0.0
  | .str s => s = ""
  | .arr items => items.isEmpty
  | .obj fs => fs.isEmpty
  | .moment _ => false
  | .brokenText _ => false

/-- The value is the number `n`, written with or without a point, or as a truth value. -/
def isNumber (v : Value) (n : Int) : Bool :=
  match v with
  | .int m => m = n
  | .bool b => (if b then 1 else 0) = n
  | .float x => Number.isWhole x && Number.truncate x = n
  | _ => false

mutual

/-- The value with each name in an object only once. -/
def settled : Value → Value
  | .arr items => .arr (settledItems items)
  | .obj fs => .obj (settledFields fs).unique
  | v => v

def settledItems : List Value → List Value
  | [] => []
  | v :: rest => settled v :: settledItems rest

def settledFields : Fields → Fields
  | [] => []
  | (n, v) :: rest => (n, settled v) :: settledFields rest

end

def ofStrings (l : List String) : Value := .arr (l.map .str)

end Value

end IssueBridge
