import IssueBridge.Text.Letter
import IssueBridge.Toolbox.Filter

/-! # Patterns

A pattern matches a stretch of a text. Of all matches that start first the longest is taken; among equally
long ones every part prefers its first choice and as many repetitions as it can get. In the basic notation
the marks of groups, choices and counts carry a backslash, in the extended one they are bare.
-/

namespace IssueBridge.Toolbox

inductive Pattern
  | nothing
  | one (accepts : Char → Bool)
  | start
  | stop
  | sequence (a b : Pattern)
  | choice (a b : Pattern)
  | repeated (least : Nat) (most : Option Nat) (p : Pattern)
  | group (number : Nat) (p : Pattern)
  /-- What a group has matched, once more. -/
  | reference (number : Nat)

/-- How far a match has come, and which stretches the groups have matched, the latest first. -/
structure Spot where
  position : Nat
  groups : List (Nat × Nat × Nat) := []
  deriving DecidableEq

/-- The spots that repetitions reach, in order of preference; what takes nothing is not repeated. -/
def repetitions (body : Spot → List Spot) : Nat → Nat → Option Nat → Spot → List Spot
  | 0, least, _, x => if least = 0 then [x] else []
  | fuel + 1, least, most, x =>
    if most = some 0 then [x]
    else
      let further := (body x).flatMap fun y =>
        if x.position < y.position then repetitions body fuel (least - 1) (most.map (· - 1)) y
        else if least ≤ 1 then [y] else []
      (further ++ if least = 0 then [x] else []).eraseDups

namespace Pattern

/-- The spots at which a match can end, in order of preference. -/
def ends (text : Array Char) : Pattern → Spot → List Spot
  | .nothing, x => [x]
  | .one accepts, x =>
    match text[x.position]? with
    | some c => if accepts c then [{ x with position := x.position + 1 }] else []
    | none => []
  | .start, x => if x.position = 0 then [x] else []
  | .stop, x => if x.position = text.size then [x] else []
  | .sequence a b, x => (a.ends text x).flatMap (b.ends text)
  | .choice a b, x => a.ends text x ++ b.ends text x
  | .repeated least most p, x => repetitions (p.ends text) (text.size + 1 - x.position) least most x
  | .group number p, x =>
    (p.ends text x).map fun y => { y with groups := (number, x.position, y.position) :: y.groups }
  | .reference number, x =>
    match x.groups.lookup number with
    | none => []
    | some (i, j) =>
      let k := x.position + (j - i)
      if text.extract i j = text.extract x.position k then [{ x with position := k }] else []

/-- The longest match that starts at a position, of equally long ones the most preferred. -/
def matchAt (p : Pattern) (text : Array Char) (i : Nat) : Option Spot :=
  match p.ends text { position := i } with
  | [] => none
  | x :: xs => some (xs.foldl (fun best y => if best.position < y.position then y else best) x)

/-- The first match that starts at `i` or at one of the `fuel` positions behind it, with its start. -/
def searchFrom (p : Pattern) (text : Array Char) (fuel i : Nat) : Option (Nat × Spot) :=
  match p.matchAt text i, fuel with
  | some x, _ => some (i, x)
  | none, 0 => none
  | none, fuel + 1 => p.searchFrom text fuel (i + 1)

def search (p : Pattern) (text : Array Char) (i : Nat) : Option (Nat × Spot) :=
  if text.size < i then none else p.searchFrom text (text.size - i) i

/-- How a pattern is written, and whether the case of letters counts. -/
structure Style where
  extended : Bool
  caseless : Bool

namespace Style

/-- The characters that stand for a given one. -/
def same (s : Style) (c d : Char) : Bool := c = d || (s.caseless && c.toLower = d.toLower)

/-- The member at the front of a bracket. -/
def readMember (s : Style) (cs : List Char) : Option ((Char → Bool) × List Char) :=
  match readClass cs, cs with
  | some (ranges, more), _ => some (fun d => ranges.any fun r => r.1 ≤ d.toNat && d.toNat ≤ r.2, more)
  | none, c :: '-' :: high :: more =>
    if high = ']' then some (s.same c, '-' :: high :: more)
    else if high < c then none
    else
      let within := fun d => c ≤ d && d ≤ high
      some (fun d => within d || (s.caseless && (within d.toLower || within d.toUpper)), more)
  | none, c :: rest => some (s.same c, rest)
  | none, [] => none

/-- The members of a bracket up to its end, at most `fuel`. -/
def readMembers (s : Style) : Nat → Bool → List Char → Option ((Char → Bool) × List Char)
  | 0, _, _ => none
  | fuel + 1, first, cs =>
    if !first && cs.head? = some ']' then some (fun _ => false, cs.drop 1)
    else do
      let (accepts, more) ← s.readMember cs
      let (others, rest) ← s.readMembers fuel false more
      return (fun d => accepts d || others d, rest)

/-- A count in braces. -/
def readCounts (s : Style) (cs : List Char) : Option ((Nat × Option Nat) × List Char) :=
  let (least, rest) := leadingNumber cs
  let (most, rest) := match rest with
    | ',' :: rest =>
      let (n, more) := leadingNumber rest
      (if more.length = rest.length then none else some n, more)
    | rest => (some least, rest)
  match s.extended, rest with
  | true, '}' :: more => some ((least, most), more)
  | false, '\\' :: '}' :: more => some ((least, most), more)
  | _, _ => none

/-- The mark at the front that repeats what stands before it. -/
def readRepetition (s : Style) (cs : List Char) : Option ((Nat × Option Nat) × List Char) :=
  match s.extended, cs with
  | _, '*' :: rest => some ((0, none), rest)
  | true, '+' :: rest => some ((1, none), rest)
  | true, '?' :: rest => some ((0, some 1), rest)
  | true, '{' :: rest => s.readCounts rest
  | false, '\\' :: '+' :: rest => some ((1, none), rest)
  | false, '\\' :: '?' :: rest => some ((0, some 1), rest)
  | false, '\\' :: '{' :: rest => s.readCounts rest
  | _, _ => none

def repeatAll (s : Style) (p : Pattern) : Nat → List Char → Pattern × List Char
  | 0, cs => (p, cs)
  | fuel + 1, cs =>
    match s.readRepetition cs with
    | some ((least, most), rest) => s.repeatAll (.repeated least most p) fuel rest
    | none => (p, cs)

/-- The mark of a group's start, of its end or of a choice. -/
def isMark (s : Style) (mark : Char) (cs : List Char) : Bool :=
  if s.extended then cs.head? = some mark else [ '\\', mark ].isPrefixOf cs

def markLength (s : Style) : Nat := if s.extended then 1 else 2

def wordChar (c : Char) : Bool := c.isAlphanum || c = '_' || Text.isLetter c

/-- What is read so far: the choices before the current one, the current one and the groups. -/
structure Reading where
  pattern : Pattern
  groups : Nat
  rest : List Char

mutual

/-- A pattern up to its end or to the end of its group. -/
def readChoice (s : Style) : Nat → Nat → Bool → List Char → Option Reading
  | 0, _, _, _ => none
  | fuel + 1, groups, inner, cs => do
    let r ← s.readSequence fuel groups inner true cs
    if s.isMark '|' r.rest then
      let r' ← s.readChoice fuel r.groups inner (r.rest.drop s.markLength)
      return { r' with pattern := .choice r.pattern r'.pattern }
    else return r

/-- A sequence up to a choice, the end of its group or its own end; `first` says that it has just begun. -/
def readSequence (s : Style) : Nat → Nat → Bool → Bool → List Char → Option Reading
  | 0, _, _, _, _ => none
  | _, groups, inner, _, [] => if inner then none else some ⟨.nothing, groups, []⟩
  | fuel + 1, groups, inner, first, c :: rest =>
    let cs := c :: rest
    if s.isMark '|' cs || (inner && s.isMark ')' cs) then some ⟨.nothing, groups, cs⟩
    else if s.isMark '(' cs then do
      let r ← s.readChoice fuel (groups + 1) true (cs.drop s.markLength)
      if s.isMark ')' r.rest then
        s.readOn fuel r.groups inner (.group (groups + 1) r.pattern) (r.rest.drop s.markLength)
      else none
    else
      let closes := rest.isEmpty || s.isMark '|' rest || (inner && s.isMark ')' rest)
      match c, rest with
      | '^', rest =>
        if s.extended || first then do
          let r ← s.readSequence fuel groups inner true rest
          return { r with pattern := .sequence .start r.pattern }
        else s.readOn fuel groups inner (.one (s.same '^')) rest
      | '$', rest =>
        if s.extended || closes then s.readOn fuel groups inner .stop rest
        else s.readOn fuel groups inner (.one (s.same '$')) rest
      | '.', rest => s.readOn fuel groups inner (.one fun _ => true) rest
      | '[', '^' :: rest => do
        let (accepts, more) ← s.readMembers (rest.length + 1) true rest
        s.readOn fuel groups inner (.one fun d => !accepts d) more
      | '[', rest => do
        let (accepts, more) ← s.readMembers (rest.length + 1) true rest
        s.readOn fuel groups inner (.one accepts) more
      | '\\', [] => none
      | '\\', d :: rest =>
        if '1' ≤ d && d ≤ '9' then
          let n := d.toNat - 0x30
          if groups < n then none else s.readOn fuel groups inner (.reference n) rest
        else
          let accepts := match d with
            | 'n' => s.same '\n'
            | 't' => s.same '\t'
            | 'w' => wordChar
            | 'W' => fun e => !wordChar e
            | 's' => isSpace
            | 'S' => fun e => !isSpace e
            | d => s.same d
          s.readOn fuel groups inner (.one accepts) rest
      | '*', rest =>
        if first then s.readOn fuel groups inner (.one (s.same '*')) rest else none
      | c, rest => s.readOn fuel groups inner (.one (s.same c)) rest

/-- Reads on behind a part, which may be repeated. -/
def readOn (s : Style) : Nat → Nat → Bool → Pattern → List Char → Option Reading
  | 0, _, _, _, _ => none
  | fuel + 1, groups, inner, p, cs => do
    let (p, rest) := s.repeatAll p cs.length cs
    let r ← s.readSequence fuel groups inner false rest
    return { r with pattern := .sequence p r.pattern }

end

end Style

/-- The pattern that a text spells, with the number of its groups. -/
def read? (s : Style) (cs : List Char) : Option (Pattern × Nat) :=
  (s.readChoice (3 * cs.length + 3) 0 false cs).map fun r => (r.pattern, r.groups)

end Pattern

end IssueBridge.Toolbox
