import IssueBridge.Time.Timestamp

/-! # Time zones

A zone says for each moment how far its clocks are ahead of universal time: always alike, by a list of
changes, or with an hour of summer time between two Sundays of each year.
-/

namespace IssueBridge.Time

/-- A Sunday of a month and the hour of universal time at which the clocks change. -/
structure SundayRule where
  month : Nat
  /-- Which Sunday, counted from 1; `none` for the last. -/
  nth : Option Nat
  hour : Nat

inductive Zone
  | fixed (seconds : Int)
  /-- The offset before the first change, and the changes in order: second and offset from then on. -/
  | changing (first : Int) (changes : List (Nat × Int))
  /-- The offset in winter; the clocks are an hour ahead from one Sunday to the other. -/
  | summer (winter : Int) (starts ends : SundayRule)

/-- The second since the start of year 1 of a date and an hour. -/
def secondOf (y m d hour minute second : Nat) : Nat :=
  (((⟨y, m, d⟩ : Date).dayNumber * 24 + hour) * 60 + minute) * 60 + second

/-- The second at which the rule takes effect in a year. -/
def SundayRule.secondIn (r : SundayRule) (y : Nat) : Nat :=
  let firstDay := (⟨y, r.month, 1⟩ : Date).dayNumber
  let firstSunday := firstDay + (6 - weekday firstDay)
  let day := match r.nth with
    | some n => firstSunday + 7 * (n - 1)
    | none => firstSunday + (daysInMonth y r.month - 1 - (6 - weekday firstDay)) / 7 * 7
  day * 86400 + r.hour * 3600

def Zone.offsetAt (z : Zone) (w : Wall) : Int :=
  let s := w.micros / microsPerSecond
  match z with
  | .fixed o => o
  | .changing first changes =>
    ((changes.takeWhile fun c => c.1 ≤ s).getLast?.map (·.2)).getD first
  | .summer winter starts ends =>
    let y := w.date.year
    if starts.secondIn y ≤ s ∧ s < ends.secondIn y then winter + 3600 else winter

/-- What the clocks of the zone show at a moment of universal time. -/
def Zone.localTime? (z : Zone) (w : Wall) : Option Wall :=
  w.shift? (z.offsetAt w * microsPerSecond)

/-- Alternating starts and ends of an hour of summer time, as year, month, day and hour. -/
def shanghaiSummers : List (Nat × Nat × Nat × Nat) := [
  (1919, 4, 12, 16), (1919, 9, 30, 15), (1940, 5, 31, 16), (1940, 10, 12, 15),
  (1941, 3, 14, 16), (1941, 11, 1, 15), (1942, 1, 30, 16), (1945, 9, 1, 15),
  (1946, 5, 14, 16), (1946, 9, 30, 15), (1947, 4, 14, 16), (1947, 10, 31, 15),
  (1948, 4, 30, 16), (1948, 9, 30, 15), (1949, 4, 30, 16), (1949, 5, 27, 15),
  (1986, 5, 3, 18), (1986, 9, 13, 17), (1987, 4, 11, 18), (1987, 9, 12, 17),
  (1988, 4, 16, 18), (1988, 9, 10, 17), (1989, 4, 15, 18), (1989, 9, 16, 17),
  (1990, 4, 14, 18), (1990, 9, 15, 17), (1991, 4, 13, 18), (1991, 9, 14, 17)]

/-- The changes of a list of starts and ends. -/
def alternating (standard : Int) (ahead : Bool) :
    List (Nat × Nat × Nat × Nat) → List (Nat × Int)
  | [] => []
  | (y, m, d, h) :: rest =>
    (secondOf y m d h 0 0, if ahead then standard + 3600 else standard) ::
      alternating standard (!ahead) rest

def hours (h m : Int) : Int := h * 3600 + m * 60

def shanghai : Zone :=
  .changing (hours 8 5 + 43)
    ((secondOf 1900 12 31 15 54 17, hours 8 0) :: alternating (hours 8 0) true shanghaiSummers)

def kolkata : Zone :=
  .changing (hours 5 53 + 28) [
    (secondOf 1854 6 27 18 6 32, hours 5 53 + 20), (secondOf 1869 12 31 18 6 40, hours 5 21 + 10),
    (secondOf 1905 12 31 18 38 50, hours 5 30), (secondOf 1941 9 30 18 30 0, hours 6 30),
    (secondOf 1942 5 14 17 30 0, hours 5 30), (secondOf 1942 8 31 18 30 0, hours 6 30),
    (secondOf 1945 10 14 17 30 0, hours 5 30)]

def kathmandu : Zone :=
  .changing (hours 5 41 + 16) [
    (secondOf 1919 12 31 18 18 44, hours 5 30), (secondOf 1985 12 31 18 30 0, hours 5 45)]

def kiritimati : Zone :=
  .changing (hours (-10) (-29) - 20) [
    (secondOf 1901 1 1 10 29 20, hours (-10) (-40)), (secondOf 1979 10 1 10 40 0, hours (-10) 0),
    (secondOf 1994 12 31 10 0 0, hours 14 0)]

/-- The zones that are carried along. Those with summer time follow in all years the rule of today, which holds
in New York since 2007 and in London since 1996. -/
def zones : List (String × Zone) := [
  ("Asia/Shanghai", shanghai),
  ("UTC", .fixed 0),
  ("Asia/Kolkata", kolkata),
  ("Asia/Kathmandu", kathmandu),
  ("Pacific/Kiritimati", kiritimati),
  ("America/New_York", .summer (hours (-5) 0) ⟨3, some 2, 7⟩ ⟨11, some 1, 6⟩),
  ("Europe/London", .summer 0 ⟨3, none, 1⟩ ⟨10, none, 1⟩)]

/-- The directories in which the zones are kept; the outermost one has no name. -/
def zoneDirectories : List String := [
  "", "Africa", "America", "America/Argentina", "America/Indiana", "America/Kentucky",
  "America/North_Dakota", "Antarctica", "Arctic", "Asia", "Atlantic", "Australia", "Brazil", "Canada",
  "Chile", "Etc", "Europe", "Indian", "Mexico", "Pacific", "US"]

/-- The files of the outermost directory that describe no zone. -/
def zoneIndexes : List String :=
  ["iso3166.tab", "leapseconds", "tzdata.zi", "zone.tab", "zone1970.tab", "zonenow.tab"]

inductive ZoneFault
  /-- No name of a zone, or the name of a file that describes none. -/
  | malformed
  | unknown
  | directory
  | tooLong
  deriving DecidableEq, Repr

/-- Adds one step to a path whose steps so far stand in reverse. -/
def pathStep (absolute : Bool) (done : List String) (step : String) : List String :=
  if step = "" ∨ step = "." then done
  else if step = ".." then
    match done with
    | [] => if absolute then [] else [".."]
    | last :: rest => if last = ".." then ".." :: done else rest
  else step :: done

/-- A path without empty steps, and with `.` and `..` resolved. -/
def normalized (path : String) : String :=
  let absolute := path.startsWith "/"
  let steps := ((path.splitOn "/").foldl (pathStep absolute) []).reverse
  let body := "/".intercalate steps
  if absolute then "/" ++ body else if body = "" then "." else body

/-- A name is a path below the zones' directory that is as short as its normal form. -/
def isZoneName (name : String) : Bool :=
  !name.startsWith "/" && (normalized name).length = name.length &&
    normalized name ≠ "." && !(normalized name = ".." || (normalized name).startsWith "../")

/-- Why a name that is well formed leads to no zone. -/
def zoneFault (name : String) : ZoneFault :=
  let steps := name.splitOn "/"
  let last := steps.getLastD ""
  if !zoneDirectories.contains ("/".intercalate steps.dropLast) then .unknown
  else if zoneDirectories.contains name || last = "__pycache__" then .directory
  else if zoneIndexes.contains name || last = "__init__.py" || last.contains '\x00' then .malformed
  else if 255 < last.utf8ByteSize then .tooLong
  else .unknown

/-- What names of zones lead to. -/
abbrev ZoneBook := String → Except ZoneFault Zone

/-- The book of the zones that are carried along. -/
def Zone.named : ZoneBook := fun name =>
  if isZoneName name then
    match zones.lookup name with
    | some z => .ok z
    | none => .error (zoneFault name)
  else .error .malformed

end IssueBridge.Time
