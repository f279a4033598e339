import TenantCloud.Text.Blank
import TenantCloud.Text.Digits

/-!
# Points in time

A `Timestamp` counts seconds since the start of 1970 in UTC and nanoseconds within the second; a
leap second is written as nanoseconds of a billion and more. `render` writes RFC 3339 in UTC with
0, 3, 6 or 9 fraction digits, the fewest that lose nothing; `renderSeconds` leaves the fraction
out, and `renderMicros` cuts it after six digits. `parse?` reads RFC 3339 with any offset, in its
relaxed form: blanks in front of a number and at the end, a space in place of `T`, numbers shorter
than their field, `UTC` in place of `Z`. A moment outside the years `firstYear` to `lastYear`, in
its own zone or in UTC, is refused.
-/

set_option autoImplicit false

namespace TenantCloud

/-- Seconds since 1970 began, and nanoseconds within the second. -/
structure Timestamp where
  seconds : Int
  nanos : Nat
  deriving DecidableEq, Inhabited, Repr

namespace Timestamp

/-- Nanoseconds in a second. -/
def billion : Nat := 1000000000

/-- Nanoseconds since 1970 began. -/
def toNanos (t : Timestamp) : Int := t.seconds * billion + t.nanos

/-- `t` moved by whole seconds. -/
def addSeconds (t : Timestamp) (n : Int) : Timestamp := { t with seconds := t.seconds + n }

/-- The next distinguishable moment. -/
def tick (t : Timestamp) : Timestamp :=
  if t.nanos + 1 < billion then { t with nanos := t.nanos + 1 } else ⟨t.seconds + 1, 0⟩

/-- Nanoseconds from `s` to `t`, zero when `t` is earlier. -/
def nanosSince (t s : Timestamp) : Nat := (t.toNanos - s.toNanos).toNat

/-! ## Calendar -/

/-- Year, month and day of the day that lies `days` after the first of 1970. -/
def civilOfDays (days : Int) : Int × Nat × Nat :=
  let z := days + 719468
  let era := z / 146097
  let doe := (z - era * 146097).toNat
  let yoe := (doe - doe / 1460 + doe / 36524 - doe / 146096) / 365
  let doy := doe - (365 * yoe + yoe / 4 - yoe / 100)
  let mp := (5 * doy + 2) / 153
  let d := doy - (153 * mp + 2) / 5 + 1
  let m := if mp < 10 then mp + 3 else mp - 9
  (yoe + era * 400 + (if m ≤ 2 then 1 else 0), m, d)

/-- Days from the first of 1970 to a day of the proleptic Gregorian calendar. -/
def daysOfCivil (year : Int) (month day : Nat) : Int :=
  let y := if month ≤ 2 then year - 1 else year
  let era := y / 400
  let yoe := (y - era * 400).toNat
  let mp := if month > 2 then month - 3 else month + 9
  let doy := (153 * mp + 2) / 5 + day - 1
  era * 146097 + (yoe * 365 + yoe / 4 - yoe / 100 + doy : Nat) - 719468

/-- The years that a calendar day can lie in. -/
def firstYear : Int := -262143
def lastYear : Int := 262142

/-- The moment lies in a year that the calendar covers. -/
def isCovered (t : Timestamp) : Bool :=
  daysOfCivil firstYear 1 1 ≤ t.seconds / 86400 && t.seconds / 86400 ≤ daysOfCivil lastYear 12 31

def isLeapYear (year : Int) : Bool := year % 4 == 0 && (year % 100 != 0 || year % 400 == 0)

/-- Days of a month, zero for a number that is no month. -/
def daysInMonth (year : Int) (month : Nat) : Nat :=
  if month = 2 then (if isLeapYear year then 29 else 28)
  else if month ∈ [4, 6, 9, 11] then 30
  else if 1 ≤ month ∧ month ≤ 12 then 31
  else 0

/-! ## Writing -/

/-- A year, with its sign where it does not have four digits. -/
def renderYear (year : Int) : String :=
  if 0 ≤ year ∧ year ≤ 9999 then Text.Digits.padded 4 year.toNat
  else (if year < 0 then "-" else "+") ++ Text.Digits.padded 4 year.natAbs

/-- The fewest fraction digits, in steps of three, that lose nothing. -/
def renderFraction (nanos : Nat) : String :=
  if nanos = 0 then ""
  else if nanos % 1000000 = 0 then "." ++ Text.Digits.padded 3 (nanos / 1000000)
  else if nanos % 1000 = 0 then "." ++ Text.Digits.padded 6 (nanos / 1000)
  else "." ++ Text.Digits.padded 9 nanos

/-- Date and time of day, without the zone. -/
def renderClock (t : Timestamp) : String :=
  let days := t.seconds / 86400
  let secs := (t.seconds - days * 86400).toNat
  let (y, m, d) := civilOfDays days
  let two := Text.Digits.padded 2
  let leap := if billion ≤ t.nanos then 1 else 0
  renderYear y ++ "-" ++ two m ++ "-" ++ two d ++ "T" ++ two (secs / 3600) ++ ":" ++
    two (secs / 60 % 60) ++ ":" ++ two (secs % 60 + leap)

/-- RFC 3339 in UTC with the fewest fraction digits. -/
def render (t : Timestamp) : String := t.renderClock ++ renderFraction (t.nanos % billion) ++ "Z"

/-- RFC 3339 in UTC to the second. -/
def renderSeconds (t : Timestamp) : String := t.renderClock ++ "Z"

/-- RFC 3339 in UTC to the microsecond. -/
def renderMicros (t : Timestamp) : String :=
  t.renderClock ++ "." ++ Text.Digits.padded 6 (t.nanos % billion / 1000) ++ "Z"

/-! ## Reading -/

/-- The state of reading: what is left of the text. -/
abbrev Reader := StateT (List Char) Option

namespace Reader

/-- Drop leading blanks. -/
def blanks : Reader Unit := modify (·.dropWhile Text.isBlank)

/-- Take one character that satisfies `p`. -/
def char (p : Char → Bool) : Reader Char := do
  match ← get with
  | c :: rest => if p c then set rest; return c else failure
  | [] => failure

/-- One digit or more, at most `width` of them when a width is given. -/
def number (width : Option Nat) : Reader Nat := do
  let cs ← get
  let all := cs.takeWhile Text.Digits.isDigit
  let ds := match width with
    | some w => all.take w
    | none => all
  set (cs.drop ds.length)
  (Text.Digits.read? ds : Option Nat)

/-- A number behind optional blanks that lies between two bounds. -/
def field (width lo hi : Nat) : Reader Nat := do
  blanks
  let n ← number (some width)
  if lo ≤ n ∧ n ≤ hi then return n else failure

/-- A year: four digits at most, or a sign and any number of digits. -/
def year : Reader Int := do
  blanks
  match ← get with
  | '-' :: rest => set rest; return -(Int.ofNat (← number none))
  | '+' :: rest => set rest; return Int.ofNat (← number none)
  | _ => return Int.ofNat (← number (some 4))

/-- The fraction of a second in nanoseconds; digits after the ninth are dropped. -/
def fraction : Reader Nat := do
  match ← get with
  | '.' :: rest =>
    let ds := rest.takeWhile Text.Digits.isDigit
    set (rest.drop ds.length)
    let kept := ds.take 9
    let n ← (Text.Digits.read? kept : Option Nat)
    return n * Nat.pow 10 (9 - kept.length)
  | _ => return 0

/-- Two digits exactly. -/
def twoDigits : Reader Nat := do
  let a ← char Text.Digits.isDigit
  let b ← char Text.Digits.isDigit
  return Text.Digits.value [a, b]

/-- Seconds east of UTC. -/
def offset : Reader Int := do
  blanks
  let cs ← get
  if (cs.take 3).map Char.toLower = ['u', 't', 'c'] then
    set (cs.drop 3)
    return 0
  match cs with
  | 'Z' :: rest => set rest; return 0
  | 'z' :: rest => set rest; return 0
  | c :: rest =>
    set rest
    let sign : Int ← if c = '+' then pure 1 else if c = '-' || c = '−' then pure (-1) else failure
    let h ← twoDigits
    modify (·.dropWhile fun c => c == ':' || Text.isBlank c)
    let m ← twoDigits
    if m < 60 ∧ h * 3600 + m * 60 < 86400 then return sign * Int.ofNat (h * 3600 + m * 60)
    else failure
  | [] => failure

/-- The whole text. -/
def timestamp : Reader Timestamp := do
  let y ← year
  blanks; let _ ← char (· == '-')
  let mo ← field 2 1 12
  blanks; let _ ← char (· == '-')
  let d ← field 2 1 (daysInMonth y mo)
  let _ ← char fun c => c == 'T' || c == 't' || c == ' '
  let h ← field 2 0 23
  blanks; let _ ← char (· == ':')
  let mi ← field 2 0 59
  blanks; let _ ← char (· == ':')
  let s ← field 2 0 60
  let f ← fraction
  let off ← offset
  blanks
  let secs := daysOfCivil y mo d * 86400 + Int.ofNat (h * 3600 + mi * 60 + min s 59) - off
  let t : Timestamp := ⟨secs, f + (if s = 60 then billion else 0)⟩
  if (← get).isEmpty ∧ firstYear ≤ y ∧ y ≤ lastYear ∧ t.isCovered then return t else failure

end Reader

/-- Reads relaxed RFC 3339. -/
def parse? (s : String) : Option Timestamp := (Reader.timestamp.run s.toList).map (·.1)

end Timestamp

end TenantCloud
