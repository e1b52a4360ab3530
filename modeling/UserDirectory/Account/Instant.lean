/-!
# Instants

An instant is a number of microseconds since 1970-01-01T00:00:00Z. Its text is
`YYYY-MM-DDTHH:MM:SS`, then `.` and six digits of microseconds when they are not zero, then `Z`,
in the proleptic Gregorian calendar. The calendar runs from the first instant of year 1 to the
last microsecond of year 9999.
-/

namespace UserDirectory.Account

/-- A point in time, in microseconds since the epoch. -/
structure Instant where
  micros : Int
  deriving DecidableEq, Repr

namespace Instant

/-- 2024-01-01T00:00:00Z, where every session's clock starts. -/
def sessionStart : Instant := ⟨1704067200 * 1000000⟩

/-- 0001-01-01T00:00:00Z, the first instant of the calendar. -/
def first : Instant := ⟨-62135596800 * 1000000⟩

/-- 9999-12-31T23:59:59.999999Z, the last instant of the calendar. -/
def last : Instant := ⟨253402300800 * 1000000 - 1⟩

/-- Whether an instant lies in the calendar. -/
def inCalendar (t : Instant) : Bool :=
  first.micros ≤ t.micros && t.micros ≤ last.micros

/-- The instant `d` microseconds later. -/
def advance (t : Instant) (d : Int) : Instant := ⟨t.micros + d⟩

instance : LE Instant := ⟨fun a b => a.micros ≤ b.micros⟩

instance : DecidableRel (α := Instant) (· ≤ ·) := fun a b => Int.decLe a.micros b.micros

/-- Year, month and day of a day count since the epoch. -/
def civil (days : Int) : Int × Nat × Nat :=
  let z := days + 719468
  let era := z / 146097
  let doe := (z - era * 146097).toNat
  let yoe := (doe - doe / 1460 + doe / 36524 - doe / 146096) / 365
  let doy := doe - (365 * yoe + yoe / 4 - yoe / 100)
  let mp := (5 * doy + 2) / 153
  let d := doy - (153 * mp + 2) / 5 + 1
  let m := if mp < 10 then mp + 3 else mp - 9
  let y := (yoe : Int) + era * 400 + (if m ≤ 2 then 1 else 0)
  (y, m, d)

/-- Decimal digits padded with zeros to width `w`. -/
def padded (w : Nat) (n : Nat) : String :=
  let ds := Nat.toDigits 10 n
  String.ofList (List.replicate (w - ds.length) '0' ++ ds)

/-- The text of an instant. -/
def text (t : Instant) : String :=
  let secs := t.micros / 1000000
  let frac := (t.micros % 1000000).toNat
  let days := secs / 86400
  let daySecs := (secs % 86400).toNat
  let (y, m, d) := civil days
  let yearText := if y < 0 then "-" ++ padded 4 y.natAbs else padded 4 y.toNat
  yearText ++ "-" ++ padded 2 m ++ "-" ++ padded 2 d ++ "T" ++ padded 2 (daySecs / 3600) ++ ":" ++
    padded 2 (daySecs / 60 % 60) ++ ":" ++ padded 2 (daySecs % 60) ++
    (if frac = 0 then "" else "." ++ padded 6 frac) ++ "Z"

end Instant

end UserDirectory.Account
