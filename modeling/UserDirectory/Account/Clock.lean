import UserDirectory.Number.Numeral
import UserDirectory.Account.World

/-!
# Moving the clock

A step moves the clock by a span of seconds. The span is first made a double: a whole number is
rounded to the nearest double (beyond the range of doubles it is refused as too large), a flag
counts as 0 or 1, a text must read as a double (`readDouble?`), and a value of any other kind
cannot be made a double at all.

The double then becomes a whole number of microseconds. NaN and the infinities have none. A
finite span keeps its whole seconds exactly; the fraction of a second is multiplied by a million
in double arithmetic and rounded to the nearest microsecond, a tie to the even one, and both
parts are added. The span in days (rounded down) must fit a 32-bit signed integer and have a
magnitude of at most 999999999, and the moved clock must stay in the calendar (`Instant.first` to
`Instant.last`). A span that fails any of these leaves the clock where it was.
-/

namespace UserDirectory.Account

open UserDirectory.Number

/-- A span of seconds as a step gives it. -/
inductive Seconds where
  /-- a whole number; a flag counts as 0 or 1 -/
  | whole (n : Int)
  /-- a double -/
  | real (x : Binary64)
  /-- a text to read as a double -/
  | text (t : Text)
  /-- a value of another kind, by the name of its kind -/
  | other (kind : String)
  deriving DecidableEq, Repr

/-- The double of a span. -/
def Seconds.toDouble : Seconds → Except Fault Binary64
  | .whole n =>
    match nearest (n < 0) n.natAbs 1 with
    | .infinite _ => .error (.misuse (.overflow "int too large to convert to float"))
    | x => .ok x
  | .real x => .ok x
  | .text t =>
    match readDouble? t with
    | some x => .ok x
    | none => .error (.invalid ("could not convert string to float: " ++ t.literal))
  | .other k =>
    .error (.misuse (.typeError ("float() argument must be a string or a real number, not '" ++
      k ++ "'")))

/-- Microseconds in a second. -/
def microsPerSecond : Nat := 1000000

/-- Microseconds in a day. -/
def microsPerDay : Int := 86400 * 1000000

/-- The whole microseconds of a non-negative double `m * 2^q`. -/
def unsignedMicros (m : Nat) (q : Int) : Int :=
  if 0 ≤ q then (m * Nat.pow 2 q.toNat * microsPerSecond : Nat)
  else
    let d := Nat.pow 2 (-q).toNat
    let whole : Int := (m / d * microsPerSecond : Nat)
    let r := m % d
    if r = 0 then whole
    else whole + ((Binary64.finite false r q).mulNat microsPerSecond).roundInt?.getD 0

/-- The whole microseconds of a span in seconds. -/
def spanMicros : Binary64 → Except Fault Int
  | .nan => .error (.invalid "cannot convert float NaN to integer")
  | .infinite _ => .error (.misuse (.overflow "cannot convert float infinity to integer"))
  | .finite neg m q =>
    let us := unsignedMicros m q
    .ok (if neg then -us else us)

/-- The span in microseconds, checked in days. -/
def checkedSpan (us : Int) : Except Fault Int :=
  let days := us / microsPerDay
  if days < -2147483648 || 2147483647 < days then
    .error (.misuse (.overflow "Python int too large to convert to C int"))
  else if 999999999 < days.natAbs then
    .error (.misuse (.overflow ("days=" ++ toString days ++ "; must have magnitude <= 999999999")))
  else .ok us

/-- The clock moved by a span, if it stays in the calendar. -/
def movedClock (clock : Instant) (span : Seconds) : Except Fault Instant := do
  let x ← span.toDouble
  let us ← spanMicros x >>= checkedSpan
  let t := clock.advance us
  if t.inCalendar then pure t else .error (.misuse (.overflow "date value out of range"))

/-- Moves the clock by a span. -/
def advanceClock (span : Seconds) : Act Unit := do
  let w ← get
  match movedClock w.clock span with
  | .ok t => set { w with clock := t }
  | .error f => throw f

end UserDirectory.Account
