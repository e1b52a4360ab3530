/-!
# Binary floating-point values and their decimals

`Binary64` is a double-precision value: a sign, and `m * 2^q` with `m < 2^53`, or an infinity,
or NaN. Two conversions tie it to decimals.

* `nearest` rounds a non-negative fraction to the nearest value, a tie to the even mantissa, with
  subnormal values below `2^-1022` and infinity from `2^1024` on; `ofDecimal` reads
  `digits * 10^exp` through it.
* `shortest` selects the decimal with the fewest significant digits that reads back to the value:
  it lies in the interval of reals that round to the value (ends included when `m` is even), and of
  two such decimals on the same grid the nearer one is taken, an exact tie going to the even one.
-/

namespace UserDirectory.Number

/-- A double-precision value. -/
inductive Binary64 where
  /-- `(-1)^neg * m * 2^q` with `m < 2^53`; `m ≥ 2^52` unless `q = -1074`. -/
  | finite (neg : Bool) (m : Nat) (q : Int)
  | infinite (neg : Bool)
  | nan
  deriving DecidableEq, Repr

def scale2 (p : Nat) (j : Int) : Nat × Nat :=
  if 0 ≤ j then (p * Nat.pow 2 j.toNat, 1) else (p, Nat.pow 2 (-j).toNat)

def scale10 (p : Nat) (j : Int) : Nat × Nat :=
  if 0 ≤ j then (p * Nat.pow 10 j.toNat, 1) else (p, Nat.pow 10 (-j).toNat)

def cmpFrac (a b : Nat × Nat) : Ordering :=
  compare (a.1 * b.2) (b.1 * a.2)

def floorLog2 (p q : Nat) : Int :=
  let b : Int := (Nat.log2 p : Int) - (Nat.log2 q : Int)
  if cmpFrac (p, q) (scale2 1 b) = .lt then b - 1 else b

def decimalDigits (n : Nat) : Nat :=
  (Nat.toDigits 10 n).length

def floorLog10 (p q : Nat) : Int :=
  let b : Int := (decimalDigits p : Int) - (decimalDigits q : Int)
  if cmpFrac (p, q) (scale10 1 b) = .lt then b - 1 else b

def roundHalfEven (p q : Nat) : Nat :=
  let m := p / q
  let r := p % q
  if 2 * r > q ∨ (2 * r = q ∧ m % 2 = 1) then m + 1 else m

def nearest (neg : Bool) (p q : Nat) : Binary64 :=
  if p = 0 then .finite neg 0 (-1074)
  else
    let e : Int := max (floorLog2 p q - 52) (-1074)
    let (num, den) := if 0 ≤ e then (p, q * Nat.pow 2 e.toNat) else (p * Nat.pow 2 (-e).toNat, q)
    let m := roundHalfEven num den
    let (m, e) := if m = Nat.pow 2 53 then (Nat.pow 2 52, e + 1) else (m, e)
    if 971 < e then .infinite neg else .finite neg m e

/-- The value of `digits * 10^exp`, with the given sign. Decimals far outside the range of the
format go straight to infinity or zero. -/
def ofDecimal (neg : Bool) (digits : Nat) (exp : Int) : Binary64 :=
  if digits = 0 then .finite neg 0 (-1074)
  else
    let lead := (decimalDigits digits : Int) + exp
    if 310 < lead then .infinite neg
    else if lead < -330 then .finite neg 0 (-1074)
    else
      let (p, q) := scale10 digits exp
      nearest neg p q

/-- A decimal `digits * 10^exp`. -/
structure Decimal where
  digits : Nat
  exp : Int
  deriving DecidableEq, Repr

def narrowBelow (m : Nat) (q : Int) : Bool :=
  m == Nat.pow 2 52 && q > -1074

def readsBack (m : Nat) (q : Int) (d : Decimal) : Bool :=
  let lo := if narrowBelow m q then 4 * m - 1 else 4 * m - 2
  let hi := 4 * m + 2
  let incl := m % 2 == 0
  let dv := scale10 d.digits d.exp
  let cl := cmpFrac dv (scale2 lo (q - 2))
  let ch := cmpFrac dv (scale2 hi (q - 2))
  (cl == .gt || (incl && cl == .eq)) && (ch == .lt || (incl && ch == .eq))

def stripZeros (d : Decimal) : Decimal :=
  if h : d.digits ≠ 0 ∧ d.digits % 10 = 0 then stripZeros ⟨d.digits / 10, d.exp + 1⟩ else d
termination_by d.digits
decreasing_by exact Nat.div_lt_self (Nat.pos_of_ne_zero h.1) (by omega)

/-- The decimal on the grid `10^g` that reads back to `m * 2^q` and is nearest to it, if one of
the two neighbours of the value on that grid reads back. -/
def onGrid (m : Nat) (q : Int) (g : Int) : Option Decimal :=
  let (vn, vd) := scale2 m q
  let (gn, gd) := scale10 1 g
  let c := (vn * gd) / (vd * gn)
  let below : Decimal := ⟨c, g⟩
  let above : Decimal := ⟨c + 1, g⟩
  match readsBack m q below, readsBack m q above with
  | true, true =>
    match cmpFrac (2 * vn, vd) (scale10 (2 * c + 1) g) with
    | .lt => some below
    | .gt => some above
    | .eq => some (if c % 2 = 0 then below else above)
  | true, false => some below
  | false, true => some above
  | false, false => none

def shortest (m : Nat) (q : Int) : Decimal :=
  let (vn, vd) := scale2 m q
  let k := floorLog10 vn vd + 1
  match (List.range 17).findSome? fun i => onGrid m q (k - (i + 1 : Nat)) with
  | some d => stripZeros d
  | none => stripZeros (if 0 ≤ q then ⟨m * Nat.pow 2 q.toNat, 0⟩ else ⟨m * Nat.pow 5 (-q).toNat, q⟩)

def Binary64.fraction? : Binary64 → Option (Bool × Nat × Nat)
  | .finite neg m q => some (neg, scale2 m q)
  | _ => none

def Binary64.mulNat (x : Binary64) (k : Nat) : Binary64 :=
  match x with
  | .finite neg m q =>
    let (p, d) := scale2 (m * k) q
    nearest neg p d
  | .infinite neg => if k = 0 then .nan else .infinite neg
  | .nan => .nan

def Binary64.roundInt? : Binary64 → Option Int
  | .finite neg m q =>
    let (p, d) := scale2 m q
    let n := roundHalfEven p d
    some (if neg then -(n : Int) else n)
  | _ => none

def Binary64.below (x : Binary64) (k : Int) : Bool :=
  match x with
  | .finite neg m q =>
    let (p, d) := scale2 m q
    (if neg then -(p : Int) else p) < k * d
  | .infinite neg => neg
  | .nan => false

def Binary64.ratio? : Binary64 → Option (Int × Nat)
  | .finite neg m q =>
    let (p, d) := scale2 m q
    some (if neg then -(p : Int) else p, d)
  | _ => none

/-- Whether two values are equal as numbers: the two zeros are equal, an infinity equals the
infinity of its sign, and NaN equals nothing. -/
def Binary64.sameNumber (x y : Binary64) : Bool :=
  match x, y with
  | .infinite a, .infinite b => a == b
  | _, _ =>
    match x.ratio?, y.ratio? with
    | some (a, d), some (b, e) => a * e == b * d
    | _, _ => false

def Binary64.isInt (x : Binary64) (k : Int) : Bool :=
  match x.ratio? with
  | some (a, d) => a == k * d
  | none => false

def Binary64.isZero : Binary64 → Bool
  | .finite _ m _ => m == 0
  | _ => false

end UserDirectory.Number
