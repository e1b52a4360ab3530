import UserDirectory.Number.Binary

/-!
# Writing floating-point values

A `FloatLayout` says how the shortest decimal of a value (`UserDirectory.Number.shortest`) is
written: which exponents of the leading digit are written positionally, whether a whole number
keeps `.0`, how many digits the exponent has at least, and the texts of NaN and infinity. The
exponent is written with `e` and always with its sign.
-/

namespace UserDirectory.Number

/-- The layout decisions of one output format. -/
structure FloatLayout where
  /-- leading-digit exponents `e` with `plainFrom ≤ e < plainBelow` are written positionally -/
  plainFrom : Int
  plainBelow : Int
  /-- a positional whole number ends in `.0` -/
  pointZero : Bool
  /-- least number of exponent digits -/
  expWidth : Nat
  nanText : String
  infText : String

def decimalText (n : Nat) : List Char :=
  Nat.toDigits 10 n

def padLeft (w : Nat) (cs : List Char) : List Char :=
  List.replicate (w - cs.length) '0' ++ cs

def FloatLayout.layout (L : FloatLayout) (ds : List Char) (e : Int) : List Char :=
  let n := ds.length
  if L.plainFrom ≤ e ∧ e < L.plainBelow then
    let point := e + 1
    if point ≤ 0 then '0' :: '.' :: List.replicate (-point).toNat '0' ++ ds
    else if n ≤ point.toNat then
      ds ++ List.replicate (point.toNat - n) '0' ++ (if L.pointZero then ['.', '0'] else [])
    else ds.take point.toNat ++ '.' :: ds.drop point.toNat
  else
    let mantissa := match ds with
      | [] => ['0']
      | [d] => [d]
      | d :: rest => d :: '.' :: rest
    mantissa ++ 'e' :: (if e < 0 then '-' else '+') :: padLeft L.expWidth (decimalText e.natAbs)

def FloatLayout.render (L : FloatLayout) : Binary64 → String
  | .nan => L.nanText
  | .infinite neg => (if neg then "-" else "") ++ L.infText
  | .finite neg m q =>
    let sign := if neg then "-" else ""
    if m = 0 then sign ++ String.ofList (L.layout ['0'] 0)
    else
      let d := shortest m q
      let ds := decimalText d.digits
      sign ++ String.ofList (L.layout ds (d.exp + ds.length - 1))

end UserDirectory.Number
