import UserDirectory.Number.Binary
import UserDirectory.Text.Basic
import UserDirectory.Unicode.Category

/-!
# Reading a double from text

A text reads as a double the way a numeral typed by a person does.

1. Every code point beyond ASCII is replaced by its ASCII stand-in: a blank by a space, a decimal
   digit of any script by its ASCII digit. Any other code point beyond ASCII, DEL and every
   surrogate included, makes the text no numeral.
2. An underscore must stand between two digits; the underscores are then dropped.
3. The ASCII blanks at both ends (space, tab, line feed, vertical tab, form feed, carriage return)
   are dropped.
4. What is left is an optional sign and then `inf`, `infinity` or `nan` in any case, or digits with
   an optional point and more digits (at least one digit in all), optionally followed by `e` or
   `E`, an optional sign and at least one digit. The decimal is rounded to the nearest double
   (`ofDecimal`); beyond the range of doubles it is an infinity.
-/

namespace UserDirectory.Number

open UserDirectory.Text UserDirectory.Unicode

/-- The ASCII stand-in of a code point of a numeral: ASCII below DEL as itself, a blank as a
space, a decimal digit of any script as its ASCII digit, and nothing for any other code point. -/
def asciiStandIn : CodePoint → Option Char
  | .scalar c =>
    if c.toNat < 0x7F then some c
    else if isBlank c then some ' '
    else (decimalValue? c).map fun d => Char.ofNat (48 + d)
  | .surrogate _ => none

def isNumeralBlank (c : Char) : Bool :=
  c = ' ' || c = '\t' || c = '\n' || c.toNat = 11 || c.toNat = 12 || c = '\r'

def underscoresBetweenDigits : List Char → Bool
  | a :: '_' :: b :: rest => a.isDigit && b.isDigit && underscoresBetweenDigits (b :: rest)
  | '_' :: _ => false
  | _ :: rest => underscoresBetweenDigits rest
  | [] => true

def numeralValue (ds : List Char) : Nat :=
  ds.foldl (fun acc d => acc * 10 + (d.toNat - 48)) 0

def readExponent? : List Char → Option Int
  | [] => some 0
  | e :: rest =>
    if e = 'e' || e = 'E' then
      let (neg, ds) := match rest with
        | '-' :: ds => (true, ds)
        | '+' :: ds => (false, ds)
        | ds => (false, ds)
      if !ds.isEmpty && ds.all Char.isDigit then
        some (if neg then -(numeralValue ds : Int) else numeralValue ds)
      else none
    else none

def readDecimal? (cs : List Char) : Option (Nat × Int) :=
  let whole := cs.takeWhile Char.isDigit
  let (frac, rest) := match cs.dropWhile Char.isDigit with
    | '.' :: r => (r.takeWhile Char.isDigit, r.dropWhile Char.isDigit)
    | r => ([], r)
  if whole.isEmpty && frac.isEmpty then none
  else (readExponent? rest).map fun e => (numeralValue (whole ++ frac), e - frac.length)

def asciiLower (c : Char) : Char :=
  if 'A' ≤ c && c ≤ 'Z' then Char.ofNat (c.toNat + 32) else c

def readUnsigned? (neg : Bool) (cs : List Char) : Option Binary64 :=
  let word := String.ofList (cs.map asciiLower)
  if word = "inf" || word = "infinity" then some (.infinite neg)
  else if word = "nan" then some .nan
  else (readDecimal? cs).map fun (ds, e) => ofDecimal neg ds e

def readDouble? (t : Text) : Option Binary64 := do
  let cs ← t.points.mapM asciiStandIn
  if !underscoresBetweenDigits cs then none
  let cs := stripBy isNumeralBlank (cs.filter (· ≠ '_'))
  match cs with
  | '-' :: rest => readUnsigned? true rest
  | '+' :: rest => readUnsigned? false rest
  | rest => readUnsigned? false rest

end UserDirectory.Number
