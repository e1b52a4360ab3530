import UserDirectory.Number.Binary
import UserDirectory.Json.Value

/-!
# Reading JSON

The grammar of RFC 8259 with three more literals, `NaN`, `Infinity` and `-Infinity`, read as
floating-point values, over the code points of a text. Blanks between tokens are the space, tab,
line feed and carriage return. A string may not hold a raw control character; a raw surrogate
stands for itself, an escaped surrogate pair gives one character, and an escaped surrogate that
stands alone stays a code point of the text. An object key is kept as a
string, with U+FFFD for such a surrogate. A number is an integer unless it has a fraction or an
exponent; an integer of more than 4300 digits is refused with its own error. Nothing but blanks
may follow the value.

Nested reading carries a fuel bound that the top level sets from the length of the text, so every
call consumes fuel and the reader is total.
-/

namespace UserDirectory.Json

open UserDirectory.Number

/-- Why a text is not read as a JSON value. -/
inductive ReadError where
  | malformed
  | tooManyDigits
  deriving DecidableEq, Repr

def isJsonBlank (c : Char) : Bool :=
  c = ' ' || c = '\t' || c = '\n' || c = '\r'

def isBlankPoint : CodePoint → Bool
  | .scalar c => isJsonBlank c
  | .surrogate _ => false

def skipBlanks (ps : List CodePoint) : List CodePoint :=
  ps.dropWhile isBlankPoint

def hex4? (a b c d : Char) : Option Nat :=
  let v := fun (x : Char) =>
    if '0' ≤ x ∧ x ≤ '9' then some (x.toNat - 48)
    else if 'a' ≤ x ∧ x ≤ 'f' then some (x.toNat - 87)
    else if 'A' ≤ x ∧ x ≤ 'F' then some (x.toNat - 55)
    else none
  match v a, v b, v c, v d with
  | some w, some x, some y, some z => some (((w * 16 + x) * 16 + y) * 16 + z)
  | _, _, _, _ => none

def isHighSurrogate (n : Nat) : Bool := 0xD800 ≤ n && n ≤ 0xDBFF

def isLowSurrogate (n : Nat) : Bool := 0xDC00 ≤ n && n ≤ 0xDFFF

/-- Reads the rest of a string after its opening quote; `acc` holds the code points so far,
reversed. A code point that is not escaped stands for itself, a surrogate included, unless it is
a control character. -/
def readString (acc : List CodePoint) : List CodePoint → Except ReadError (Text × List CodePoint)
  | [] => .error .malformed
  | .scalar '"' :: rest => .ok (⟨acc.reverse⟩, rest)
  | .scalar '\\' :: .scalar 'u' :: .scalar a :: .scalar b :: .scalar c :: .scalar d ::
      .scalar '\\' :: .scalar 'u' :: .scalar e :: .scalar f :: .scalar g :: .scalar h :: rest =>
    let second :=
      .scalar '\\' :: .scalar 'u' :: .scalar e :: .scalar f :: .scalar g :: .scalar h :: rest
    match hex4? a b c d, hex4? e f g h with
    | none, _ => .error .malformed
    | some hi, none =>
      if isHighSurrogate hi then .error .malformed
      else readString (CodePoint.ofNat hi :: acc) second
    | some hi, some lo =>
      if isHighSurrogate hi ∧ isLowSurrogate lo then
        readString (.scalar (Char.ofNat (0x10000 + (hi - 0xD800) * 0x400 + (lo - 0xDC00))) :: acc)
          rest
      else readString (CodePoint.ofNat hi :: acc) second
  | .scalar '\\' :: .scalar 'u' :: .scalar a :: .scalar b :: .scalar c :: .scalar d :: rest =>
    match hex4? a b c d with
    | none => .error .malformed
    | some n => readString (CodePoint.ofNat n :: acc) rest
  | .scalar '\\' :: .scalar c :: rest =>
    match c with
    | '"' => readString (.scalar '"' :: acc) rest
    | '\\' => readString (.scalar '\\' :: acc) rest
    | '/' => readString (.scalar '/' :: acc) rest
    | 'b' => readString (.scalar (Char.ofNat 8) :: acc) rest
    | 'f' => readString (.scalar (Char.ofNat 12) :: acc) rest
    | 'n' => readString (.scalar '\n' :: acc) rest
    | 'r' => readString (.scalar '\r' :: acc) rest
    | 't' => readString (.scalar '\t' :: acc) rest
    | _ => .error .malformed
  | .scalar '\\' :: .surrogate _ :: _ => .error .malformed
  | .scalar c :: rest =>
    if c.toNat < 0x20 then .error .malformed else readString (.scalar c :: acc) rest
  | .surrogate o :: rest => readString (.surrogate o :: acc) rest
termination_by ps => ps.length

def isDigit (c : Char) : Bool := '0' ≤ c && c ≤ '9'

def digitsValue (ds : List Char) : Nat :=
  ds.foldl (fun n c => n * 10 + (c.toNat - 48)) 0

/-- Reads a number: an optional minus, an integer part without leading zeros, an optional
fraction and an optional exponent (given up when it has no digits). -/
def readNumber (cs : List Char) : Except ReadError (Value × List Char) :=
  let (neg, body) := match cs with
    | '-' :: rest => (true, rest)
    | _ => (false, cs)
  let (intPart, afterInt) : List Char × List Char := match body with
    | '0' :: rest => (['0'], rest)
    | c :: rest => if '1' ≤ c ∧ c ≤ '9' then
        (c :: rest.takeWhile isDigit, rest.dropWhile isDigit) else ([], body)
    | [] => ([], [])
  if intPart.isEmpty then .error .malformed
  else
    let (frac, afterFrac) : List Char × List Char := match afterInt with
      | '.' :: d :: rest => if isDigit d then
          (d :: rest.takeWhile isDigit, rest.dropWhile isDigit) else ([], afterInt)
      | _ => ([], afterInt)
    let (expPart, afterExp) : Option Int × List Char := match afterFrac with
      | e :: rest =>
        if e = 'e' ∨ e = 'E' then
          let (sign, digits) : Int × List Char := match rest with
            | '+' :: r => (1, r)
            | '-' :: r => (-1, r)
            | r => (1, r)
          let ds := digits.takeWhile isDigit
          if ds.isEmpty then (none, afterFrac)
          else (some (sign * digitsValue ds), digits.dropWhile isDigit)
        else (none, afterFrac)
      | [] => (none, [])
    if frac.isEmpty ∧ expPart.isNone then
      if 4300 < intPart.length then .error .tooManyDigits
      else
        let n : Int := digitsValue intPart
        .ok (.int (if neg then -n else n), afterFrac)
    else
      let digits := digitsValue (intPart ++ frac)
      let exp := expPart.getD 0 - frac.length
      .ok (.float (ofDecimal neg digits exp), afterExp)

def isNumberPoint : CodePoint → Bool
  | .scalar c => isDigit c || c = '-' || c = '+' || c = '.' || c = 'e' || c = 'E'
  | .surrogate _ => false

def readNumberAt (ps : List CodePoint) : Except ReadError (Value × List CodePoint) :=
  let cs := (ps.takeWhile isNumberPoint).filterMap CodePoint.char?
  match readNumber cs with
  | .error e => .error e
  | .ok (v, rest) => .ok (v, ps.drop (cs.length - rest.length))

mutual

def readValue : Nat → List CodePoint → Except ReadError (Value × List CodePoint)
  | 0, _ => .error .malformed
  | fuel + 1, cs =>
    match cs with
    | .scalar '{' :: rest =>
      match skipBlanks rest with
      | .scalar '}' :: rest' => .ok (.obj [], rest')
      | rest' => readMembers fuel [] rest'
    | .scalar '[' :: rest =>
      match skipBlanks rest with
      | .scalar ']' :: rest' => .ok (.arr [], rest')
      | rest' => readItems fuel [] rest'
    | .scalar '"' :: rest => (readString [] rest).map fun (s, r) => (.str s, r)
    | .scalar 'n' :: .scalar 'u' :: .scalar 'l' :: .scalar 'l' :: rest => .ok (.null, rest)
    | .scalar 't' :: .scalar 'r' :: .scalar 'u' :: .scalar 'e' :: rest => .ok (.bool true, rest)
    | .scalar 'f' :: .scalar 'a' :: .scalar 'l' :: .scalar 's' :: .scalar 'e' :: rest =>
      .ok (.bool false, rest)
    | .scalar 'N' :: .scalar 'a' :: .scalar 'N' :: rest => .ok (.float .nan, rest)
    | .scalar 'I' :: .scalar 'n' :: .scalar 'f' :: .scalar 'i' :: .scalar 'n' :: .scalar 'i' ::
        .scalar 't' :: .scalar 'y' :: rest =>
      .ok (.float (.infinite false), rest)
    | .scalar '-' :: .scalar 'I' :: .scalar 'n' :: .scalar 'f' :: .scalar 'i' :: .scalar 'n' ::
        .scalar 'i' :: .scalar 't' :: .scalar 'y' :: rest =>
      .ok (.float (.infinite true), rest)
    | _ => readNumberAt cs

def readMembers : Nat → List (String × Value) → List CodePoint →
    Except ReadError (Value × List CodePoint)
  | 0, _, _ => .error .malformed
  | fuel + 1, acc, cs =>
    match cs with
    | .scalar '"' :: rest =>
      match readString [] rest with
      | .error e => .error e
      | .ok (keyText, afterKey) =>
        let key := keyText.toStringLossy
        match skipBlanks afterKey with
        | .scalar ':' :: afterColon =>
          match readValue fuel (skipBlanks afterColon) with
          | .error e => .error e
          | .ok (v, afterValue) =>
            let acc' := Value.setMember acc key v
            match skipBlanks afterValue with
            | .scalar ',' :: more => readMembers fuel acc' (skipBlanks more)
            | .scalar '}' :: more => .ok (.obj acc', more)
            | _ => .error .malformed
        | _ => .error .malformed
    | _ => .error .malformed

def readItems : Nat → List Value → List CodePoint → Except ReadError (Value × List CodePoint)
  | 0, _, _ => .error .malformed
  | fuel + 1, acc, cs =>
    match readValue fuel cs with
    | .error e => .error e
    | .ok (v, afterValue) =>
      match skipBlanks afterValue with
      | .scalar ',' :: more => readItems fuel (v :: acc) (skipBlanks more)
      | .scalar ']' :: more => .ok (.arr (v :: acc).reverse, more)
      | _ => .error .malformed

end

def parseText (t : Text) : Except ReadError Value :=
  let ps := t.points
  match readValue (3 * ps.length + 3) (skipBlanks ps) with
  | .error e => .error e
  | .ok (v, rest) => if (skipBlanks rest).isEmpty then .ok v else .error .malformed

def parse (s : String) : Except ReadError Value :=
  parseText (Text.ofString s)

end UserDirectory.Json
