import UserDirectory.Text.Literal
import UserDirectory.Text.Digest

/-!
# Identifiers

A user id is a 128-bit number, written canonically as 32 lower-case hexadecimal digits in groups of
8, 4, 4, 4 and 12 joined by hyphens.

`Uuid.parse?` reads an id written more freely. Every `urn:` is removed, then every `uuid:`; then
the runs of braces at both ends and every hyphen. What is left must be exactly 32 characters and a
hexadecimal numeral: surrounding blanks (tab, line feed, vertical tab, form feed, carriage return,
space, and any blank beyond ASCII), an optional `+`, an optional `0x` or `0X` prefix that may be
followed by one underscore, then hexadecimal digits with single underscores between them. A
decimal digit of another script stands for its value.
-/

namespace UserDirectory.Ident

open UserDirectory.Text UserDirectory.Unicode

/-- A 128-bit identifier. -/
structure Uuid where
  value : Nat
  lt : value < Nat.pow 2 128

namespace Uuid

def ofNat (n : Nat) : Uuid := ⟨n % Nat.pow 2 128, Nat.mod_lt _ (by decide)⟩

def hex (u : Uuid) : String :=
  String.ofList ((List.range 32).reverse.map fun i => hexDigit (u.value / Nat.pow 16 i % 16))

def text (u : Uuid) : String :=
  let h := u.hex.toList
  String.ofList (h.take 8 ++ '-' :: (h.drop 8).take 4 ++ '-' :: (h.drop 12).take 4 ++
    '-' :: (h.drop 16).take 4 ++ '-' :: h.drop 20)

end Uuid

def dropUrn : List CodePoint → List CodePoint
  | .scalar 'u' :: .scalar 'r' :: .scalar 'n' :: .scalar ':' :: rest => dropUrn rest
  | c :: rest => c :: dropUrn rest
  | [] => []

def dropUuidTag : List CodePoint → List CodePoint
  | .scalar 'u' :: .scalar 'u' :: .scalar 'i' :: .scalar 'd' :: .scalar ':' :: rest => dropUuidTag rest
  | c :: rest => c :: dropUuidTag rest
  | [] => []

def isBrace (p : CodePoint) : Bool := p.code = 123 || p.code = 125

def isNumeralBlank (c : Char) : Bool :=
  c = ' ' || c = '\t' || c = '\n' || c.toNat = 11 || c.toNat = 12 || c = '\r'

/-- Characters beyond ASCII read as their ASCII stand-ins: a blank as a space, a decimal digit as
its ASCII digit; `none` when some other character lies beyond ASCII (DEL included). -/
def asciiNumeral? (ps : List CodePoint) : Option (List Char) :=
  ps.mapM fun p => p.char?.bind fun c =>
    if c.toNat < 0x7F then some c
    else if isBlank c then some ' '
    else (decimalValue? c).map fun d => Char.ofNat (48 + d)

def hexValue? (c : Char) : Option Nat :=
  if '0' ≤ c ∧ c ≤ '9' then some (c.toNat - 48)
  else if 'a' ≤ c ∧ c ≤ 'f' then some (c.toNat - 87)
  else if 'A' ≤ c ∧ c ≤ 'F' then some (c.toNat - 55)
  else none

/-- Reads hexadecimal digits with single underscores between them; `acc` is the value so far and
`afterUnderscore` says whether the previous character was an underscore. Returns the value, the
number of digits and the rest. -/
def readHexDigits (acc count : Nat) (afterUnderscore : Bool) :
    List Char → Option (Nat × Nat × List Char)
  | '_' :: rest => if afterUnderscore then none else readHexDigits acc count true rest
  | c :: rest =>
    match hexValue? c with
    | some d => readHexDigits (acc * 16 + d) (count + 1) false (rest)
    | none => if afterUnderscore then none else some (acc, count, c :: rest)
  | [] => if afterUnderscore then none else some (acc, count, [])

def readHexNumeral? (cs : List Char) : Option Nat :=
  let body := cs.dropWhile isNumeralBlank
  let body := match body with
    | '+' :: rest => rest
    | _ => body
  let body := match body with
    | '0' :: 'x' :: '_' :: rest => rest
    | '0' :: 'x' :: rest => rest
    | '0' :: 'X' :: '_' :: rest => rest
    | '0' :: 'X' :: rest => rest
    | _ => body
  match body with
  | '_' :: _ => none
  | _ =>
    match readHexDigits 0 0 false body with
    | some (v, count, rest) => if count ≠ 0 ∧ (rest.dropWhile isNumeralBlank).isEmpty then some v
      else none
    | none => none

/-- Why a text writes no identifier. -/
inductive UuidError where
  /-- After the removals the text does not have 32 code points. -/
  | badlyFormed
  /-- The 32 code points left are no hexadecimal numeral. -/
  | notHex (hex : Text)
  deriving DecidableEq, Repr

def UuidError.message : UuidError → String
  | .badlyFormed => "badly formed hexadecimal UUID string"
  | .notHex h => "invalid literal for int() with base 16: " ++ String.ofList (h.literal.toList.take 200)

/-- The part of a text that must be the 32 digits: every `urn:` and `uuid:`, the braces at both
ends and every hyphen removed. -/
def Uuid.digitPart (t : Text) : List CodePoint :=
  (stripBy isBrace (dropUuidTag (dropUrn t.points))).filter (· ≠ .scalar '-')

def Uuid.ofText (t : Text) : Except UuidError Uuid :=
  let s := Uuid.digitPart t
  if s.length ≠ 32 then .error .badlyFormed
  else
    match asciiNumeral? s >>= readHexNumeral? with
    | some v => if h : v < Nat.pow 2 128 then .ok ⟨v, h⟩ else .error (.notHex ⟨s⟩)
    | none => .error (.notHex ⟨s⟩)

end UserDirectory.Ident
