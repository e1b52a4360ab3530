import UserDirectory.Number.Layout
import UserDirectory.Json.Value

/-!
# Writing JSON

`Value.render` writes a value as compact JSON: no blanks, members in their stored order. Strings
escape the quote, the backslash and every control character, and every character beyond ASCII as
`\u` escapes (two for a character beyond the Basic Multilingual Plane, one for a surrogate standing
alone), so the text is ASCII.
Floating-point values are written with the fewest digits that read back: positionally for
leading-digit exponents from -4 to 15, a whole number with `.0`, otherwise with an exponent of at
least two digits (`1e+16`, `1e-05`); NaN and the infinities as `NaN`, `Infinity`, `-Infinity`.
-/

namespace UserDirectory.Json

open UserDirectory.Number

def jsonFloat : FloatLayout := ⟨-4, 16, true, 2, "NaN", "Infinity"⟩

def hexChar (n : Nat) : Char :=
  if n < 10 then Char.ofNat (48 + n) else Char.ofNat (87 + n)

def hex4 (n : Nat) : List Char :=
  [hexChar (n / 4096 % 16), hexChar (n / 256 % 16), hexChar (n / 16 % 16), hexChar (n % 16)]

def escapeChar (c : Char) : List Char :=
  let n := c.toNat
  if c = '"' then ['\\', '"']
  else if c = '\\' then ['\\', '\\']
  else if c = '\n' then ['\\', 'n']
  else if c = '\r' then ['\\', 'r']
  else if c = '\t' then ['\\', 't']
  else if n = 8 then ['\\', 'b']
  else if n = 12 then ['\\', 'f']
  else if n < 0x20 ∨ (0x7F ≤ n ∧ n < 0x10000) then '\\' :: 'u' :: hex4 n
  else if 0x10000 ≤ n then
    let v := n - 0x10000
    '\\' :: 'u' :: hex4 (0xD800 + v / 0x400) ++ '\\' :: 'u' :: hex4 (0xDC00 + v % 0x400)
  else [c]

/-- The escaped form of one code point inside a JSON string: a surrogate standing alone is a
`\u` escape of its own. -/
def escapePoint : CodePoint → List Char
  | .scalar c => escapeChar c
  | p => '\\' :: 'u' :: hex4 p.code

def quote (t : Text) : String :=
  String.ofList ('"' :: t.points.flatMap escapePoint ++ ['"'])

def intText (n : Int) : String :=
  (if n < 0 then "-" else "") ++ String.ofList (decimalText n.natAbs)

namespace Value

def encodable : Value → Bool
  | .str s => s.chars?.isSome
  | .arr items => items.attach.all fun ⟨v, _⟩ => encodable v
  | .obj members => members.attach.all fun ⟨m, h⟩ =>
    have : sizeOf m.2 < 1 + sizeOf members := sizeOf_member_lt h
    encodable m.2
  | _ => true

def render : Value → String
  | .null => "null"
  | .bool true => "true"
  | .bool false => "false"
  | .int n => intText n
  | .float x => jsonFloat.render x
  | .str s => quote s
  | .arr items => "[" ++ ",".intercalate (items.map render) ++ "]"
  | .obj members =>
    String.singleton (Char.ofNat 123) ++
      ",".intercalate (members.attach.map fun ⟨m, h⟩ =>
        have : sizeOf m.2 < 1 + sizeOf members := sizeOf_member_lt h
        quote (Text.ofString m.1) ++ ":" ++ render m.2) ++
      String.singleton (Char.ofNat 125)

end Value

end UserDirectory.Json
