import UserDirectory.Text.Basic
import UserDirectory.Unicode.Category

/-!
# Text literals

The literal of a text is how error messages quote it. It uses single quotes, or double quotes
when the text holds a single quote and no double quote. It escapes the backslash and the quote it
uses, writes tab, line feed and carriage return as `\t`, `\n`, `\r`, other ASCII controls and DEL
as `\x` and two hex digits, and a code point beyond ASCII that is not printable (a surrogate
included) as `\x`, `\u` or `\U` with two, four or eight hex digits.
-/

namespace UserDirectory.Text

open UserDirectory.Unicode

def lowerHexDigit (n : Nat) : Char :=
  if n < 10 then Char.ofNat (48 + n) else Char.ofNat (87 + n)

def hexDigits (k n : Nat) : List Char :=
  (List.range k).reverse.map fun i => lowerHexDigit (n / Nat.pow 16 i % 16)

def hexEscape (n : Nat) : List Char :=
  if n ≤ 0xFF then '\\' :: 'x' :: hexDigits 2 n
  else if n ≤ 0xFFFF then '\\' :: 'u' :: hexDigits 4 n
  else '\\' :: 'U' :: hexDigits 8 n

def showChar (q : Char) (c : Char) : List Char :=
  let n := c.toNat
  if c = q ∨ c = '\\' then ['\\', c]
  else if c = '\t' then ['\\', 't']
  else if c = '\n' then ['\\', 'n']
  else if c = '\r' then ['\\', 'r']
  else if n < 0x20 ∨ n = 0x7F then '\\' :: 'x' :: hexDigits 2 n
  else if n < 0x7F then [c]
  else if isPrintable c then [c]
  else hexEscape n

def showPoint (q : Char) : CodePoint → List Char
  | .scalar c => showChar q c
  | p => hexEscape p.code

def literal (t : Text) : String :=
  let q := if t.containsChar (Char.ofNat 39) && !t.containsChar '"' then '"' else Char.ofNat 39
  String.ofList (q :: t.points.flatMap (showPoint q) ++ [q])

def Unencodable.message (e : Unencodable) : String :=
  if e.stop = e.start + 1 then
    "'utf-8' codec can't encode character '" ++ String.ofList (hexEscape e.code) ++
      "' in position " ++ toString e.start ++ ": surrogates not allowed"
  else
    "'utf-8' codec can't encode characters in position " ++ toString e.start ++ "-" ++
      toString (e.stop - 1) ++ ": surrogates not allowed"

def quoteLiteral (s : String) : String :=
  (Text.ofString s).literal

end UserDirectory.Text
