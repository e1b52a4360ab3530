import UserDirectory.Unicode.Table
import UserDirectory.Unicode.CategoryData

/-!
# General category, character names and decimal digits

The address rules look at a character's general category only coarsely: letters, numbers,
punctuation and symbols are *graphic*, combining marks are *marks*, and separators, controls,
format characters, surrogates, private-use and unassigned code points are *other*.

A character is *printable* when it is graphic, a mark, or the space: the text form of a string
escapes every other character.

Decimal digits (general category Nd) come in runs of ten code points with values `0` to `9`;
`decimalValue?` reads a digit's value off the start of its run.
-/

namespace UserDirectory.Unicode

/-- The coarse general category of a character. -/
inductive CategoryClass where
  | graphic
  | mark
  | other
  deriving DecidableEq, Repr

def categoryTable : RangeTable := ⟨categoryStarts, categoryValues⟩

def categoryClass (c : Char) : CategoryClass :=
  match categoryTable.get c.toNat with
  | 0 => .graphic
  | 1 => .mark
  | _ => .other

def isMark (c : Char) : Bool :=
  categoryClass c == .mark

def isPrintable (c : Char) : Bool :=
  c == ' ' || categoryClass c != .other

def namedTable : RangeTable := RangeTable.ofText namedText

def hasName (c : Char) : Bool :=
  namedTable.contains c.toNat

def decimalStarts : Array Nat := startsOfText decimalStartsText

def decimalValue? (c : Char) : Option Nat :=
  match countAtMost decimalStarts c.toNat 0 decimalStarts.size with
  | 0 => none
  | k + 1 =>
    let d := c.toNat - decimalStarts.getD k 0
    if d < 10 then some d else none

end UserDirectory.Unicode
