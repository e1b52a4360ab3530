import UserDirectory.Number.Layout
import UserDirectory.Text.Given
import UserDirectory.Json.Write

/-!
# The display text of values

Claims and log fields turn any value into text. A string shows as itself; every other value shows
as its *literal*: `None`, `True`, `False`, the decimal integer, the shortest float (as in JSON,
but `nan`, `inf` and `-inf`), a quoted string, `[a, b]` for a list and `{k: v}` for an object,
members in their stored order.

A quoted string is the literal of its text (`UserDirectory.Text.literal`).

As an argument of an operation, a value is a `Given`: a string is its text, `null` is nothing, and
every other value is known by the name of its kind (`bool`, `int`, `float`, `list`, `dict`), whether
it counts as present, and its display.
-/

namespace UserDirectory.Json

open UserDirectory.Number UserDirectory.Text

def displayFloat : FloatLayout := ⟨-4, 16, true, 2, "nan", "inf"⟩

namespace Value

def literal : Value → String
  | .null => "None"
  | .bool true => "True"
  | .bool false => "False"
  | .int n => intText n
  | .float x => displayFloat.render x
  | .str s => s.literal
  | .arr items => "[" ++ ", ".intercalate (items.map literal) ++ "]"
  | .obj members =>
    String.singleton (Char.ofNat 123) ++
      ", ".intercalate (members.attach.map fun ⟨m, h⟩ =>
        have : sizeOf m.2 < 1 + sizeOf members := sizeOf_member_lt h
        quoteLiteral m.1 ++ ": " ++ literal m.2) ++
      String.singleton (Char.ofNat 125)

def display : Value → Text
  | .str s => s
  | v => Text.ofString v.literal

def displayOrEmpty (v : Value) : Text :=
  if v.truthy then v.display else Text.empty

@[simp] theorem displayOrEmpty_str (t : Text) : (Value.str t).displayOrEmpty = t := by
  by_cases h : t.isEmpty
  · simp [displayOrEmpty, truthy, Text.eq_empty_of_isEmpty h]
  · simp [displayOrEmpty, truthy, display, h]

@[simp] theorem displayOrEmpty_null : Value.null.displayOrEmpty = Text.empty := rfl

def kindName : Value → String
  | .null => "NoneType"
  | .bool _ => "bool"
  | .int _ => "int"
  | .float _ => "float"
  | .str _ => "str"
  | .arr _ => "list"
  | .obj _ => "dict"

def given : Value → Given
  | .str s => .text s
  | .null => .none
  | v => .other v.kindName v.truthy v.literal

@[simp] theorem given_str (t : Text) : (Value.str t).given = .text t := rfl

end Value

end UserDirectory.Json
