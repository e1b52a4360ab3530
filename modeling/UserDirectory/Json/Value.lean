import UserDirectory.Number.Binary
import UserDirectory.Text.Basic

/-!
# JSON values

A JSON value as the service reads and writes it. Integers and floating-point numbers are told
apart by how they were written: a number with a fraction or an exponent is a `Binary64`. An object
keeps its members in the order of their first appearance; a key written twice keeps its first
place and its last value. A string is a `Text`, so it may hold surrogates standing alone; keys are
strings.
-/

namespace UserDirectory.Json

open UserDirectory.Number

/-- A JSON value. -/
inductive Value where
  | null
  | bool (b : Bool)
  | int (n : Int)
  | float (x : Binary64)
  | str (s : Text)
  | arr (items : List Value)
  | obj (members : List (String × Value))
  deriving Inhabited

namespace Value

def get? (v : Value) (key : String) : Option Value :=
  match v with
  | .obj members => members.lookup key
  | _ => none

def getD (v : Value) (key : String) : Value :=
  (v.get? key).getD .null

/-- Whether a value counts as present: `null`, `false`, zero, the empty string, the empty list and
the empty object do not. -/
def truthy : Value → Bool
  | .null => false
  | .bool b => b
  | .int n => n != 0
  | .float x => !x.isZero
  | .str s => !s.isEmpty
  | .arr items => !items.isEmpty
  | .obj members => !members.isEmpty

def str? : Value → Option Text
  | .str s => some s
  | _ => none

def ofString (s : String) : Value := .str (Text.ofString s)

def setMember (members : List (String × Value)) (key : String) (v : Value) :
    List (String × Value) :=
  if members.any (·.1 == key) then members.map fun m => if m.1 == key then (key, v) else m
  else members ++ [(key, v)]

theorem sizeOf_member_lt {members : List (String × Value)} {m : String × Value}
    (h : m ∈ members) : sizeOf m.2 < 1 + sizeOf members := by
  have := List.sizeOf_lt_of_mem h
  cases m
  simp at this ⊢
  omega

end Value

end UserDirectory.Json
