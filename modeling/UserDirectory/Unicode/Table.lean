/-!
# Code point tables

The tables that proofs look up are kept as arrays. The others are kept as text: space-separated
tokens whose fields are hexadecimal numbers, each table read once into arrays.

A *range table* gives every code point the value of the last range that starts at or below it; a
code point below the first start has value `0`. Its lookup is a binary search over the starts, which
are strictly increasing because every gap after the first is positive.
-/

namespace UserDirectory.Unicode

def hexValue? (c : Char) : Option Nat :=
  if '0' ≤ c ∧ c ≤ '9' then some (c.toNat - '0'.toNat)
  else if 'A' ≤ c ∧ c ≤ 'F' then some (c.toNat - 'A'.toNat + 10)
  else if 'a' ≤ c ∧ c ≤ 'f' then some (c.toNat - 'a'.toNat + 10)
  else none

def readHex (cs : List Char) : Nat :=
  cs.foldl (fun n c => n * 16 + (hexValue? c).getD 0) 0

def splitAt (sep : Char) (cs : List Char) : List (List Char) :=
  go cs [] []
where
  /-- `cur` holds the current piece reversed, `acc` the finished pieces reversed. -/
  go : List Char → List Char → List (List Char) → List (List Char)
    | [], cur, acc => (cur.reverse :: acc).reverse
    | c :: cs, cur, acc => if c = sep then go cs [] (cur.reverse :: acc) else go cs (c :: cur) acc

def tokens (sep : Char) (text : String) : List (List (List Char)) :=
  ((splitAt ' ' text.toList).filter (fun t => !t.isEmpty)).map (splitAt sep)

/-- How many of the entries of `xs` in `[lo, hi)` are at most `x`, plus `lo`; for a sorted
array this is the number of entries at most `x`. -/
def countAtMost (xs : Array Nat) (x : Nat) (lo hi : Nat) : Nat :=
  if lo < hi then
    let mid := (lo + hi) / 2
    if xs.getD mid 0 ≤ x then countAtMost xs x (mid + 1) hi else countAtMost xs x lo mid
  else lo
termination_by hi - lo

/-- Ranges of code points with a value each: range `i` starts at `starts[i]`. -/
structure RangeTable where
  starts : Array Nat
  values : Array Nat

namespace RangeTable

def ofText (text : String) : RangeTable :=
  let step := fun (acc : Nat × Array Nat × Array Nat) (fields : List (List Char)) =>
    let start := acc.1 + readHex (fields.headD [])
    (start, acc.2.1.push start, acc.2.2.push (readHex (fields.getD 1 [])))
  let (_, starts, values) := (tokens ':' text).foldl step (0, #[], #[])
  ⟨starts, values⟩

def get (t : RangeTable) (n : Nat) : Nat :=
  match countAtMost t.starts n 0 t.starts.size with
  | 0 => 0
  | k + 1 => t.values.getD k 0

def contains (t : RangeTable) (n : Nat) : Bool :=
  t.get n == 1

end RangeTable

def startsOfText (text : String) : Array Nat :=
  let step := fun (acc : Nat × Array Nat) (fields : List (List Char)) =>
    let start := acc.1 + readHex (fields.headD [])
    (start, acc.2.push start)
  ((tokens ':' text).foldl step (0, #[])).2

end UserDirectory.Unicode
