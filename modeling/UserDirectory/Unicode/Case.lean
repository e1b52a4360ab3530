import UserDirectory.Unicode.Table
import UserDirectory.Unicode.CaseData

/-!
# Full lower-casing

`lower` maps every character to its full lower case: a character may become several
(U+0130 becomes `i` followed by U+0307). Capital sigma U+03A3 becomes final sigma U+03C2 in the
Final_Sigma context, where the nearest character before it that is not case-ignorable is cased and
the nearest such character after it, if any, is not; elsewhere it becomes U+03C3.
-/

namespace UserDirectory.Unicode

def lowerRunStarts : Array Nat := lowerRuns.map (·.start)

def caseIgnorableTable : RangeTable := RangeTable.ofText caseIgnorableText

def casedTable : RangeTable := RangeTable.ofText casedText

def isCaseIgnorable (c : Char) : Bool := caseIgnorableTable.contains c.toNat

def isCased (c : Char) : Bool := casedTable.contains c.toNat

def lowerOne? (n : Nat) : Option Nat :=
  match countAtMost lowerRunStarts n 0 lowerRunStarts.size with
  | 0 => none
  | k + 1 =>
    match lowerRuns[k]? with
    | none => none
    | some r =>
      let off := n - r.start
      if r.step ≠ 0 ∧ off % r.step = 0 ∧ off / r.step < r.count then
        some (n + r.delta).toNat
      else none

def lowerChar (c : Char) : List Char :=
  match lowerSpecial.lookup c.toNat with
  | some ns => ns.map Char.ofNat
  | none =>
    match lowerOne? c.toNat with
    | some n => [Char.ofNat n]
    | none => [c]

/-- Whether the characters after a capital sigma end a word: after any case-ignorable ones comes
the end or a character that is not cased. -/
def endsWord (rest : List Char) : Bool :=
  match rest.dropWhile isCaseIgnorable with
  | [] => true
  | c :: _ => !isCased c

/-- Lower-cases `cs`; `afterCased` says whether the nearest character before it that is not
case-ignorable is cased. -/
def lowerFrom (afterCased : Bool) : List Char → List Char
  | [] => []
  | c :: cs =>
    let here :=
      if c.toNat = 0x3A3 then
        if afterCased && endsWord cs then ['ς'] else ['σ']
      else lowerChar c
    let afterCased' := if isCaseIgnorable c then afterCased else isCased c
    here ++ lowerFrom afterCased' cs

def lowerList (cs : List Char) : List Char :=
  lowerFrom false cs

def lower (s : String) : String :=
  String.ofList (lowerList s.toList)

end UserDirectory.Unicode
