import UserDirectory.Unicode.Table
import UserDirectory.Unicode.NormalData

/-!
# Canonical composition (NFC)

`nfc` brings a text into Normalization Form C: every character is replaced by its full canonical
decomposition, each run of non-starters (characters of nonzero combining class) is sorted stably by
combining class, and then every character that is not blocked from the last starter and forms a
primary composite with it is composed into it. A character is blocked from the starter when a
character between them has combining class zero or at least its own.

Hangul syllables decompose and compose by arithmetic: a leading consonant and a vowel form an LV
syllable, and an LV syllable and a trailing consonant an LVT syllable.
-/

namespace UserDirectory.Unicode

def combiningTable : RangeTable := ⟨combiningStarts, combiningValues⟩

def combiningClass (n : Nat) : Nat := combiningTable.get n

/-- Code points with their full canonical decompositions. -/
structure DecompositionTable where
  keys : Array Nat
  values : Array (List Nat)

def decompositionTable : DecompositionTable := ⟨decompositionKeys, decompositionValues⟩

/-- The primary composites, keyed by `first * 2^21 + second`. -/
structure CompositionTable where
  keys : Array Nat
  values : Array Nat

def pairKey (a b : Nat) : Nat := a * 0x200000 + b

def compositionTable : CompositionTable := ⟨compositionKeys, compositionValues⟩

def indexOf? (xs : Array Nat) (x : Nat) : Option Nat :=
  match countAtMost xs x 0 xs.size with
  | 0 => none
  | k + 1 => if xs.getD k 0 = x then some k else none

def hangulBase : Nat := 0xAC00

def hangulCount : Nat := 11172

def decomposeOne (n : Nat) : List Nat :=
  if hangulBase ≤ n ∧ n < hangulBase + hangulCount then
    let s := n - hangulBase
    let l := 0x1100 + s / 588
    let v := 0x1161 + (s % 588) / 28
    let t := s % 28
    if t = 0 then [l, v] else [l, v, 0x11A7 + t]
  else
    match indexOf? decompositionTable.keys n with
    | some k => decompositionTable.values.getD k [n]
    | none => [n]

/-- Sorts each run of non-starters stably by combining class; `run` holds the current run
reversed. -/
def reorder (run : List Nat) : List Nat → List Nat
  | [] => (run.reverse.mergeSort fun a b => combiningClass a ≤ combiningClass b)
  | n :: ns =>
    if combiningClass n = 0 then
      (run.reverse.mergeSort fun a b => combiningClass a ≤ combiningClass b) ++ n :: reorder [] ns
    else reorder (n :: run) ns

def composePair? (a b : Nat) : Option Nat :=
  if 0x1100 ≤ a ∧ a < 0x1113 ∧ 0x1161 ≤ b ∧ b < 0x1176 then
    some (hangulBase + ((a - 0x1100) * 21 + (b - 0x1161)) * 28)
  else if hangulBase ≤ a ∧ a < hangulBase + hangulCount ∧ (a - hangulBase) % 28 = 0 ∧
      0x11A7 < b ∧ b < 0x11C3 then
    some (a + (b - 0x11A7))
  else
    match indexOf? compositionTable.keys (pairKey a b) with
    | some k => compositionTable.values[k]?
    | none => none

/-- Canonical composition. `starter` is the last starter, still open; `marks` holds the characters
after it, reversed; `done` holds the finished output, reversed. -/
def composeFrom (starter : Option Nat) (marks done : List Nat) : List Nat → List Nat
  | [] =>
    match starter with
    | some s => (marks ++ s :: done).reverse
    | none => (marks ++ done).reverse
  | n :: ns =>
    let cc := combiningClass n
    let unblocked := match marks with
      | [] => true
      | m :: _ => combiningClass m < cc
    match starter with
    | some s =>
      match (if unblocked then composePair? s n else none) with
      | some t => composeFrom (some t) marks done ns
      | none =>
        if cc = 0 then composeFrom (some n) [] (marks ++ s :: done) ns
        else composeFrom (some s) (n :: marks) done ns
    | none =>
      if cc = 0 then composeFrom (some n) [] done ns
      else composeFrom none [] (n :: done) ns

def nfcCodes (ns : List Nat) : List Nat :=
  composeFrom none [] [] (reorder [] (ns.flatMap decomposeOne))

def nfcList (cs : List Char) : List Char :=
  (nfcCodes (cs.map Char.toNat)).map Char.ofNat

def nfc (s : String) : String :=
  String.ofList (nfcList s.toList)

end UserDirectory.Unicode
