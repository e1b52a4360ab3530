import UserDirectory.Unicode.Table
import UserDirectory.Unicode.BidiData

/-!
# Bidirectional classes

The bidirectional class of every code point, as the Unicode Character Database gives it. A code
point without a class (unassigned ones) has class `unknown`.
-/

namespace UserDirectory.Unicode

/-- Bidirectional character types. -/
inductive BidiClass where
  | unknown
  | L | R | AL | EN | ES | ET | AN | CS | NSM | BN | B | S | WS | ON
  | LRE | LRO | RLE | RLO | PDF | LRI | RLI | FSI | PDI
  deriving DecidableEq, Repr

namespace BidiClass

def ordered : Array BidiClass :=
  #[unknown, L, R, AL, EN, ES, ET, AN, CS, NSM, BN, B, S, WS, ON,
    LRE, LRO, RLE, RLO, PDF, LRI, RLI, FSI, PDI]

end BidiClass

def bidiTable : RangeTable := ⟨bidiStarts, bidiValues⟩

def bidiClass (c : Char) : BidiClass :=
  BidiClass.ordered.getD (bidiTable.get c.toNat) .unknown

end UserDirectory.Unicode
