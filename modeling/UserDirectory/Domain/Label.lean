import UserDirectory.Unicode.Table
import UserDirectory.Unicode.Category
import UserDirectory.Unicode.Bidi
import UserDirectory.Unicode.Normal
import UserDirectory.Domain.ValidityData
import UserDirectory.Domain.Punycode

/-!
# Labels of internationalized domain names

A label is *valid* (IDNA2008, RFC 5891 to 5893) when it is not empty, at most 254 characters long,
in Normalization Form C, has no hyphen at its ends or in both its third and fourth places, does not
start with a combining mark, every character is PVALID or is a CONTEXTJ or CONTEXTO character whose
context rule holds, and it satisfies the Bidi rule.

`toUnicode?` reads a label as it may appear in an ASCII domain name: an `xn--` label is Punycode to
decode, any other label is lower-cased; the result must be valid. `toAscii?` writes a label for an
ASCII domain name: an ASCII label stays as it is (after checking it reads back), any other label
becomes `xn--` and its Punycode; the result has at most 63 characters.
-/

namespace UserDirectory.Domain

open UserDirectory.Unicode

def pvalidTable : RangeTable := ⟨pvalidStarts, pvalidValues⟩

def contextJTable : RangeTable := RangeTable.ofText contextJText

def contextOTable : RangeTable := RangeTable.ofText contextOText

def joiningTable : RangeTable := RangeTable.ofText joiningTypeText

def scriptTable : RangeTable := RangeTable.ofText scriptText

/-- Joining types of the Arabic shaping data. -/
inductive JoiningType where
  | none | causing | dual | left | right | transparent
  deriving DecidableEq, Repr

def joiningType (c : Char) : JoiningType :=
  match joiningTable.get c.toNat with
  | 1 => .causing
  | 2 => .dual
  | 3 => .left
  | 4 => .right
  | 5 => .transparent
  | _ => .none

/-- The scripts that the contextual rules ask about. -/
inductive Script where
  | other | greek | han | hebrew | hiragana | katakana
  deriving DecidableEq, Repr

def script (c : Char) : Script :=
  match scriptTable.get c.toNat with
  | 1 => .greek
  | 2 => .han
  | 3 => .hebrew
  | 4 => .hiragana
  | 5 => .katakana
  | _ => .other

/-- The combining class of the character before a joiner, or `none` when the character is unknown
to the character database (class zero and no name). -/
def joinerBaseClass? (c : Char) : Option Nat :=
  let cc := combiningClass c.toNat
  if cc = 0 ∧ !hasName c then none else some cc

def nearestJoining (ok : JoiningType → Bool) : List Char → Bool
  | [] => false
  | c :: cs =>
    if joiningType c = .transparent then nearestJoining ok cs else ok (joiningType c)

def contextJHolds (before : List Char) (c : Char) (after : List Char) : Bool :=
  if c.toNat = 0x200C then
    match before with
    | [] => false
    | p :: _ =>
      match joinerBaseClass? p with
      | none => false
      | some 9 => true
      | some _ =>
        nearestJoining (fun j => j = .left || j = .dual) before &&
          nearestJoining (fun j => j = .right || j = .dual) after
  else if c.toNat = 0x200D then
    match before with
    | [] => false
    | p :: _ => joinerBaseClass? p == some 9
  else false

def contextOHolds (label : List Char) (before : List Char) (c : Char) (after : List Char) : Bool :=
  let n := c.toNat
  if n = 0xB7 then
    match before, after with
    | 'l' :: _, 'l' :: _ => true
    | _, _ => false
  else if n = 0x375 then
    match after with
    | d :: _ => script d = .greek
    | [] => false
  else if n = 0x5F3 ∨ n = 0x5F4 then
    match before with
    | p :: _ => script p = .hebrew
    | [] => false
  else if n = 0x30FB then
    label.any fun d => d.toNat ≠ 0x30FB &&
      (script d = .hiragana || script d = .katakana || script d = .han)
  else if 0x660 ≤ n ∧ n ≤ 0x669 then
    !label.any fun d => 0x6F0 ≤ d.toNat && d.toNat ≤ 0x6F9
  else if 0x6F0 ≤ n ∧ n ≤ 0x6F9 then
    !label.any fun d => 0x660 ≤ d.toNat && d.toNat ≤ 0x669
  else false

/-- Whether every character of `rest` is allowed where it stands; `before` holds the characters
before `rest`, nearest first. -/
def charactersAllowed (label : List Char) : List Char → List Char → Bool
  | _, [] => true
  | before, c :: after =>
    let here :=
      if pvalidTable.contains c.toNat then true
      else if contextJTable.contains c.toNat then contextJHolds before c after
      else if contextOTable.contains c.toNat then contextOHolds label before c after
      else false
    here && charactersAllowed label (c :: before) after

def endsWell (ending : BidiClass → Bool) (dirs : List BidiClass) : Bool :=
  match (dirs.reverse.dropWhile (· = .NSM)) with
  | [] => false
  | d :: _ => ending d

def bidiRuleHolds (label : List Char) : Bool :=
  let dirs := label.map bidiClass
  if dirs.any (· = .unknown) then false
  else if !(dirs.any fun d => d = .R || d = .AL || d = .AN) then true
  else
    match dirs with
    | [] => true
    | d0 :: _ =>
      if d0 = .R || d0 = .AL then
        dirs.all (fun d => d = .R || d = .AL || d = .AN || d = .EN || d = .ES || d = .CS ||
            d = .ET || d = .ON || d = .BN || d = .NSM) &&
          endsWell (fun d => d = .R || d = .AL || d = .EN || d = .AN) dirs &&
          !(dirs.any (· = .AN) && dirs.any (· = .EN))
      else if d0 = .L then
        dirs.all (fun d => d = .L || d = .EN || d = .ES || d = .CS || d = .ET || d = .ON ||
            d = .BN || d = .NSM) &&
          endsWell (fun d => d = .L || d = .EN) dirs
      else false

def hyphensAllowed (label : List Char) : Bool :=
  let inner := match label with
    | _ :: _ :: '-' :: '-' :: _ => false
    | _ => true
  inner && label.head? != some '-' && label.getLast? != some '-'

def isValidLabel (label : List Char) : Bool :=
  !label.isEmpty && label.length ≤ 254 && nfcList label == label && hyphensAllowed label &&
    !(label.head?.map isMark).getD false && charactersAllowed label [] label &&
    bidiRuleHolds label

def asciiLower (c : Char) : Char :=
  if 'A' ≤ c ∧ c ≤ 'Z' then Char.ofNat (c.toNat + 32) else c

def isAscii (cs : List Char) : Bool := cs.all (·.toNat < 0x80)

/-- The Unicode form of a label of a domain name, or `none` when it is not a valid label. An
ASCII-compatible label is valid only in its one canonical spelling: its Unicode form, encoded
again, gives back the label in lower case. -/
def toUnicode? (label : List Char) : Option (List Char) :=
  if 1024 < label.length then none
  else if !isAscii label then (if isValidLabel label then some label else none)
  else
    match label.map asciiLower with
    | 'x' :: 'n' :: '-' :: '-' :: rest =>
      if rest.isEmpty || rest.getLast? == some '-' then none
      else
        match decode? rest with
        | none => none
        | some codes =>
          if codes.any fun n => 0xD800 ≤ n ∧ n ≤ 0xDFFF then none
          else
            let decoded := codes.map Char.ofNat
            if encode codes != rest then none
            else if isValidLabel decoded then some decoded else none
    | lowered => if isValidLabel lowered then some lowered else none

def toAscii? (label : List Char) : Option (List Char) :=
  if 1024 < label.length then none
  else if isAscii label then
    match toUnicode? label with
    | none => none
    | some _ => if label.length ≤ 63 then some label else none
  else if !isValidLabel label then none
  else
    let ascii := ['x', 'n', '-', '-'] ++ encode (label.map Char.toNat)
    if ascii.length ≤ 63 then some ascii else none

end UserDirectory.Domain
