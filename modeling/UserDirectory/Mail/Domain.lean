import UserDirectory.Unicode.Table
import UserDirectory.Text.Infix
import UserDirectory.Unicode.Category
import UserDirectory.Domain.Mapping
import UserDirectory.Domain.Label

/-!
# The domain part of an address

An address's domain part is accepted when

* every character is an ASCII letter, digit, hyphen or dot, or lies beyond ASCII;
* it is *safe text*: no separator, control, format, private-use or unassigned character, and no
  combining mark in first place;
* after the compatibility mapping (`UserDirectory.Domain.remap?`) the same character rule holds,
  no dot or hyphen stands at either end, no two dots and no dot and hyphen meet, and no label has
  hyphens in its third and fourth places unless it starts with `xn`;
* its ASCII form (the name itself when it is already a host name, else the ASCII form of every
  label) is a host name of at most 253 characters with labels of at most 63, contains a dot, ends
  in a letter, and is no special-use name (`arpa`, `invalid`, `local`, `localhost`, `onion`,
  `test`, or a name under one of them);
* every label of the ASCII form has a Unicode form, and the Unicode form of the name is safe text
  of domain characters again (a joiner that a label's context admits is still invisible).

The accepted domain has two forms: the ASCII one and the Unicode one, whose labels are the Unicode
forms of the ASCII labels.
-/

namespace UserDirectory.Mail

open UserDirectory.Unicode UserDirectory.Domain UserDirectory.Text

def isAsciiAlnum (c : Char) : Bool :=
  ('a' ≤ c && c ≤ 'z') || ('A' ≤ c && c ≤ 'Z') || ('0' ≤ c && c ≤ '9')

def isDomainChar (c : Char) : Bool :=
  isAsciiAlnum c || c = '-' || c = '.' || 0x80 ≤ c.toNat

/-- Text without separators, controls and other invisible characters, and without a combining
mark in first place. -/
def isSafeText : List Char → Bool
  | [] => true
  | c :: cs => categoryClass c = .graphic && cs.all fun d => categoryClass d != .other

def isHostLabel (l : List Char) : Bool :=
  !l.isEmpty && l.all (fun c => isAsciiAlnum c || c = '-') &&
    (l.head?.map isAsciiAlnum).getD false && (l.getLast?.map isAsciiAlnum).getD false

def isHostName (d : List Char) : Bool :=
  (splitAt '.' d).all isHostLabel

def dotsAndHyphensAllowed (d : List Char) : Bool :=
  d.head? != some '.' && d.getLast? != some '.' && !hasInfix ['.', '.'] d &&
    d.head? != some '-' && d.getLast? != some '-' && !hasInfix ['.', '-'] d &&
    !hasInfix ['-', '.'] d

/-- A label with hyphens in its third and fourth places that does not start with `xn`, in either
case. -/
def hasReservedHyphens : List Char → Bool
  | a :: b :: '-' :: '-' :: _ => !(asciiLower a = 'x' && asciiLower b = 'n')
  | _ => false

def specialUseNames : List (List Char) :=
  ["arpa", "invalid", "local", "localhost", "onion", "test"].map String.toList

def isSpecialUse (d : List Char) : Bool :=
  specialUseNames.any fun s => d == s || ('.' :: s).isSuffixOf d

def joinDots (labels : List (List Char)) : List Char :=
  List.intercalate ['.'] labels

/-- The two forms of an accepted domain part. -/
structure DomainForms where
  unicode : List Char
  ascii : List Char
  deriving DecidableEq, Repr

def asciiForm? (mapped : List Char) : Option (List Char) :=
  if isHostName mapped then some mapped
  else
    match (splitAt '.' mapped).mapM toAscii? with
    | none => none
    | some parts =>
      let ascii := joinDots parts
      if isHostName ascii then some ascii else none

def domainForms? (d : List Char) : Option DomainForms := do
  guard (!d.isEmpty && d.all isDomainChar && isSafeText d)
  let mapped ← remap? d
  guard (mapped.all isDomainChar && dotsAndHyphensAllowed mapped &&
    !(splitAt '.' mapped).any hasReservedHyphens)
  let ascii ← asciiForm? mapped
  guard (ascii.length ≤ 253 && (splitAt '.' ascii).all (·.length ≤ 63) && ascii.contains '.' &&
    (ascii.getLast?.map fun c => ('a' ≤ c && c ≤ 'z') || ('A' ≤ c && c ≤ 'Z')).getD false &&
    !isSpecialUse ascii)
  let labels ← (splitAt '.' ascii).mapM toUnicode?
  let unicode := joinDots labels
  guard (unicode.all isDomainChar && isSafeText unicode)
  pure ⟨unicode, ascii⟩

end UserDirectory.Mail
