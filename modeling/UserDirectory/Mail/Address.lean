import UserDirectory.Unicode.Normal
import UserDirectory.Mail.Domain

/-!
# Email addresses

An address is accepted when, split at its first `@`,

* it contains no quote and no `<` (quoted local parts and display names are not accepted), and
  has an `@`;
* the local part is a *dot-atom*: non-empty runs of atom characters (ASCII letters, digits, the
  symbols listed in `atomSymbols`, or any character beyond ASCII) joined by single dots; beyond
  ASCII it must also be safe text; its Normalization Form C must be a dot-atom as well;
* the domain part is accepted (`UserDirectory.Mail.domainForms?`);
* the address as given, its normalized form and its ASCII form each take at most 254 bytes in
  UTF-8.

The normalized form is the NFC local part, `@`, and the Unicode form of the domain; the ASCII form
uses the ASCII domain.
-/

namespace UserDirectory.Mail

open UserDirectory.Unicode UserDirectory.Text

/-- Code points of the ASCII atom characters other than letters and digits: the exclamation mark,
number sign, dollar, percent, ampersand, apostrophe, asterisk, plus, hyphen, slash, equals sign,
question mark, caret, underscore, grave accent, braces, vertical bar and tilde. -/
def atomSymbols : List Nat :=
  [33, 35, 36, 37, 38, 39, 42, 43, 45, 47, 61, 63, 94, 95, 96, 123, 124, 125, 126]

def isAtomChar (c : Char) : Bool :=
  isAsciiAlnum c || atomSymbols.contains c.toNat

def isIntlAtomChar (c : Char) : Bool :=
  isAtomChar c || 0x80 ≤ c.toNat

def isDotAtom (cs : List Char) : Bool :=
  (splitAt '.' cs).all fun atom => !atom.isEmpty && atom.all isIntlAtomChar

def isLocalPart (cs : List Char) : Bool :=
  !cs.isEmpty && isDotAtom cs && (cs.all (·.toNat < 0x80) || isSafeText cs)

def splitAddress? (cs : List Char) : Option (List Char × List Char) :=
  if cs.any (fun c => c = '"' || c = '<') then none
  else
    match cs.idxOf? '@' with
    | none => none
    | some i => some (cs.take i, cs.drop (i + 1))

def utf8Length (cs : List Char) : Nat :=
  (cs.map Char.utf8Size).foldl (· + ·) 0

def normalizeAddress? (cs : List Char) : Option (List Char) := do
  let (localPart, domain) ← splitAddress? cs
  guard (isLocalPart localPart)
  let local' := nfcList localPart
  guard (local' == localPart || isLocalPart local')
  let forms ← domainForms? domain
  let normalized := local' ++ '@' :: forms.unicode
  let asciiAddress := local' ++ '@' :: forms.ascii
  guard (utf8Length cs ≤ 254 && utf8Length normalized ≤ 254 && utf8Length asciiAddress ≤ 254)
  pure normalized

end UserDirectory.Mail
