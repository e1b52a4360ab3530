import UserDirectory.Unicode.Case
import UserDirectory.Text.Blank

/-!
# Normalizing an email field

The service does not check addresses itself: it asks an address validator (`validate_email` with
deliverability checks off) for the normalized form of the stripped text, and lower-cases what it
answers. The validator is a parameter here; the one the service runs with is given in
`UserDirectory.Session.Runtime`.
-/

namespace UserDirectory.Mail

open UserDirectory.Unicode UserDirectory.Text

/-- An address validator: the normalized form of an address, or `none` when it is refused. -/
class AddressValidator where
  normalized? : List Char → Option (List Char)

/-- Why an email field is refused. -/
inductive AddressError where
  | missing
  | invalid
  deriving DecidableEq, Repr

variable [V : AddressValidator]

/-- The stored form of an email field: stripped, accepted, normalized and lower-cased. -/
def normalizeEmail (s : String) : Except AddressError String :=
  let text := stripList s.toList
  if text.isEmpty then .error .missing
  else
    match AddressValidator.normalized? text with
    | none => .error .invalid
    | some n => .ok (String.ofList (lowerList n))

end UserDirectory.Mail
