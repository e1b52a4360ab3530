import UserDirectory.Text.Digest
import UserDirectory.Account.Event

/-!
# Redacted log fields

Log lines never show identifiers or addresses as they are.

* A *safe identifier* of a value is the prefix, `-`, and the first 12 hexadecimal digits of the
  SHA-256 digest of its stripped display in UTF-8; an absent value, or one whose display is blank,
  gives the prefix and `-missing`. A display with a surrogate has no UTF-8 form, and the digest
  cannot be taken.
* A *masked address* keeps the domain: the first character of the part before the last `@`, then
  `***@` and the part after it. A text without `@` is shown as its safe identifier with prefix
  `email`; a present value that is no text cannot be stripped.
* The *log line* of a security event is `security.event name=… outcome=… subject_id=…` followed by
  a space and its properties as `key=value`, sorted by key and joined by spaces; it is logged at
  level INFO for a success and WARNING for a failure.
-/

namespace UserDirectory.Account

open UserDirectory.Text

/-- The safe identifier of a value. -/
def safeIdentifier (value : Given) (pre : Text) : Except Misuse Text :=
  let t := value.shownOrEmpty.strip
  if t.isEmpty then .ok (pre ++ Text.ofString "-missing")
  else
    match t.utf8? with
    | .error e => .error (.unencodable e)
    | .ok s => .ok (pre ++ Text.ofString ("-" ++ String.ofList ((sha256Hex s).toList.take 12)))

/-- The masked form of an address. -/
def maskEmail (value : Given) : Except Misuse Text := do
  let text ← value.orEmpty.mapError fun k => Misuse.noAttribute k "strip"
  let ps := text.strip.points
  let atSign := CodePoint.scalar '@'
  if !ps.contains atSign then safeIdentifier (.text ⟨ps⟩) (Text.ofString "email")
  else
    let rev := ps.reverse
    let domain := (rev.takeWhile (· ≠ atSign)).reverse
    let localPart := ((rev.dropWhile (· ≠ atSign)).drop 1).reverse
    pure ⟨localPart.take 1 ++ (Text.ofString "***@").points ++ domain⟩

/-- Log levels of security events. -/
inductive LogLevel where
  | info
  | warning
  deriving DecidableEq, Repr

/-- The name of a log level. -/
def LogLevel.name : LogLevel → String
  | .info => "INFO"
  | .warning => "WARNING"

/-- Inserts a property into a list sorted by key. -/
def insertByKey {α : Type} (p : String × α) : List (String × α) → List (String × α)
  | [] => [p]
  | q :: qs => if p.1 ≤ q.1 then p :: q :: qs else q :: insertByKey p qs

/-- The log level and line of an event; `subject` is its subject as given. -/
def eventLogLine (name : String) (outcome : EventOutcome) (subject : Given)
    (props : List (String × Text)) : Except Misuse (LogLevel × Text) := do
  let sorted := props.foldr insertByKey []
  let extra : Text :=
    ⟨[CodePoint.scalar ' '].intercalate (sorted.map fun (k, v) => (Text.ofString (k ++ "=") ++ v).points)⟩
  let level := if outcome = .success then LogLevel.info else LogLevel.warning
  let subjectId ← safeIdentifier subject (Text.ofString "uid")
  pure (level, Text.ofString ("security.event name=" ++ name ++ " outcome=" ++ outcome.text ++
    " subject_id=") ++ subjectId ++ Text.ofString " " ++ extra)

end UserDirectory.Account
