import UserDirectory.Account.Field

/-!
# Failures

An operation of the directory either succeeds or fails with one of five kinds of failure:
validation, not found, conflict, forbidden and infrastructure. A missing resource and a resource
the caller may not see fail alike, with the message `Resource not found`; an infrastructure
failure never shows its cause.

Every kind has a status code and a code for the outside: validation 400, forbidden 403, not found
404, conflict 409, and 500 for infrastructure.
-/

namespace UserDirectory.Account

/-- Kinds of failure. -/
inductive FailureKind where
  | validation
  | notFound
  | conflict
  | forbidden
  | infrastructure
  deriving DecidableEq, Repr

namespace FailureKind

/-- The code of a kind of failure. -/
def code : FailureKind → String
  | validation => "VALIDATION_ERROR"
  | notFound => "RESOURCE_NOT_FOUND"
  | conflict => "CONFLICT"
  | forbidden => "FORBIDDEN"
  | infrastructure => "INFRASTRUCTURE_ERROR"

/-- The kind of failure with a code. -/
def ofCode? (s : String) : Option FailureKind :=
  [validation, notFound, conflict, forbidden, infrastructure].find? (·.code == s)

/-- The status code of a kind of failure. -/
def status : FailureKind → Nat
  | validation => 400
  | forbidden => 403
  | notFound => 404
  | conflict => 409
  | infrastructure => 500

end FailureKind

/-- A failed operation: its kind and message. -/
structure Failure where
  kind : FailureKind
  message : String
  deriving DecidableEq, Repr

namespace Failure

/-- A refused field. -/
def validation (message : String) : Failure := ⟨.validation, message⟩

/-- The one failure for a missing or hidden resource. -/
def notFound : Failure := ⟨.notFound, "Resource not found"⟩

/-- The caller has no usable identity. -/
def forbidden : Failure := ⟨.forbidden, "Caller identity is unavailable"⟩

/-- A failure below the directory, with its cause hidden. -/
def infrastructure : Failure := ⟨.infrastructure, "An unexpected error occurred"⟩

end Failure

/-- The outcome of a directory operation. -/
abbrev Outcome (α : Type) := Except Failure α

end UserDirectory.Account
