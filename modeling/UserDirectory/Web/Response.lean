import UserDirectory.Json.Value
import UserDirectory.Account.Listing
import UserDirectory.Account.Failure

/-!
# Responses and the service's JSON forms

A response has a status and a JSON body, or no body.

* A profile is the object `id`, `email`, `display_name`, `external_auth_id`, `role`,
  `created_at`, `updated_at`, `is_deleted`, `deleted_at`; instants are their text and an unset one
  is `null`.
* A page is the object `items`, `page_number`, `page_size`, `total_count`, `total_pages`,
  `has_previous`, `has_next`.
* An error of the service is the object `code`, `message`. A routing miss and an unreadable body
  are the object `detail`.
-/

namespace UserDirectory.Account

open UserDirectory.Json

def instantValue : Option Instant → Value
  | none => .null
  | some t => .str t.text

def Profile.toValue (p : Profile) : Value :=
  .obj [("id", .str p.id), ("email", .str p.email), ("display_name", .str p.displayName),
    ("external_auth_id", .str p.externalId), ("role", .str p.role.name),
    ("created_at", .str p.createdAt.text), ("updated_at", instantValue p.updatedAt),
    ("is_deleted", .bool p.deleted), ("deleted_at", instantValue p.deletedAt)]

def Page.toValue (p : Page) : Value :=
  .obj [("items", .arr (p.items.map Profile.toValue)), ("page_number", .int p.pageNumber),
    ("page_size", .int p.pageSize), ("total_count", .int p.totalCount),
    ("total_pages", .int p.totalPages), ("has_previous", .bool p.hasPrevious),
    ("has_next", .bool p.hasNext)]

end UserDirectory.Account

namespace UserDirectory.Web

open UserDirectory.Json UserDirectory.Account

/-- A response. -/
structure Response where
  status : Nat
  body : Option Value := none

def errorResponse (status : Nat) (code message : String) : Response :=
  ⟨status, some (.obj [("code", .str code), ("message", .str message)])⟩

def failureResponse (f : Failure) : Response :=
  errorResponse f.kind.status f.kind.code f.message

def unauthorized (message : String) : Response := errorResponse 401 "UNAUTHORIZED" message

def forbiddenResponse (message : String) : Response := errorResponse 403 "FORBIDDEN" message

def invalidRequest : Response := errorResponse 400 "VALIDATION_ERROR" "Invalid request payload"

def unexpectedError : Response := errorResponse 500 "INFRASTRUCTURE_ERROR" "An unexpected error occurred"

def detailResponse (status : Nat) (detail : String) : Response :=
  ⟨status, some (.obj [("detail", .str detail)])⟩

end UserDirectory.Web
