import UserDirectory.Number.Binary
import UserDirectory.Account.Store

/-!
# Listing profiles

A listing takes the stored profiles whose deletion flag equals the requested one, keeps those whose
id (lower-cased), email or lower-cased display name contains the stripped and lower-cased search
text (all of them for an empty search), and orders them by id and then, stably, by the sort key:
email, lower-cased display name or creation time, ascending or descending. Profiles with equal
keys therefore stay in ascending id order in both directions.

Page `n` of size `k` holds the matches from position `(n - 1) * k` on, at most `k` of them. The
page count is the quotient of the match count by the page size, rounded to a double and then up
to an integer, and zero when nothing matches; for a page size beyond `2^1075` times the match
count the rounded quotient is zero, and so is the page count.
-/

namespace UserDirectory.Account

open UserDirectory.Number

/-- What a listing is ordered by. -/
inductive SortField where
  | email
  | name
  | createdAt
  deriving DecidableEq, Repr

/-- The direction of a listing. -/
inductive SortDirection where
  | asc
  | desc
  deriving DecidableEq, Repr

/-- A listing request. -/
structure Query where
  search : Text := .empty
  sortBy : SortField := .createdAt
  direction : SortDirection := .desc
  pageNumber : Nat := 1
  pageSize : Nat := 20
  deleted : Bool := false
  deriving DecidableEq, Repr

/-- One page of a listing. -/
structure Page where
  items : List Profile
  pageNumber : Nat
  pageSize : Nat
  totalCount : Nat
  totalPages : Nat
  hasPrevious : Bool
  hasNext : Bool
  deriving DecidableEq, Repr

/-- Whether `a` comes no later than `b` by the sort key, ascending. -/
def keyLe (field : SortField) (a b : Profile) : Bool :=
  match field with
  | .email => decide (a.email ≤ b.email)
  | .name => a.displayName.lower.le b.displayName.lower
  | .createdAt => decide (a.createdAt.micros ≤ b.createdAt.micros)

/-- Whether a profile matches a search text (already stripped and lower-cased). -/
def matchesSearch (needle : Text) (p : Profile) : Bool :=
  needle.isEmpty || needle.isInfixOf (Text.ofString p.id).lower ||
    needle.isInfixOf (Text.ofString p.email) || needle.isInfixOf p.displayName.lower

/-- The matches of a query, in listing order. -/
def orderedMatches (q : Query) (ps : List Profile) : List Profile :=
  let needle := q.search.strip.lower
  let ms := (ps.filter fun p => p.deleted == q.deleted).filter (matchesSearch needle)
  let byId := ms.mergeSort fun a b => decide (a.id ≤ b.id)
  match q.direction with
  | .asc => byId.mergeSort (keyLe q.sortBy)
  | .desc => byId.mergeSort fun a b => keyLe q.sortBy b a

/-- The least integer at or above a finite non-negative value; `0` for anything else. -/
def ceilOf : Binary64 → Nat
  | .finite false m q =>
    if 0 ≤ q then m * Nat.pow 2 q.toNat else (m + Nat.pow 2 (-q).toNat - 1) / Nat.pow 2 (-q).toNat
  | _ => 0

/-- The number of pages of `total` matches. -/
def pageCount (total size : Nat) : Nat :=
  if total = 0 then 0 else ceilOf (nearest false total size)

/-- One page of the matches of a query. -/
def Store.page (q : Query) (s : Store) : Page :=
  let ms := orderedMatches q s.profiles
  let total := ms.length
  let pages := pageCount total q.pageSize
  { items := (ms.drop ((q.pageNumber - 1) * q.pageSize)).take q.pageSize,
    pageNumber := q.pageNumber, pageSize := q.pageSize, totalCount := total,
    totalPages := pages, hasPrevious := 1 < q.pageNumber, hasNext := q.pageNumber < pages }

/-- A listing read of the store. -/
def Store.getPage (q : Query) : Store → StoreStep Page :=
  Store.reading (Store.page q)

end UserDirectory.Account
