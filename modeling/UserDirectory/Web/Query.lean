import UserDirectory.Account.Service

/-!
# Query values

Query parameters arrive as text and are read leniently.

* An *integer* may have white space (the characters with the Unicode White_Space property) around
  it; the trimmed text may have at most 4300 bytes. It is an optional sign, decimal digits in
  groups joined by single underscores, and optionally a point followed by one or more zeros.
  `1.5`, `4.`, `1__0` and `1e2` are no integers.
* A *Boolean* is `0`, `f`, `n`, `no`, `off` or `false` for false and `1`, `t`, `y`, `yes`, `on`
  or `true` for true, letters in any case, nothing around them.
* An *ordering* and a *direction* are their exact names: `email`, `name` or `created_at`, and
  `asc` or `desc`.

A listing request reads `search`, `orderBy`, `sortDirection`, `pageNumber`, `pageSize` and
`isDeleted`; a parameter given twice counts with its last value, and a missing one takes its
default.
-/

namespace UserDirectory.Web

open UserDirectory.Account UserDirectory.Unicode

def isWhiteSpace (c : Char) : Bool :=
  let n := c.toNat
  (9 ≤ n && n ≤ 13) || n == 32 || n == 0x85 || n == 0xA0 || n == 0x1680 ||
    (0x2000 ≤ n && n ≤ 0x200A) || n == 0x2028 || n == 0x2029 || n == 0x202F || n == 0x205F ||
    n == 0x3000

def trimWhiteSpace (cs : List Char) : List Char :=
  ((cs.dropWhile isWhiteSpace).reverse.dropWhile isWhiteSpace).reverse

def isDigitChar (c : Char) : Bool := '0' ≤ c && c ≤ '9'

def digitsValue (ds : List Char) : Nat :=
  ds.foldl (fun n d => n * 10 + (d.toNat - '0'.toNat)) 0

/-- Decimal digits in groups joined by single underscores: the digits, or `none` when a group is
empty or holds anything but digits. -/
def groupedDigits? (cs : List Char) : Option (List Char) :=
  let groups := splitAt '_' cs
  if groups.all fun g => !g.isEmpty && g.all isDigitChar then some groups.flatten else none

def isZeroFraction : List Char → Bool
  | [] => true
  | _ :: zeros => !zeros.isEmpty && zeros.all (· = '0')

def queryInt? (s : String) : Option Int :=
  let t := trimWhiteSpace s.toList
  if 4300 < (String.ofList t).utf8ByteSize then none
  else
    let (neg, body) := match t with
      | '-' :: rest => (true, rest)
      | '+' :: rest => (false, rest)
      | rest => (false, rest)
    if !isZeroFraction (body.dropWhile (· ≠ '.')) then none
    else
      (groupedDigits? (body.takeWhile (· ≠ '.'))).map fun ds =>
        if neg then -(digitsValue ds : Int) else digitsValue ds

def asciiLowerText (s : String) : String :=
  String.ofList (s.toList.map Char.toLower)

def queryBool? (s : String) : Option Bool :=
  let l := asciiLowerText s
  if s = "0" || ["f", "n", "no", "off", "false"].contains l then some false
  else if s = "1" || ["t", "y", "yes", "on", "true"].contains l then some true
  else none

def SortField.ofName? : String → Option SortField
  | "email" => some .email
  | "name" => some .name
  | "created_at" => some .createdAt
  | _ => none

def SortDirection.ofName? : String → Option SortDirection
  | "asc" => some .asc
  | "desc" => some .desc
  | _ => none

def lastValue? (items : List (String × String)) (key : String) : Option String :=
  (items.filter (·.1 = key)).getLast?.map (·.2)

def readParam {α : Type} (items : List (String × String)) (key : String) (default : α)
    (read : String → Option α) : Option α :=
  match lastValue? items key with
  | none => some default
  | some v => read v

def ListRequest.ofQuery? (items : List (String × String)) : Option ListRequest := do
  let sortBy ← readParam items "orderBy" SortField.createdAt SortField.ofName?
  let direction ← readParam items "sortDirection" SortDirection.desc SortDirection.ofName?
  let pageNumber ← readParam items "pageNumber" 1 queryInt?
  let pageSize ← readParam items "pageSize" 20 queryInt?
  let deleted ← readParam items "isDeleted" none (fun v => (queryBool? v).map some)
  return { search := Given.ofString ((lastValue? items "search").getD ""), sortBy, direction,
           pageNumber := .whole pageNumber, pageSize := .whole pageSize, deleted := deleted.getD false }

end UserDirectory.Web
