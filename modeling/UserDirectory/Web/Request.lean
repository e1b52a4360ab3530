import UserDirectory.Web.Target
import UserDirectory.Json.Read
import UserDirectory.Text.Blank
import UserDirectory.Unicode.Case

/-!
# Requests

A request has a method, a target, query parameters, headers in order and a body.

* *Headers* are looked up by name in any case; the first one counts.
* *Bearer credentials.* The `Authorization` header splits at its first space into a scheme and
  credentials, the credentials stripped. There are none when the header is missing or empty, when
  either part is empty, or when the scheme is not `bearer` in some case.
* *Body.* A body is read only by routes that take one. An empty body is absent. A body is read as
  JSON when the request has no content type, or one whose type is `application/json` or
  `application/…+json` (an empty content type is none of these); any other body is kept unread. Before reading, the body's bytes
  are decoded: a leading byte order mark is dropped, and a body whose first or second byte is zero
  is read as UTF-16 or UTF-32 by the pattern of zeros in its first bytes; a surrogate without its
  partner is kept. Text that is not JSON is
  *malformed*; bytes that do not decode, and numbers with more than 4300 digits, are
  *unreadable*.
-/

namespace UserDirectory.Web

open UserDirectory.Json UserDirectory.Text UserDirectory.Unicode

/-- A request as the client sends it: the given query parameters, when there are any, replace
those of the target. -/
structure Request where
  method : String
  target : String
  query : Option (List (String × String)) := none
  headers : List (String × String) := []
  body : String := ""
  deriving Repr

def Request.header? (r : Request) (name : String) : Option String :=
  let key := name.toList.map Char.toLower
  (r.headers.find? fun h => h.1.toList.map Char.toLower == key).map (·.2)

def dropHeader (hs : List (String × String)) (name : String) : List (String × String) :=
  let key := name.toList.map Char.toLower
  hs.filter fun h => h.1.toList.map Char.toLower != key

/-- Sets a header: the first of its name, in any case, takes the value and the others go; a new
name goes last. -/
def setHeader (hs : List (String × String)) (name value : String) : List (String × String) :=
  let key := name.toList.map Char.toLower
  let same := fun (h : String × String) => h.1.toList.map Char.toLower == key
  match hs.findIdx? same with
  | none => hs ++ [(name, value)]
  | some i =>
    ((hs.take i).filter (!same ·)) ++ (name, value) :: (hs.drop (i + 1)).filter (!same ·)

def bearerCredentials (header : Option String) : Option String :=
  match header with
  | none => none
  | some v =>
    let cs := v.toList
    let scheme := cs.takeWhile (· ≠ ' ')
    let param := stripList ((cs.dropWhile (· ≠ ' ')).drop 1)
    if scheme.isEmpty || param.isEmpty then none
    else if lowerList scheme ≠ "bearer".toList then none
    else some (String.ofList param)

def base64Digit (n : Nat) : Char :=
  "ABCDEFGHIJKLMNOPQRSTUVWXYZabcdefghijklmnopqrstuvwxyz0123456789+/".toList.getD n '='

def base64 : List Nat → List Char
  | a :: b :: c :: rest =>
    let n := (a * 256 + b) * 256 + c
    base64Digit (n / 262144) :: base64Digit (n / 4096 % 64) :: base64Digit (n / 64 % 64) ::
      base64Digit (n % 64) :: base64 rest
  | [a, b] =>
    let n := (a * 256 + b) * 4
    [base64Digit (n / 4096), base64Digit (n / 64 % 64), base64Digit (n % 64), '=']
  | [a] => [base64Digit (a * 16 / 64), base64Digit (a * 16 % 64), '=', '=']
  | [] => []

/-- The `Authorization` value of basic credentials: the scheme `Basic` and the base64 form of
the user name, a colon and the password in UTF-8. -/
def basicAuthorization (user password : List Char) : String :=
  let bytes := (String.ofList (user ++ ':' :: password)).toUTF8.toList.map (·.toNat)
  "Basic " ++ String.ofList (base64 bytes)

def isJsonType (contentType : Option String) : Bool :=
  match contentType with
  | none => true
  | some v =>
    let t := lowerList (stripList (v.toList.takeWhile (· ≠ ';')))
    let main := t.takeWhile (· ≠ '/')
    let sub := (t.dropWhile (· ≠ '/')).drop 1
    t.count '/' == 1 && main == "application".toList &&
      (sub == "json".toList || "+json".toList.isSuffixOf sub)

/-- What a body holds. -/
inductive Payload where
  | absent
  | json (v : Value)
  | unread

/-- Why a body could not be read. -/
inductive BodyError where
  | malformed
  | unreadable
  deriving DecidableEq, Repr

def units16 (big : Bool) : List Nat → Option (List Nat)
  | [] => some []
  | [_] => none
  | a :: b :: rest => (units16 big rest).map ((if big then a * 256 + b else b * 256 + a) :: ·)

/-- Code points of 16-bit units: pairs of surrogates combine, a surrogate without its partner
stays as it is. -/
def pointsOf16 (us : List Nat) : List CodePoint :=
  match us with
  | [] => []
  | [u] => [CodePoint.ofNat u]
  | u :: v :: rest =>
    if 0xD800 ≤ u && u ≤ 0xDBFF && 0xDC00 ≤ v && v ≤ 0xDFFF then
      .scalar (Char.ofNat (0x10000 + (u - 0xD800) * 0x400 + (v - 0xDC00))) :: pointsOf16 rest
    else CodePoint.ofNat u :: pointsOf16 (v :: rest)
termination_by us.length

/-- Reads 32-bit code points, a surrogate among them; `none` when the bytes do not come in fours
or a value is beyond U+10FFFF. -/
def points32 (big : Bool) : List Nat → Option (List CodePoint)
  | [] => some []
  | a :: b :: c :: d :: rest =>
    let n := if big then ((a * 256 + b) * 256 + c) * 256 + d else ((d * 256 + c) * 256 + b) * 256 + a
    if 0x10FFFF < n then none
    else (points32 big rest).map (CodePoint.ofNat n :: ·)
  | _ => none

def bodyText (bs : List Nat) : Option Text :=
  let utf8 := fun (bytes : List Nat) => some (Text.ofChars (decodeUtf8 bytes))
  let units := fun (big : Bool) => (units16 big bs).map fun us => (⟨pointsOf16 us⟩ : Text)
  match bs with
  | 0xEF :: 0xBB :: 0xBF :: rest => utf8 rest
  | 0 :: 0 :: _ :: _ :: _ => (points32 true bs).map (⟨·⟩)
  | 0 :: _ :: _ :: _ :: _ => units true
  | _ :: 0 :: 0 :: 0 :: _ => (points32 false bs).map (⟨·⟩)
  | _ :: 0 :: _ :: _ :: _ => units false
  | [0, _] => units true
  | [_, 0] => units false
  | _ => utf8 bs

def readPayload (contentType : Option String) (body : String) : Except BodyError Payload :=
  if body.isEmpty then .ok .absent
  else if !isJsonType contentType then .ok .unread
  else
    match bodyText (body.toUTF8.toList.map (·.toNat)) with
    | none => .error .unreadable
    | some text =>
      match parseText text with
      | .ok v => .ok (.json v)
      | .error .malformed => .error .malformed
      | .error .tooManyDigits => .error .unreadable

/-- The string fields of a JSON object body, in the order asked; `none` when one is missing or
not a string. -/
def Payload.fields (p : Payload) (names : List String) : Option (List Text) :=
  match p with
  | .json (.obj members) =>
    names.mapM fun n =>
      match members.lookup n with
      | some (.str s) => some s
      | _ => none
  | _ => none

end UserDirectory.Web
