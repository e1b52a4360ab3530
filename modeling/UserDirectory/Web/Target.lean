import UserDirectory.Unicode.Table

/-!
# Request targets

A request target is a path, optionally followed by `?` and a query string and by `#` and a
fragment. This module reads one the way the service sees it.

* *Bytes to text.* `decodeUtf8` reads bytes as UTF-8 and puts U+FFFD for every maximal piece
  that does not start a valid sequence: a stray byte, or the longest valid beginning of a
  truncated sequence. Overlong forms, surrogates and code points beyond U+10FFFF are invalid.
* *Percent-decoding.* `percentDecode` turns every `%` followed by two hexadecimal digits into
  that byte, keeps every other character as its UTF-8 bytes, and reads the result as UTF-8; a `%`
  without two digits after it stays as it is.
* *Dot segments.* `removeDots` drops the segments `.` and lets each `..` remove the segment before
  it, as a client does before sending the path.
* *Client targets.* A target is a URL reference: an optional scheme, an optional authority after
  `//`, a path, a query and a fragment. `clientTarget` gives the path and query that a client
  with the base `http://testserver/` sends for it.
* *Query strings.* `queryItems` splits at `&`, each piece at its first `=` (a piece without one
  has the empty value), skips empty pieces, and decodes names and values with `+` read as a space.

The service decodes a path twice: once when the client reads the encoded path back, and once more
when the server hands it to the router.
-/

namespace UserDirectory.Web

open UserDirectory.Unicode

def replacement : Char := Char.ofNat 0xFFFD

def isContinuation (b : Nat) : Bool := 0x80 ≤ b && b ≤ 0xBF

def secondRange (b : Nat) : Nat × Nat :=
  if b = 0xE0 then (0xA0, 0xBF)
  else if b = 0xED then (0x80, 0x9F)
  else if b = 0xF0 then (0x90, 0xBF)
  else if b = 0xF4 then (0x80, 0x8F)
  else (0x80, 0xBF)

def sequenceLength (b : Nat) : Nat :=
  if b < 0x80 then 1
  else if 0xC2 ≤ b && b ≤ 0xDF then 2
  else if 0xE0 ≤ b && b ≤ 0xEF then 3
  else if 0xF0 ≤ b && b ≤ 0xF4 then 4
  else 0

def validTail (b : Nat) (need : Nat) (rest : List Nat) : Nat :=
  match need, rest with
  | 0, _ => 0
  | _, [] => 0
  | k + 1, c :: cs =>
    let (lo, hi) := secondRange b
    if lo ≤ c && c ≤ hi then 1 + go k cs else 0
where
  /-- Plain continuation bytes after the second one. -/
  go : Nat → List Nat → Nat
    | 0, _ => 0
    | _, [] => 0
    | k + 1, c :: cs => if isContinuation c then 1 + go k cs else 0

def codePoint (b : Nat) (tail : List Nat) : Nat :=
  let lead := match tail.length with
    | 1 => b % 0x20
    | 2 => b % 0x10
    | _ => b % 0x08
  tail.foldl (fun n c => n * 0x40 + c % 0x40) lead

def decodeUtf8 (bs : List Nat) : List Char :=
  match bs with
  | [] => []
  | b :: rest =>
    let len := sequenceLength b
    if len = 1 then Char.ofNat b :: decodeUtf8 rest
    else if len = 0 then replacement :: decodeUtf8 rest
    else
      let k := validTail b (len - 1) rest
      if k = len - 1 then Char.ofNat (codePoint b (rest.take k)) :: decodeUtf8 (rest.drop k)
      else replacement :: decodeUtf8 (rest.drop k)
termination_by bs.length
decreasing_by all_goals (simp only [List.length_cons, List.length_drop]; omega)

def escapedBytes : List Char → List Nat
  | [] => []
  | '%' :: h :: l :: rest =>
    match hexValue? h, hexValue? l with
    | some a, some b => (a * 16 + b) :: escapedBytes rest
    | _, _ => '%'.toNat :: escapedBytes (h :: l :: rest)
  | c :: rest => (String.utf8EncodeChar c).map (·.toNat) ++ escapedBytes rest

def percentDecode (cs : List Char) : List Char :=
  decodeUtf8 (escapedBytes cs)

def removeDots (segments : List String) : List String :=
  (segments.foldl step []).reverse
where
  /-- One segment onto the reversed output. -/
  step (out : List String) (s : String) : List String :=
    if s = "." then out
    else if s = ".." then
      match out with
      | [] => []
      | [""] => [""]
      | _ :: rest => rest
    else s :: out

def splitTarget (target : List Char) : List Char × Option (List Char) :=
  let noFragment := target.takeWhile (· ≠ '#')
  let path := noFragment.takeWhile (· ≠ '?')
  match noFragment.dropWhile (· ≠ '?') with
  | [] => (path, none)
  | _ :: query => (path, some query)

def resolveDots (path : List Char) : List Char :=
  if path.contains '.' then
    ("/".intercalate (removeDots ((splitAt '/' path).map String.ofList))).toList
  else path

def isSchemeChar (c : Char) : Bool :=
  ('a' ≤ c && c ≤ 'z') || ('A' ≤ c && c ≤ 'Z') || ('0' ≤ c && c ≤ '9') || c = '+' || c = '.' ||
    c = '-'

/-- A reference split after its scheme: the scheme (a letter and scheme characters, possibly
none) when a colon follows it, and the rest. -/
def splitScheme (cs : List Char) : Option (List Char) × List Char :=
  let name := match cs with
    | c :: _ => if ('a' ≤ c && c ≤ 'z') || ('A' ≤ c && c ≤ 'Z') then cs.takeWhile isSchemeChar else []
    | [] => []
  match cs.drop name.length with
  | ':' :: rest => (some name, rest)
  | _ => (none, cs)

def endsAuthority (c : Char) : Bool := c = '/' || c = '?' || c = '#'

/-- A reference split after its authority: the text after `//` up to the next `/`, `?` or `#`,
and the rest. -/
def splitAuthority (cs : List Char) : Option (List Char) × List Char :=
  match cs with
  | '/' :: '/' :: rest => (some (rest.takeWhile (!endsAuthority ·)), rest.dropWhile (!endsAuthority ·))
  | _ => (none, cs)

/-- The host of an authority and what follows it: after the last `@`, a bracketed address or the
text up to a colon. -/
def splitHost (authority : List Char) : List Char × List Char :=
  let server := (authority.reverse.takeWhile (· ≠ '@')).reverse
  match server with
  | '[' :: _ =>
    if server.contains ']' then
      let host := (server.reverse.dropWhile (· ≠ ']')).reverse
      (host, server.drop host.length)
    else (server.takeWhile (· ≠ ':'), server.dropWhile (· ≠ ':'))
  | _ => (server.takeWhile (· ≠ ':'), server.dropWhile (· ≠ ':'))

def splitUserInfo (authority : List Char) : Option (List Char) :=
  if authority.contains '@' then some ((authority.reverse.dropWhile (· ≠ '@')).drop 1).reverse
  else none

/-- The user name and password of user information, split at its first colon and each
percent-decoded; none when both are empty. -/
def credentialsOf (userInfo : List Char) : Option (List Char × List Char) :=
  let user := percentDecode (userInfo.takeWhile (· ≠ ':'))
  let password := percentDecode ((userInfo.dropWhile (· ≠ ':')).drop 1)
  if user.isEmpty && password.isEmpty then none else some (user, password)

def defaultPort (scheme : List Char) : Option Nat :=
  if scheme = "http".toList ∨ scheme = "ws".toList then some 80
  else if scheme = "https".toList ∨ scheme = "wss".toList then some 443
  else if scheme = "ftp".toList then some 21
  else none

/-- Where a URL leads: its scheme and host in lower case, and its port, the scheme's default
when none is written. Two URLs have the same origin when these agree. -/
structure Origin where
  scheme : List Char
  host : List Char
  port : Option Nat
  deriving DecidableEq, Repr

def Origin.ofParts (scheme authority : List Char) : Origin :=
  let s := scheme.map Char.toLower
  let (host, afterHost) := splitHost authority
  let portText := match afterHost with
    | ':' :: rest => rest
    | rest => rest
  let port := if !portText.isEmpty && portText.all (fun c => '0' ≤ c && c ≤ '9') then
      some (portText.foldl (fun n c => n * 10 + (c.toNat - 48)) 0)
    else defaultPort s
  ⟨s, host.map Char.toLower, port⟩

def Origin.netloc (o : Origin) : List Char :=
  match o.port with
  | some p => if o.port = defaultPort o.scheme then o.host else o.host ++ ':' :: Nat.toDigits 10 p
  | none => o.host

def Origin.base : Origin := ⟨"http".toList, "testserver".toList, some 80⟩

/-- What the client sends for a target: where to, the path, the query string, and the user name
and password that an absolute target names. -/
structure SentTarget where
  origin : Origin
  path : List Char
  query : Option (List Char)
  credentials : Option (List Char × List Char) := none
  deriving DecidableEq, Repr

/-- What the client sends for a target. A target with a scheme and a host is absolute: it goes
to its own origin and sends its own path, `/` when it has none. Any other target is relative to
the client's base: whatever path follows its scheme and authority is sent there with exactly one
leading slash, and its user information is dropped. Dot segments are resolved either way, and a
fragment is never sent. -/
def clientTarget (target : List Char) : SentTarget :=
  let (scheme, afterScheme) := splitScheme target
  let (authority, rest) := splitAuthority afterScheme
  let (path, query) := splitTarget rest
  let s := scheme.getD []
  let a := authority.getD []
  if !s.isEmpty && !(splitHost a).1.isEmpty then
    { origin := Origin.ofParts s a, path := resolveDots (if path.isEmpty then ['/'] else path),
      query, credentials := (splitUserInfo a).bind credentialsOf }
  else { origin := Origin.base, path := resolveDots ('/' :: path.dropWhile (· = '/')), query }

/-- A redirect location with a host in place of an empty one: when a location names a scheme and
no host, a client takes the host of the request it redirects, keeping the rest of the location. -/
def fillHost (host : List Char) (location : List Char) : List Char :=
  match splitScheme location with
  | (some s, afterScheme) =>
    match splitAuthority afterScheme with
    | (some a, rest) =>
      let server := (a.reverse.takeWhile (· ≠ '@')).reverse
      let (h, afterHost) := splitHost server
      if s.isEmpty || !h.isEmpty then location
      else
        let user := ((splitUserInfo a).map (· ++ ['@'])).getD []
        s ++ ':' :: '/' :: '/' :: (user ++ host ++ afterHost) ++ rest
    | (none, _) => location
  | (none, _) => location

def routedPath (path : List Char) : List Char :=
  percentDecode (percentDecode (if path.isEmpty then ['/'] else path))

def queryDecode (cs : List Char) : String :=
  String.ofList (percentDecode (cs.map fun c => if c = '+' then ' ' else c))

def queryItems (query : List Char) : List (String × String) :=
  ((splitAt '&' query).filter (!·.isEmpty)).map fun piece =>
    (queryDecode (piece.takeWhile (· ≠ '=')), queryDecode ((piece.dropWhile (· ≠ '=')).drop 1))

end UserDirectory.Web
