import UserDirectory.Session.Scenario
import UserDirectory.Web.App

/-!
# Sessions over HTTP

An HTTP session starts the service and sends it requests through a test client.

1. The store is seeded with the preset profiles, and the identity provider's one-shot failure is
   armed if one is given.
2. At startup the administrator is seeded from the settings. Outside the test environment a
   fault stops the session; in the test environment it is forgotten and the seed state is
   unknown.
3. The steps run in order: arranging steps as in a scenario, and requests. The client sends a
   request with `Authorization: Bearer <token>` when it has a token (replacing a header of that
   exact name), and with the content type `application/json` when it has a body and no content
   type of its own. Query parameters given to the client replace the target's own query string,
   an empty set of them included.
4. The session reports the seed state, every step's reply and the final counters.
-/

namespace UserDirectory.Session

open UserDirectory.Account UserDirectory.Web UserDirectory.Json

variable [V : Mail.AddressValidator] [F : Web.Framework]

/-- The environment the service runs in. -/
inductive Environment where
  | development
  | test
  | production
  deriving DecidableEq, Repr

/-- The service's settings. -/
structure Settings where
  environment : Environment := .test
  seedOnStartup : Bool := false
  adminEmail : Given := .none
  adminPassword : Given := .none
  adminDisplayName : Given := .none
  deriving DecidableEq, Repr

/-- The seed configuration of the settings. -/
def Settings.seedConfig (s : Settings) : SeedConfig :=
  { enabled := s.seedOnStartup, email := s.adminEmail, password := s.adminPassword,
    displayName := s.adminDisplayName }

/-- A request as a step gives it to the test client. -/
structure ClientRequest where
  method : String
  path : String
  token : Option String := none
  headers : List (String × String) := []
  query : Option (List (String × String)) := none
  body : Option String := none
  deriving Repr

/-- The text of a query parameter's value as the client writes it: `true` and `false` in lower
case, the empty text for `null`, and the display text of anything else. -/
def paramText : Value → String
  | .bool true => "true"
  | .bool false => "false"
  | .null => ""
  | v => v.display.toStringLossy

/-- The query parameters that a step gives the client: a member once, or once per item when its
value is a list. -/
def queryParams (members : List (String × Value)) : List (String × String) :=
  members.flatMap fun (k, v) => match v with
    | .arr items => items.map fun i => (k, paramText i)
    | v => [(k, paramText v)]

/-- The query parameters of a step's `query`: none when it is `null` or missing (the target's own
query string counts), the members of an object, or the items of a query string. -/
def givenQuery? : Value → Option (List (String × String))
  | .obj members => some (queryParams members)
  | .str s => some (queryItems s.toStringLossy.toList)
  | _ => none

/-- Whether a header name is the given one in any case. -/
def sameName (a b : String) : Bool :=
  a.toList.map Char.toLower == b.toList.map Char.toLower

/-- Sets a header of an exact name: in place when present, else last. -/
def putHeader (hs : List (String × String)) (name value : String) : List (String × String) :=
  if hs.any (·.1 = name) then hs.map fun h => if h.1 = name then (name, value) else h
  else hs ++ [(name, value)]

/-- The request that the client sends. -/
def ClientRequest.toRequest (c : ClientRequest) : Request :=
  let withAuth := match c.token with
    | some t => putHeader c.headers "Authorization" ("Bearer " ++ t)
    | none => c.headers
  let headers := match c.body with
    | some _ =>
      if withAuth.any (sameName ·.1 "content-type") then withAuth
      else withAuth ++ [("content-type", "application/json")]
    | none => withAuth
  { method := String.ofList (c.method.toList.map Char.toUpper), target := c.path,
    query := c.query, headers, body := c.body.getD "" }

/-- A step of an HTTP session. -/
inductive HttpStep where
  | arrange (s : Step)
  | send (r : ClientRequest)
  deriving Repr

/-- What a step of an HTTP session answers. -/
inductive HttpReply where
  | arranged (r : Except Fault Reply)
  | exchanged (x : Exchange)

/-- An HTTP session. -/
structure HttpSession where
  settings : Settings := {}
  preseed : List ProfileSpec := []
  providerFailure : Option Text := none
  presets : List Given := []
  steps : List HttpStep := []
  deriving Repr

/-- How a session ends. -/
inductive SessionReport where
  /-- Seeding the preset profiles failed. -/
  | setupFailed (f : Fault)
  /-- Startup failed outside the test environment. -/
  | startupFailed (f : Fault)
  /-- The session ran: seed state, replies and final counters. -/
  | ran (state : Option SeedState) (replies : List HttpReply) (counts : Counts)

/-- Runs one step of a session. -/
def runHttpStep : HttpStep → Act HttpReply
  | .arrange s => HttpReply.arranged <$> attempt (runStep s)
  | .send r => HttpReply.exchanged <$> exchange r.toRequest

/-- Starts the service: seeds the presets, arms the provider, seeds the administrator. -/
def startup (s : HttpSession) : Act (Except Fault (Option SeedState)) := do
  match ← attempt (s.preseed.forM fun p => discard (seedProfile p)) with
  | .error f => return .error f
  | .ok () =>
    modify fun w => { w with provider := { w.provider with failure := s.providerFailure } }
    match ← attempt (seedAdmin s.settings.seedConfig) with
    | .ok st => return .ok (some st)
    | .error f => if s.settings.environment = .test then return .ok none else throw f

/-- Runs a session. -/
def runSession (s : HttpSession) : SessionReport :=
  let run : Act SessionReport := do
    match ← attempt (startup s) with
    | .error f => return .startupFailed f
    | .ok (.error f) => return .setupFailed f
    | .ok (.ok st) =>
      let replies ← s.steps.mapM runHttpStep
      return .ran st replies (countsOf (← get))
  match (run.run.run (initialWorld s.presets)).1 with
  | .ok r => r
  | .error f => .setupFailed f

end UserDirectory.Session
