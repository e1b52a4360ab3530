import UserDirectory.Mail.Address
import UserDirectory.Mail.Validator
import UserDirectory.Web.Client

/-!
# What the service runs with

The service's code takes its address validator and its web framework as parameters. It runs with
email_validator 2.3.0, whose normalization `UserDirectory.Mail.normalizeAddress?` follows, with
deliverability checks off, and with the router and test client of `UserDirectory.Web.Client`.
These are no instances: statements about the service hold for every validator and framework, and
a run at the ones the service uses names them.
-/

namespace UserDirectory.Session

/-- The address validator the service runs with. -/
@[reducible] def emailValidator : Mail.AddressValidator := ⟨Mail.normalizeAddress?⟩

/-- The web framework the service runs with. -/
@[reducible] def webFramework : Web.Framework :=
  ⟨Web.clientPlacement, Web.readPayload, Web.bearerCredentials⟩

end UserDirectory.Session
