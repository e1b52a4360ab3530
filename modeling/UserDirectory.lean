import UserDirectory.Account.Bootstrap
import UserDirectory.Account.Clock
import UserDirectory.Account.Event
import UserDirectory.Account.Failure
import UserDirectory.Account.Field
import UserDirectory.Account.Instant
import UserDirectory.Account.Listing
import UserDirectory.Account.Policy
import UserDirectory.Account.Profile
import UserDirectory.Account.Provider
import UserDirectory.Account.Redact
import UserDirectory.Account.Service
import UserDirectory.Account.Store
import UserDirectory.Account.World
import UserDirectory.Domain.Label
import UserDirectory.Domain.Mapping
import UserDirectory.Domain.MappingData
import UserDirectory.Domain.Punycode
import UserDirectory.Domain.ValidityData
import UserDirectory.Ident.Uuid
import UserDirectory.Json.Read
import UserDirectory.Json.Show
import UserDirectory.Json.Value
import UserDirectory.Json.Write
import UserDirectory.Mail.Address
import UserDirectory.Mail.Domain
import UserDirectory.Mail.Validator
import UserDirectory.Number.Binary
import UserDirectory.Number.Layout
import UserDirectory.Number.Numeral
import UserDirectory.Proofs.Run
import UserDirectory.Proofs.StoreUnique
import UserDirectory.Proofs.TokenClaims
import UserDirectory.Session.Http
import UserDirectory.Session.Scenario
import UserDirectory.Session.Runtime
import UserDirectory.Text.Basic
import UserDirectory.Text.Blank
import UserDirectory.Text.Digest
import UserDirectory.Text.Given
import UserDirectory.Text.Infix
import UserDirectory.Text.Literal
import UserDirectory.Token.Claims
import UserDirectory.Token.Platform
import UserDirectory.Token.Verify
import UserDirectory.Unicode.Bidi
import UserDirectory.Unicode.BidiData
import UserDirectory.Unicode.Case
import UserDirectory.Unicode.CaseData
import UserDirectory.Unicode.Category
import UserDirectory.Unicode.CategoryData
import UserDirectory.Unicode.Normal
import UserDirectory.Unicode.NormalData
import UserDirectory.Unicode.Table
import UserDirectory.Web.App
import UserDirectory.Web.Client
import UserDirectory.Web.Framework
import UserDirectory.Web.Query
import UserDirectory.Web.Request
import UserDirectory.Web.Response
import UserDirectory.Web.Route
import UserDirectory.Web.Target
import UserDirectory.Proofs.Ownership
import UserDirectory.Proofs.Enumeration
import UserDirectory.Proofs.ReadPaths
import UserDirectory.Proofs.Frame
import UserDirectory.Proofs.Outcomes
import UserDirectory.Proofs.Effects
import UserDirectory.Proofs.Runs
import UserDirectory.Proofs.SoftDelete
import UserDirectory.Proofs.Seeding
import UserDirectory.Proofs.Paging
import UserDirectory.Proofs.Additions
import UserDirectory.Proofs.Audit
import UserDirectory.Proofs.LowerCase
import UserDirectory.Proofs.WellFormed
import UserDirectory.Proofs.Creation
import UserDirectory.Proofs.PageCount
import UserDirectory.Proofs.EmailKey
import UserDirectory.Proofs.SeedFaults
import UserDirectory.Proofs.IdSpelling
import UserDirectory.Proofs.PlatformAdmin
