import ConformanceSuite.Json.Encoder

/-!
# Registered API specifications

The specifications that the suite supports, each identified by the address of its schema.
-/

namespace ConformanceSuite

/-- A registered API specification. -/
structure Specification where
  identifier : String
  name : String
  url : String
  version : String
  schemaVersion : String
  deriving DecidableEq, Inhabited

namespace Specification

/-- The registered specifications. -/
def registered : List Specification := [
  { identifier := "account-transaction-v3.0"
    name := "Account and Transaction API Specification"
    url := "https://openbanking.atlassian.net/wiki/spaces/DZ/pages/642090641/Account+and+Transaction+API+Specification+-+v3.0"
    version := "v3.0"
    schemaVersion := "https://raw.githubusercontent.com/OpenBankingUK/read-write-api-specs/v3.0.0/dist/account-info-swagger.json" },
  { identifier := "account-transaction-v3.1"
    name := "Account and Transaction API Specification"
    url := "https://openbanking.atlassian.net/wiki/spaces/DZ/pages/937820271/Account+and+Transaction+API+Specification+-+v3.1"
    version := "v3.1"
    schemaVersion := "https://raw.githubusercontent.com/OpenBankingUK/read-write-api-specs/v3.1.0/dist/account-info-swagger.json" },
  { identifier := "payment-initiation-v3.1"
    name := "Payment Initiation API"
    url := "https://openbanking.atlassian.net/wiki/spaces/DZ/pages/937754701/Payment+Initiation+API+Specification+-+v3.1"
    version := "v3.1"
    schemaVersion := "https://raw.githubusercontent.com/OpenBankingUK/read-write-api-specs/v3.1.0/dist/payment-initiation-swagger.json" },
  { identifier := "confirmation-funds-v3.1"
    name := "Confirmation of Funds API Specification"
    url := "https://openbanking.atlassian.net/wiki/spaces/DZ/pages/937951380/Confirmation+of+Funds+API+Specification+-+v3.1"
    version := "v3.1"
    schemaVersion := "https://raw.githubusercontent.com/OpenBankingUK/read-write-api-specs/v3.1.0/dist/confirmation-funds-swagger.json" },
  { identifier := "event-notification-aspsp-v3.1"
    name := "Event Notification API Specification - ASPSP Endpoints"
    url := "https://openbanking.atlassian.net/wiki/spaces/DZ/pages/937951397/Event+Notification+API+Specification+-+v3.1"
    version := "v3.1"
    schemaVersion := "https://raw.githubusercontent.com/OpenBankingUK/read-write-api-specs/v3.1.0/dist/callback-urls-swagger.yaml" },
  { identifier := "event-notification-tpp-v3.1"
    name := "Event Notification API Specification - TPP Endpoints"
    url := "https://openbanking.atlassian.net/wiki/spaces/DZ/pages/937951397/Event+Notification+API+Specification+-+v3.1"
    version := "v3.1"
    schemaVersion := "https://raw.githubusercontent.com/OpenBankingUK/read-write-api-specs/v3.1.0/dist/event-notifications-swagger.json" }]

/-- The registered specification with a schema address. -/
def ofSchemaVersion? (schemaVersion : String) : Option Specification :=
  registered.find? (·.schemaVersion = schemaVersion)

/-- What is said of a schema address that no registered specification has. -/
def notFoundMessage (schemaVersion : String) : String :=
  s!"no specifications found for schema version: {schemaVersion}"

/-- The value of a registered specification. -/
def toJson (s : Specification) : Json :=
  .object [("identifier", .string s.identifier), ("name", .string s.name), ("url", .string s.url),
    ("version", .string s.version), ("schema_version", .string s.schemaVersion)]

end Specification

end ConformanceSuite
