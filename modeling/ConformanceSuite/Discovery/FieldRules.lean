import ConformanceSuite.Discovery.ConfigField
import ConformanceSuite.Discovery.Document

/-!
# Fields that a discovery document asks for

Every client needs the same nineteen fields; each offered endpoint may need more. A field is listed
once, at its first mention, and later mentions of its name change nothing.
-/

namespace ConformanceSuite.Discovery

/-- The fields that describe the client. -/
def clientFields : List ConfigField :=
  ["signing_private", "signing_public", "transport_private", "transport_public", "use_eidas_cert",
    "client_id", "x_fapi_financial_id", "x_fapi_customer_ip_address", "transaction_from_date",
    "transaction_to_date"].map ConfigField.required ++
  [ConfigField.dependent "eidas_signing_kid" ["use_eidas_cert"],
    ConfigField.dependent "eidas_issuer" ["use_eidas_cert"]]

/-- The fields that describe the authorisation server. -/
def wellKnownFields : List ConfigField :=
  ["token_endpoint", "response_type", "token_endpoint_auth_method", "request_object_signing_alg",
    "authorization_endpoint", "resource_base_url", "issuer"].map ConfigField.required

/-- The fields of one account. -/
def accountIds : List String := ["resource_ids.account_ids"]

/-- The fields of one statement. -/
def statementIds : List String := ["resource_ids.account_ids", "resource_ids.statement_ids"]

/-- The fields of a domestic payment. -/
def domestic : List String := ["creditor_account", "instructed_amount"]

/-- The fields of a scheduled domestic payment. -/
def domesticScheduled : List String :=
  ["creditor_account", "instructed_amount", "requested_execution_date_time"]

/-- The fields of a domestic standing order. -/
def domesticStanding : List String :=
  ["creditor_account", "instructed_amount", "payment_frequency", "first_payment_date_time"]

/-- The fields of an international payment. -/
def international : List String :=
  ["international_creditor_account", "currency_of_transfer", "instructed_amount"]

/-- The fields of a scheduled international payment. -/
def internationalScheduled : List String :=
  ["international_creditor_account", "currency_of_transfer", "instructed_amount",
    "requested_execution_date_time"]

/-- The fields of an international standing order. -/
def internationalStanding : List String :=
  ["international_creditor_account", "currency_of_transfer", "instructed_amount",
    "payment_frequency", "first_payment_date_time"]

/-- The field of all resources. -/
def resourceIds : List String := ["resource_ids"]

/-- The field of a debtor account. -/
def cbpiiDebtor : List String := ["cbpii_debtor_account"]

/-- The field of an amount. -/
def instructedAmount : List String := ["instructed_amount"]

/-- The fields that each endpoint needs, by its method and path. -/
def requirementTable : List (String × List String) := [
  ("POST /account-access-consents", []),
  ("GET /account-access-consents/{ConsentId}", []),
  ("DELETE /account-access-consents/{ConsentId}", []),
  ("GET /accounts", []),
  ("GET /accounts/{AccountId}", accountIds),
  ("GET /accounts/{AccountId}/balances", accountIds),
  ("GET /accounts/{AccountId}/beneficiaries", accountIds),
  ("GET /accounts/{AccountId}/direct-debits", accountIds),
  ("GET /accounts/{AccountId}/offers", accountIds),
  ("GET /accounts/{AccountId}/party", accountIds),
  ("GET /accounts/{AccountId}/product", accountIds),
  ("GET /accounts/{AccountId}/scheduled-payments", accountIds),
  ("GET /accounts/{AccountId}/standing-orders", accountIds),
  ("GET /accounts/{AccountId}/statements", accountIds),
  ("GET /accounts/{AccountId}/statements/{StatementId}", statementIds),
  ("GET /accounts/{AccountId}/statements/{StatementId}/file", statementIds),
  ("GET /accounts/{AccountId}/statements/{StatementId}/transactions", statementIds),
  ("GET /accounts/{AccountId}/transactions", resourceIds),
  ("GET /balances", []),
  ("GET /beneficiaries", []),
  ("GET /direct-debits", []),
  ("GET /offers", []),
  ("GET /party", []),
  ("GET /products", []),
  ("GET /scheduled-payments", []),
  ("GET /standing-orders", []),
  ("GET /statements", []),
  ("GET /transactions", []),
  ("POST /domestic-payment-consents", domestic),
  ("GET /domestic-payment-consents/{ConsentId}", []),
  ("GET /domestic-payment-consents/{ConsentId}/funds-confirmation", []),
  ("POST /domestic-payments", domestic),
  ("GET /domestic-payments/{DomesticPaymentId}", []),
  ("POST /domestic-scheduled-payment-consents", domesticScheduled),
  ("GET /domestic-scheduled-payment-consents/{ConsentId}", []),
  ("POST /domestic-scheduled-payments", domesticScheduled),
  ("GET /domestic-scheduled-payments/{DomesticScheduledPaymentId}", []),
  ("POST /domestic-standing-order-consents", domesticStanding),
  ("GET /domestic-standing-order-consents/{ConsentId}", []),
  ("POST /domestic-standing-orders", domesticStanding),
  ("GET /domestic-standing-orders/{DomesticStandingOrderId}", []),
  ("POST /international-payment-consents", international),
  ("GET /international-payment-consents/{ConsentId}", []),
  ("GET /international-payment-consents/{ConsentId}/funds-confirmation", []),
  ("POST /international-payments", international),
  ("GET /international-payments/{InternationalPaymentId}", []),
  ("POST /international-scheduled-payment-consents", internationalScheduled),
  ("GET /international-scheduled-payment-consents/{ConsentId}", []),
  ("GET /international-scheduled-payment-consents/{ConsentId}/funds-confirmation", []),
  ("POST /international-scheduled-payments", internationalScheduled),
  ("GET /international-scheduled-payments/{InternationalScheduledPaymentId}", []),
  ("POST /international-standing-order-consents", internationalStanding),
  ("GET /international-standing-order-consents/{ConsentId}", []),
  ("POST /international-standing-orders", internationalStanding),
  ("GET /international-standing-orders/{InternationalStandingOrderPaymentId}", []),
  ("POST /file-payment-consents", []),
  ("GET /file-payment-consents/{ConsentId}", []),
  ("POST /file-payment-consents/{ConsentId}/file", []),
  ("GET /file-payment-consents/{ConsentId}/file", []),
  ("POST /file-payments", []),
  ("GET /file-payments/{FilePaymentId}", []),
  ("GET /file-payments/{FilePaymentId}/report-file", []),
  ("POST /funds-confirmation-consents", cbpiiDebtor),
  ("GET /funds-confirmation-consents/{ConsentId}", []),
  ("DELETE /funds-confirmation-consents/{ConsentId}", []),
  ("POST /funds-confirmations", instructedAmount)]

/-- The fields that an endpoint needs, if the endpoint is known. -/
def requirementsOf (key : String) : Option (List String) :=
  requirementTable.lookup key

/-- The fields that an offered endpoint adds. -/
def endpointFields (e : Endpoint) : List ConfigField :=
  ((requirementsOf e.key).getD []).map ConfigField.required

/-- Keep the fields whose names are neither listed nor mentioned before. -/
def firstMentions : (seen : List String) → List ConfigField → List ConfigField
  | _, [] => []
  | seen, f :: rest =>
    if seen.contains f.name then firstMentions seen rest
    else f :: firstMentions (f.name :: seen) rest

/-- The fields that a document asks for, in the order of their first mention. -/
def fieldsFor (d : DiscoveryDocument) : List ConfigField :=
  firstMentions [] (clientFields ++ wellKnownFields ++ d.endpoints.flatMap endpointFields)

end ConformanceSuite.Discovery
