import NetSteward.Json.Access
import NetSteward.Schema.Record
import NetSteward.Text.Blank
/-!
# Settings

Every setting has a default and can be set by name, in any case of the
name. Such values are checked. A setting can also be set as it is, to a
value of any form, which shows where it is used. The callers that may ask
for a token are a text of pairs: `id:secret`, separated by commas.
-/

namespace NetSteward

/-- The settings of the program. -/
structure Settings where
  apiKey : Json
  serviceUrl : Json
  apiVersion : Json
  httpTimeout : Json
  pageLimit : Json
  tokenKey : Json
  tokenAlgorithm : Json
  tokenMinutes : Json
  apiClients : Json
  region : Json
  accessKeyId : Json
  secretAccessKey : Json
  tableName : Json
  endpointUrl : Json

namespace Settings

/-- The settings when nothing is set. -/
def default : Settings where
  apiKey := .str ""
  serviceUrl := .str "https://us-south.iaas.cloud.ibm.com/v1"
  apiVersion := .str "2025-04-08"
  httpTimeout := .int 130
  pageLimit := .int 50
  tokenKey := .str "changeme-super-secret-key"
  tokenAlgorithm := .str "HS256"
  tokenMinutes := .int 60
  apiClients := .str "terraform:secret"
  region := .str "us-east-1"
  accessKeyId := .str ""
  secretAccessKey := .str ""
  tableName := .str "vpc_provider_state"
  endpointUrl := .str ""

/-- The settings as named values. -/
def members (s : Settings) : Keyed Json :=
  [("ibmcloud_api_key", s.apiKey), ("vpc_service_url", s.serviceUrl),
    ("vpc_api_version", s.apiVersion), ("vpc_http_timeout", s.httpTimeout),
    ("list_page_limit", s.pageLimit), ("jwt_secret_key", s.tokenKey),
    ("jwt_algorithm", s.tokenAlgorithm), ("jwt_expire_minutes", s.tokenMinutes),
    ("api_clients", s.apiClients), ("aws_region", s.region),
    ("aws_access_key_id", s.accessKeyId), ("aws_secret_access_key", s.secretAccessKey),
    ("dynamodb_table_name", s.tableName), ("dynamodb_endpoint_url", s.endpointUrl)]

/-- The settings as a JSON value. -/
def toJson (s : Settings) : Json := .obj s.members

/-- The names of the settings. -/
def names : List String := Keyed.keys default.members

/-- Reads the settings from named values, each by one of two checks,
with the default for those that are not named. -/
def readBy (text integer : Json → Checked Json) (ms : Keyed Json) : Checked Settings :=
  let text (field : String) (value : Json) := Schema.defaulted field value text ms
  let integer (field : String) (value : Json) := Schema.defaulted field value integer ms
  Settings.mk <$> text "ibmcloud_api_key" default.apiKey <*>
    text "vpc_service_url" default.serviceUrl <*>
    text "vpc_api_version" default.apiVersion <*>
    integer "vpc_http_timeout" default.httpTimeout <*>
    integer "list_page_limit" default.pageLimit <*>
    text "jwt_secret_key" default.tokenKey <*>
    text "jwt_algorithm" default.tokenAlgorithm <*>
    integer "jwt_expire_minutes" default.tokenMinutes <*>
    text "api_clients" default.apiClients <*>
    text "aws_region" default.region <*>
    text "aws_access_key_id" default.accessKeyId <*>
    text "aws_secret_access_key" default.secretAccessKey <*>
    text "dynamodb_table_name" default.tableName <*>
    text "dynamodb_endpoint_url" default.endpointUrl

/-- The default settings but for those that are set, unchecked. -/
def ofValues (ms : Keyed Json) : Settings :=
  match readBy .ok .ok ms with
  | .ok s => s
  | .failed _ => default

/-- The settings that named values give, checked. -/
def check (ms : Keyed Json) : Checked Settings :=
  readBy (fun j => Json.str <$> Schema.text j) (fun j => Json.int <$> Schema.integer j) ms

/-- A name in lower case. The kelvin sign counts as a letter. -/
def lowerName (name : String) : String :=
  Text.asciiLower (name.map fun c => if c = '\u212A' then 'k' else c)

/-! ## The callers -/

/-- The pair that an entry writes, if it has a colon: what stands before
the first one and after it, without blanks around. -/
def callerOfEntry? (entry : List Char) : Option (String × String) :=
  (Text.splitFirst? ':' (Text.strip Text.isBlank entry)).map fun (id, secret) =>
    (String.ofList (Text.strip Text.isBlank id), String.ofList (Text.strip Text.isBlank secret))

/-- The secrets that a text of pairs gives to callers. Of two pairs for
one caller the later one counts. -/
def callersOf (pairs : String) : Keyed String :=
  Keyed.ofPairs ((Text.splitAll ',' pairs.toList).filterMap callerOfEntry?)

/-- The secrets of the callers. -/
def callers (s : Settings) : Except Mismatch (Keyed String) :=
  match s.apiClients with
  | .str pairs => .ok (callersOf pairs)
  | _ => .error .noMembers

end Settings

end NetSteward
