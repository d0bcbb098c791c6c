import NetSteward.Settings
import NetSteward.Text.Blank
/-!
# The link to the VPC service

A link is what is needed to reach the service: its address, the version
of its interface, a time limit and a key. It is set up from the
settings, which can be at fault.
-/

namespace NetSteward

namespace Remote

/-- A link to the service. -/
structure Link where
  serviceUrl : Json
  version : Json
  timeout : Json
  apiKey : String
  pageLimit : Json

namespace Link

/-- What can be wrong with the settings of a link. -/
inductive Fault
  | noApiKey
  | bracketedApiKey
  | noVersion
  | bracketedUrl
deriving DecidableEq

/-- What stands before the message about settings that were refused. -/
def invalidLead : String := "Invalid VPC client configuration: "

/-- The message about a fault. -/
def Fault.message : Fault → String
  | noApiKey => "IBMCLOUD_API_KEY is not set; cannot authenticate against the VPC API."
  | bracketedApiKey =>
    invalidLead ++ "The apikey shouldn't start or end with curly brackets or quotes. " ++
      "Please remove any surrounding \x7b, \x7d, or \" characters."
  | noVersion => invalidLead ++ "version must be provided"
  | bracketedUrl =>
    invalidLead ++ "The service url shouldn't start or end with curly brackets or quotes. " ++
      "Be sure to remove any \x7b\x7d and \" characters surrounding your service url"

/-- Whether a text starts or ends with a bracket or quote that was
copied along with it. -/
def isBracketed (s : String) : Bool :=
  let cs := s.toList
  let starts := match cs.head? with
    | some c => c = '\x7b' || c = '"'
    | none => false
  let ends := match cs.getLast? with
    | some c => c = '\x7d' || c = '"'
    | none => false
  starts || ends

/-- The address of the service, which may be none. Slashes at its end are
dropped. -/
def address : Json → Except Mismatch (Except Fault Json)
  | .str url =>
    if isBracketed url then .ok (.error .bracketedUrl)
    else .ok (.ok (.str (String.ofList (Text.stripEnd (· == '/') url.toList))))
  | .null => .ok (.ok .null)
  | _ => .error .noMembers

/-- Sets up a link from the settings: with a key, then with a version of
the interface, then with an address. -/
def ofSettings (s : Settings) : Except Mismatch (Except Fault Link) :=
  if !s.apiKey.isGiven then .ok (.error .noApiKey)
  else match s.apiKey with
    | .str key =>
      if isBracketed key then .ok (.error .bracketedApiKey)
      else if s.apiVersion.isNull then .ok (.error .noVersion)
      else match address s.serviceUrl with
        | .error m => .error m
        | .ok (.error fault) => .ok (.error fault)
        | .ok (.ok url) => .ok (.ok {
            serviceUrl := url
            version := s.apiVersion
            timeout := s.httpTimeout
            apiKey := key
            pageLimit := s.pageLimit })
    | _ => .error .noMembers

/-- A link as a JSON value. -/
def toJson (l : Link) : Json :=
  .obj [("service_url", l.serviceUrl), ("version", l.version),
    ("http_config", .obj [("timeout", l.timeout)]), ("apikey", .str l.apiKey),
    ("page_limit", l.pageLimit)]

end Link

end Remote

end NetSteward
