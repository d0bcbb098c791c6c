import NetSteward.Caller
import NetSteward.Operation
import NetSteward.Token.Lifetime
import NetSteward.Web.Body
import NetSteward.Web.Endpoint
import NetSteward.Web.Request
import NetSteward.Web.Response
import NetSteward.Web.Target
/-!
# The front

The front answers requests. A request is taken through stages, and the
first that objects gives the answer: the path and the method must name
an endpoint, a JSON body must be well formed, the caller must be known,
the link to the service must be set up, and the values in the path and
in the body must pass their checks. Only then is anything done outside.
-/

namespace NetSteward

namespace Web

/-- How the front is set up. -/
structure Front where
  /-- Whether callers have to show a token. -/
  checksTokens : Bool
  /-- Whether the link to the service is set up from the settings for
  each request that needs it. -/
  setsUpLink : Bool

/-! ## Who calls -/

/-- The token that a request shows. -/
def bearerToken? (r : Request) : Option String :=
  let (scheme, token) := Text.cutAt ' ' ((r.header? "authorization").getD "").toList
  if Text.asciiLower (String.ofList scheme) = "bearer" then
    some (String.ofList (Text.strip Text.isBlank token))
  else none

/-- The answer to a request whose caller is not known, none if the
caller is. -/
def objectionToCaller (s : Settings) (now : Time.Instant) (r : Request) : Option Response :=
  match bearerToken? r with
  | none => some (.unauthenticated "Not authenticated")
  | some token => match Token.subjectOf s now token with
    | .ok (some _) => none
    | .ok none => some (.unauthenticated "Invalid or expired token")
    | .error _ => some .internal

/-! ## What the endpoints do -/

/-- Answers with what an action yields. -/
def answering {α : Type} (respond : α → Response) (x : Action α) : Action Response :=
  respond <$> x

/-- The token that a caller gets, and for how long. -/
def tokenJson (token : String) (seconds : Int) : Json :=
  .obj [("access_token", .str token), ("token_type", .str "bearer"), ("expires_in", .int seconds)]

/-- Issues a token to a caller that presents its secret. -/
def issueToken (c : Body.Credentials) : Action Response := do
  let w ← Action.world
  if ← Action.ofShape (Caller.authenticate w.settings (.str c.id) (.str c.secret)) then
    let token ← Action.ofShape (Token.issue w.settings w.clock (.str c.id) none)
    let seconds ← Action.ofRead (Token.secondsGranted w.settings)
    return .ok (tokenJson token seconds)
  else return .unauthenticated "Incorrect client id or secret"

/-- The answer that no configuration of a VPC is managed. -/
def noDnsConfig (vpcId : String) : Response :=
  .detail (.int 404) ("No DNS configuration managed for VPC '" ++ vpcId ++ "'.")

/-- The identifier of a VPC in a path. -/
def pathVpcId (vpcId : String) : Checked String :=
  ((Schema.identifier (.str vpcId)).within (.member "vpc_id")).within (.member "path")

/-- What an endpoint does with a body, if the values in the path and in
the body pass. -/
def handler : Endpoint → Body → Checked (Action Response)
  | .issueToken, body => issueToken <$> body.credentials
  | .health, _ => .ok (return .ok (.obj [("status", .str "ok")]))
  | .createDns, body =>
    (fun d => answering (fun s => .created s.attributes) (Dns.create d)) <$>
      body.record (Dns.Desired.check .request)
  | .listDns, _ =>
    .ok (answering (fun ss => .ok (Dns.Listing.ofStates ss).toJson) Dns.list)
  | .readDns vpcId, _ =>
    (fun v => answering (fun s => .ok s.attributes) (Dns.read (.str v))) <$> pathVpcId vpcId
  | .updateDns vpcId, body =>
    (fun v c => answering (fun s => .ok s.attributes) (Dns.update (.str v) c)) <$>
      pathVpcId vpcId <*> body.record (Dns.Changes.check .request)
  | .importDns vpcId, _ =>
    (fun v => answering (fun s => .ok s.attributes) (Dns.adopt (.str v))) <$> pathVpcId vpcId
  | .deleteDns vpcId, _ =>
    (fun v => answering (fun found => if found then .noContent else noDnsConfig v)
      (Dns.delete (.str v))) <$> pathVpcId vpcId
  | .createBinding vpcId, body =>
    (fun r => answering (fun b => .created b.toJson) (Binding.create (.str vpcId) r)) <$>
      body.record (Binding.Request.check .request)
  | .listBindings vpcId, _ =>
    .ok (answering (fun bs => .ok (Binding.Listing.ofBindings vpcId bs).toJson)
      (Binding.list (.str vpcId)))
  | .readBinding vpcId id, _ =>
    .ok (answering (fun b => .ok b.toJson) (Binding.read (.str vpcId) (.str id)))
  | .lookUpBinding vpcId id, _ =>
    .ok (answering (fun b => .ok b.toJson) (Binding.fetch (.str vpcId) (.str id)))
  | .renameBinding vpcId id, body =>
    (fun r => answering (fun b => .ok b.toJson) (Binding.rename (.str vpcId) (.str id) r)) <$>
      body.record (Binding.Renaming.check .request)
  | .deleteBinding vpcId id, _ =>
    .ok (answering (fun _ => .noContent) (Binding.delete (.str vpcId) (.str id)))
  | .createGroup, body =>
    (fun r => answering (fun g => .created g.toJson) (PlacementGroup.create r)) <$>
      body.record (PlacementGroup.Request.check .request)
  | .listGroups, _ =>
    .ok (answering (fun gs => .ok (PlacementGroup.Listing.ofGroups gs).toJson)
      PlacementGroup.list)
  | .readGroup id, _ => .ok (answering (fun g => .ok g.toJson) (PlacementGroup.read (.str id)))
  | .lookUpGroup id, _ => .ok (answering (fun g => .ok g.toJson) (PlacementGroup.fetch (.str id)))
  | .renameGroup id, body =>
    (fun r => answering (fun g => .ok g.toJson) (PlacementGroup.rename (.str id) r)) <$>
      body.record (PlacementGroup.Renaming.check .request)
  | .deleteGroup id, _ => .ok (answering (fun _ => .noContent) (PlacementGroup.delete (.str id)))
  | .listRoutes vpcId tableId, _ =>
    .ok (answering (fun rs => .ok (Route.Listing.ofRoutes vpcId tableId rs).toJson)
      (Route.list (.str vpcId) (.str tableId)))

/-! ## The stages -/

/-- The body of a request, as an endpoint takes it. -/
def readBody (e : Endpoint) (r : Request) (bytes : Bytes) : Except Body.Fault Body :=
  let contentType := (r.header? "content-type").getD ""
  match e.intake with
  | .nothing => .ok .absent
  | .record => Body.ofRecordBytes contentType bytes
  | .form => Body.ofFormBytes contentType bytes

/-- The answer to a request whose body is refused. -/
def refusal : Body.Fault → Response
  | .malformed offset => .invalid [⟨.brokenText, [.member "body", .item offset]⟩]
  | .unreadable => .detail (.int 400) "There was an error parsing the body"
  | .form fault => .detail (.int 400) fault.message

/-- The answer to a request that the caller or the settings keep from its
endpoint, none if they do not. -/
def Front.objection (f : Front) (s : Settings) (now : Time.Instant) (e : Endpoint)
    (r : Request) : Option Response :=
  match if f.checksTokens && e.isGuarded then objectionToCaller s now r else none with
  | some answer => some answer
  | none =>
    if f.setsUpLink && e.usesLink then
      match Remote.Link.ofSettings s with
      | .error _ => some .internal
      | .ok (.error fault) => some (.ofFailure (.unlinked fault))
      | .ok (.ok _) => none
    else none

/-- Answers with what an action does; a failure is an answer too. -/
def settle (x : Action Response) : Action Response :=
  x.recover fun f => some (return .ofFailure f)

/-- Answers a request to an endpoint. -/
def Front.serve (f : Front) (e : Endpoint) (r : Request) (bytes : Bytes) :
    Action Response := do
  let w ← Action.world
  match readBody e r bytes with
  | .error fault => return refusal fault
  | .ok body =>
    match f.objection w.settings w.clock e r with
    | some answer => return answer
    | none => match handler e body with
      | .failed issues =>
        return if body.canReport issues then .invalid issues else .internal
      | .ok x => settle x

/-- The answer to a path that names no endpoint: if it does without the
slashes at its end, the caller is sent there. -/
def elsewhere (r : Request) (t : Target) : Response :=
  let shorter := Text.stripEnd (· == '/') t.path
  if t.path.getLast? == some '/' && !(Endpoint.ofPath (Target.segments shorter)).isEmpty then
    .moved (t.location (r.header? "host") shorter)
  else .notFound

/-- Answers a request at a target, whose body is some bytes. -/
def Front.route (f : Front) (r : Request) (t : Target) (bytes : Bytes) : Action Response :=
  match Endpoint.ofPath (Target.segments t.path) with
  | [] => return elsewhere r t
  | endpoints => match Keyed.get? endpoints r.method with
    | some e => f.serve e r bytes
    | none => return .notAllowed

/-- The answer as it is sent: one that cannot be sent is an internal
error, and there is no body in it if only the head is asked for. -/
def sent (r : Request) (response : Response) : Response :=
  let response := if response.body.isSendable then response else .internal
  if r.method = "HEAD" then response.bare else response

/-- **Answers a request.** -/
def Front.answer (f : Front) (r : Request) : Action Response := do
  let target ← Action.ofShape (Target.ofText r.target)
  let bytes ← Action.ofShape r.bytes
  match target.schemeFault? with
  | some fault => Action.ofShape (.error fault)
  | none => sent r <$> f.route (if target.hasUser then r.ofUser else r) target bytes

end Web

end NetSteward
