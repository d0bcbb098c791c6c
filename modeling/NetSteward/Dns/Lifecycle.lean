import NetSteward.Remote.Exchange
import NetSteward.Store.Memory
/-!
# The life of a DNS configuration

A configuration is created on a VPC or adopted from it, read back,
changed and deleted. To delegate, a VPC needs a binding to the VPC that
it delegates to; the binding is created before the patch that uses it,
and the old one is removed after the patch that gives it up. What was
created for a patch that is then refused is removed again.
-/

namespace NetSteward

namespace Dns

open Remote (Call send sendFor)
open Memory (remember retrieveManaged retrieve forget dropGone)

/-! ## Single steps -/

/-- What a refused patch is reported under. -/
def patchPurpose : String := "Error updating VPC DNS configuration"

/-- What a refused reset is reported under. -/
def resetPurpose : String := "Error resetting VPC DNS configuration"

/-- A binding that was just created: its identifier and its name as the
service gave them. -/
structure NewBinding where
  id : Json
  name : Json

/-- Creates the binding that a configuration needs. -/
def Desired.createBinding (d : Desired) : Action NewBinding := do
  let binding ← send (.createBinding (.str d.vpcId) d.resolverVpc (.ofOption d.bindingName))
  let id ← Action.ofShape (binding.require "id")
  let name ← Action.ofShape (binding.find "name")
  return ⟨id, name⟩

/-- Brings the VPC into a configuration. -/
def Desired.apply (d : Desired) : Action Unit := do
  let _ ← sendFor patchPurpose (.patchVpc (.str d.vpcId) d.patch)

/-- Removes a binding; a refusal is passed over. -/
def removeBindingQuietly (vpcId bindingId : Json) : Action Unit :=
  (do let _ ← send (.deleteBinding vpcId bindingId)).onRefusal fun _ => pure ()

/-- Removes a binding quietly if one is given. -/
def removeGivenQuietly (vpcId bindingId : Json) : Action Unit :=
  if bindingId.isGiven then removeBindingQuietly vpcId bindingId else pure ()

/-- Brings the VPC into a configuration. If that is refused, the binding
that was created for it, if any, is removed before the refusal is passed
on. -/
def Desired.applyOrRollBack (d : Desired) (created : Json) : Action Unit :=
  d.apply.afterRefusal (removeGivenQuietly (.str d.vpcId) created)

/-- The name of the first of some bindings with an identifier, null if
there is none. -/
def nameOfBinding (bindingId : Json) : List Json → Except Mismatch Json
  | [] => .ok .null
  | binding :: rest => do
    let id ← binding.find "id"
    if id.same bindingId then binding.find "name" else nameOfBinding bindingId rest

/-- The name of a binding of a VPC as the service lists it, null if it is
not listed or the listing is refused. -/
def lookUpBindingName (vpcId : String) (bindingId : Json) : Action Json := do
  let bindings ← (some <$> Remote.listAll (.bindings (.str vpcId))).onRefusal fun _ => pure none
  match bindings with
  | none => return .null
  | some bindings => Action.ofShape (nameOfBinding bindingId bindings)

/-! ## Reading back -/

/-- Looks the name of a recorded binding up, if the VPC delegates. -/
def State.withBindingName (s : State) : Action State := do
  if s.isDelegated && s.hasBinding then
    let name ← lookUpBindingName s.vpcId s.bindingId
    return if name.isGiven then { s with bindingName := name } else s
  else return s

/-- Reads the VPC of a state back and remembers what it says. If the VPC
no longer exists, the state is forgotten. -/
def refresh (prior : State) : Action State := do
  let vpc ← (send (.getVpc (.str prior.vpcId))).ifMissing (dropGone .dnsConfig (.str prior.vpcId))
  let dns ← Action.ofShape (vpc.find "dns")
  let state ← Action.ofRead (prior.project dns.orEmpty)
  let state ← state.withBindingName
  remember .dnsConfig (.str state.vpcId) state.attributes
  return state

/-- **Reads a managed configuration back.** -/
def read (vpcId : Json) : Action State := do
  let prior ← retrieveManaged .dnsConfig vpcId (State.check .data)
  refresh prior

/-! ## Creating -/

/-- The state of a configuration that was just applied, if the binding
has an identifier and a name that can be recorded. -/
def Desired.realized (d : Desired) (binding : NewBinding) : Checked State :=
  (fun name id => {
    id := d.vpcId
    vpcId := d.vpcId
    enableHub := d.enableHub
    resolverType := d.resolverType.toJson
    resolverVpcId := .ofOption d.resolverVpcId
    resolverVpcCrn := .ofOption d.resolverVpcCrn
    bindingName := .ofOption name
    manualServers := d.manualServers
    bindingCount := .int 0
    bindingId := .ofOption id }) <$>
    (Schema.nullable Schema.text binding.name).within (.member "dns_binding_name") <*>
    (Schema.nullable Schema.text binding.id).within (.member "dns_resolution_binding_id")

/-- Refuses a configuration that violates a constraint. -/
def Desired.demandValid (d : Desired) : Action Unit :=
  match d.violation? with
  | some v => Action.fail (.violation v)
  | none => pure ()

/-- **Applies a configuration to a VPC** and remembers it. -/
def create (d : Desired) : Action State := do
  d.demandValid
  let binding ←
    if d.resolverType = .delegated then d.createBinding else pure (NewBinding.mk .null .null)
  d.applyOrRollBack binding.id
  let interim ← Action.ofChecked (d.realized binding)
  remember .dnsConfig (.str d.vpcId) interim.attributes
  refresh interim

/-! ## Adopting -/

/-- Whether a binding leads to the VPC that a state delegates to: by
identifier or by CRN, where these are known. -/
def State.leadsTo (s : State) (hub : Json) : Except Mismatch Bool := do
  let byId ←
    if s.resolverVpcId.isGiven then (·.same s.resolverVpcId) <$> hub.find "id"
    else pure false
  if byId then return true
  else if s.resolverVpcCrn.isGiven then (·.same s.resolverVpcCrn) <$> hub.find "crn"
  else pure false

/-- A state with the first of some bindings that leads to the VPC that
it delegates to. -/
def State.adoptFrom (s : State) : List Json → Except Mismatch State
  | [] => .ok s
  | binding :: rest => do
    let hub := (← binding.find "vpc").orEmpty
    if ← s.leadsTo hub then
      let id ← binding.find "id"
      let name ← binding.find "name"
      return { s with bindingId := id, bindingName := name }
    else s.adoptFrom rest

/-- **Adopts the configuration that a VPC has**, with the binding that it
delegates through. -/
def adopt (vpcId : Json) : Action State := do
  let unknown ← Action.ofChecked (State.blank vpcId)
  let state ← refresh unknown
  if state.isDelegated then
    let bindings ← Remote.listAll (.bindings vpcId)
    let state ← Action.ofShape (state.adoptFrom bindings)
    remember .dnsConfig vpcId state.attributes
    return state
  else return state

/-! ## Changing -/

/-- The bindings of a VPC in the course of a change: the one to record,
with its name, the one that was created for the change and the one that
it replaces; null for none. -/
structure Transition where
  id : Json
  name : Json
  created : Json
  replaced : Json

/-- Whether a change is to another type of resolver. -/
def typeChanged (prior : State) (d : Desired) : Bool :=
  !prior.resolverType.isStr d.resolverType.name

/-- Gives up the binding of a VPC that stops delegating. -/
def leave (prior : State) (d : Desired) : Action NewBinding := do
  if typeChanged prior d && prior.isDelegated then
    removeGivenQuietly (.str d.vpcId) prior.bindingId
    return ⟨.null, .null⟩
  else return ⟨prior.bindingId, prior.bindingName⟩

/-- Whether the binding of a VPC is to get another name. -/
def isRenamed (d : Desired) (held : NewBinding) : Bool :=
  held.id.isGiven && isGiven d.bindingName && !Json.same (.ofOption d.bindingName) held.name

/-- Prepares the bindings for a change: a VPC that starts to delegate, or
to another VPC, gets a new one; one that goes on can get a new name. -/
def enter (prior : State) (d : Desired) (held : NewBinding) : Action Transition := do
  if d.resolverType = .delegated then
    if typeChanged prior d || targetChanged prior d then
      let binding ← d.createBinding
      return ⟨binding.id, binding.name, binding.id, held.id⟩
    else if isRenamed d held then
      let _ ← send (.patchBinding (.str d.vpcId) held.id
        (.obj [("name", .ofOption d.bindingName)]))
      return ⟨held.id, .ofOption d.bindingName, .null, .null⟩
    else return ⟨held.id, held.name, .null, .null⟩
  else return ⟨held.id, held.name, .null, .null⟩

/-- A state overlaid with a change. -/
def State.changed (prior : State) (c : Changes) (t : Transition) : State :=
  { prior with
    enableHub := c.enableHub
    resolverType := c.resolverType.toJson
    resolverVpcId := .ofOption c.resolverVpcId
    resolverVpcCrn := .ofOption c.resolverVpcCrn
    bindingName := t.name
    manualServers := c.manualServers
    bindingId := t.id }

/-- **Changes a managed configuration.** -/
def update (vpcId : Json) (c : Changes) : Action State := do
  let d ← Action.ofChecked (Desired.ofChanges vpcId c)
  d.demandValid
  let prior ← retrieveManaged .dnsConfig vpcId (State.check .data)
  let held ← leave prior d
  let t ← enter prior d held
  d.applyOrRollBack t.created
  removeGivenQuietly vpcId t.replaced
  let interim := prior.changed c t
  remember .dnsConfig vpcId interim.attributes
  refresh interim

/-! ## Deleting and listing -/

/-- Removes a recorded binding; one that no longer exists counts as
removed. -/
def removeBinding (vpcId bindingId : Json) : Action Unit :=
  if bindingId.isGiven then
    (do let _ ← send (.deleteBinding vpcId bindingId)).ifMissing (pure ())
  else pure ()

/-- Resets a VPC to the system's resolver; one that no longer exists
counts as reset. -/
def reset (vpcId : Json) : Action Unit :=
  (do let _ ← sendFor resetPurpose (.patchVpc vpcId systemPatch)).ifMissing (pure ())

/-- **Deletes a managed configuration**, its binding first, and says
whether there was one. The record goes last, so that a deletion that
failed can be repeated. -/
def delete (vpcId : Json) : Action Bool := do
  match ← retrieve .dnsConfig vpcId (State.check .data) with
  | none => return false
  | some prior =>
    removeBinding vpcId prior.bindingId
    reset vpcId
    let _ ← forget .dnsConfig vpcId
    return true

/-- All managed configurations. -/
def list : Action (List State) := Memory.retrieveAll .dnsConfig (State.check .data)

end Dns

end NetSteward
