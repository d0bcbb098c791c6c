import NetSteward.Binding.Config
import NetSteward.Remote.Exchange
import NetSteward.Store.Memory
/-!
# The life of a binding

A binding is created, read back, renamed and deleted on its VPC. Each of
them ends with the record that agrees with the answer of the service.
The record stands under the VPC and the identifier of the binding: the
one that the service gave it on creation, the requested one afterwards.
A binding can also be looked at without being managed.
-/

namespace NetSteward

namespace Binding

open Remote (send)

/-- The identifier under which a binding of a VPC is recorded. -/
def recordId (vpcId bindingId : Json) : Json :=
  .str (bindingRecordId vpcId.plain bindingId.plain)

/-- **Creates a binding on a VPC.** -/
def create (vpcId : Json) (r : Request) : Action Binding := do
  let answer ← send (.createBinding vpcId r.hub (.ofOption r.name))
  let binding ← Action.ofRead (ofAnswer vpcId answer)
  Memory.remember .binding (recordId vpcId (.str binding.id)) binding.toJson
  return binding

/-- Looks at a binding. -/
def fetch (vpcId bindingId : Json) : Action Binding := do
  let answer ← send (.getBinding vpcId bindingId)
  Action.ofRead (ofAnswer vpcId answer)

/-- The failure about a binding that is gone, without its record. -/
def dropGone (vpcId bindingId : Json) : Action Binding := do
  let _ ← Memory.forget .binding (recordId vpcId bindingId)
  Memory.gone .binding bindingId

/-- **Reads a managed binding back.** One that no longer exists is
forgotten. -/
def read (vpcId bindingId : Json) : Action Binding := do
  let recorded ← Memory.retrieve .binding (recordId vpcId bindingId) (check .data)
  if recorded.isNone then Memory.gone .binding bindingId
  else
    let binding ← (fetch vpcId bindingId).ifMissing (dropGone vpcId bindingId)
    Memory.remember .binding (recordId vpcId bindingId) binding.toJson
    return binding

/-- **Renames a binding.** -/
def rename (vpcId bindingId : Json) (r : Renaming) : Action Binding := do
  let answer ← send (.patchBinding vpcId bindingId r.toJson)
  let binding ← Action.ofRead (ofAnswer vpcId answer)
  Memory.remember .binding (recordId vpcId bindingId) binding.toJson
  return binding

/-- **Deletes a binding.** One that no longer exists counts as
deleted. -/
def delete (vpcId bindingId : Json) : Action Unit := do
  (do let _ ← send (.deleteBinding vpcId bindingId)).ifMissing (pure ())
  let _ ← Memory.forget .binding (recordId vpcId bindingId)

/-- The bindings of a VPC, as the service lists them. -/
def list (vpcId : Json) : Action (List Binding) := do
  let answers ← Remote.listAll (.bindings vpcId)
  Action.ofRead (readEach (ofAnswer vpcId) answers)

end Binding

end NetSteward
