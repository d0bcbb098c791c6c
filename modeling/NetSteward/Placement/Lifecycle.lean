import NetSteward.Placement.Config
import NetSteward.Remote.Exchange
import NetSteward.Store.Memory
/-!
# The life of a placement group

A placement group is created, read back, renamed and deleted. The record
stands under the identifier that the service gives the group. A group
can also be looked at without being managed.
-/

namespace NetSteward

namespace PlacementGroup

open Remote (send)

/-- Remembers a group under its own identifier. -/
def rememberGroup (g : PlacementGroup) : Action PlacementGroup := do
  Memory.remember .placementGroup (.str g.id) g.toJson
  return g

/-- **Creates a group.** -/
def create (r : Request) : Action PlacementGroup := do
  let answer ← send (.createGroup (.str r.strategy.name) (.ofOption r.name)
    (.ofOption r.resourceGroup))
  let group ← Action.ofRead (ofAnswer answer)
  rememberGroup group

/-- Looks at a group. -/
def fetch (groupId : Json) : Action PlacementGroup := do
  let answer ← send (.getGroup groupId)
  Action.ofRead (ofAnswer answer)

/-- **Reads a managed group back.** One that no longer exists is
forgotten. -/
def read (groupId : Json) : Action PlacementGroup := do
  let _ ← Memory.retrieveManaged .placementGroup groupId (check .data)
  let group ← (fetch groupId).ifMissing (Memory.dropGone .placementGroup groupId)
  rememberGroup group

/-- **Renames a group.** -/
def rename (groupId : Json) (r : Renaming) : Action PlacementGroup := do
  let answer ← send (.patchGroup groupId r.toJson)
  let group ← Action.ofRead (ofAnswer answer)
  rememberGroup group

/-- **Deletes a group.** -/
def delete (groupId : Json) : Action Unit := do
  let _ ← send (.deleteGroup groupId)
  let _ ← Memory.forget .placementGroup groupId

/-- The groups, as the service lists them. -/
def list : Action (List PlacementGroup) := do
  let answers ← Remote.listAll .groups
  Action.ofRead (readEach ofAnswer answers)

end PlacementGroup

end NetSteward
