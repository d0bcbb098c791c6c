import NetSteward.Proofs.Renewal
/-!
# What operations on bindings and placement groups record

An operation on a binding or on a placement group records what it read
of an answer of the service, under an identifier of its own kind, or it
drops a record. So it keeps every property of the records that such
writings and erasures keep.
-/

namespace NetSteward

open NetSteward.Action (Keeps)

variable {α : Type} {inv : Keyed (Keyed Json) → Prop} {w : World}

/-- **A property of the records that outlasts answers**: bindings and
placement groups can be written as they are read of answers, and records
can be erased. -/
structure OutlastsAnswers (inv : Keyed (Keyed Json) → Prop) : Prop where
  binding {records : Keyed (Keyed Json)} {vpcId answer : Json} {b : Binding}
    (h : Binding.ofAnswer vpcId answer = .ok b) (id : Binding → Json) (written : Time.Instant)
    (hr : inv records) : inv ((Binding.recording vpcId id).put b written records)
  group {records : Keyed (Keyed Json)} {answer : Json} {g : PlacementGroup}
    (h : PlacementGroup.ofAnswer answer = .ok g) (written : Time.Instant) (hr : inv records) :
    inv (PlacementGroup.recording.put g written records)
  erase {records : Keyed (Keyed Json)} (key : String) (hr : inv records) :
    inv (records.erase key)

/-- Looking at a collection writes nothing. -/
theorem Remote.keeps_collected {collection : Remote.Collection} {read : List Json → Read α} :
    (Remote.listAll collection >>= fun answers => Action.ofRead (read answers)).Keeps inv Any :=
  keeps_listAll.bind fun _ _ => .ofRead fun _ _ => trivial

/-- Looking at one resource writes nothing. -/
theorem Remote.keeps_ask {call : Remote.Call} {read : Json → Read α} :
    (Remote.ask call read).Keeps inv Any :=
  keeps_send.bind fun _ _ => .ofRead fun _ _ => trivial

/-- Whether an operation is about DNS configurations. -/
def Operation.isAboutDns : Operation → Bool
  | createDns _ | updateDns _ _ | readDns _ | importDns _ | deleteDns _ | listDns => true
  | _ => false

/-- **An operation that is not about DNS configurations keeps what outlasts
answers.** -/
theorem OutlastsAnswers.keeps_run {op : Operation} (h : OutlastsAnswers inv)
    (hop : op.isAboutDns = false) (hw : inv w.store.records) :
    inv (op.run w).world.store.records := by
  have looks : ∀ {β : Type} {x : Action β} (f : β → Json), x.Keeps inv Any →
      inv ((f <$> x) w).world.store.records := fun f hx => by
    rw [Action.map_apply]
    exact (hx w hw).1
  cases op with
  | createDns | updateDns | readDns | importDns | deleteDns | listDns => cases hop
  | createBinding vpcId q =>
    rw [Operation.run, Operation.one_apply]
    exact (Binding.created vpcId q w).keeps hw fun _ _ written ha => h.binding ha _ written hw
  | renameBinding vpcId id q =>
    rw [Operation.run, Operation.one_apply]
    exact (Binding.renamed vpcId id q w).keeps hw fun _ _ written ha => h.binding ha _ written hw
  | readBinding vpcId id =>
    rw [Operation.run, Operation.one_apply]
    exact (Binding.readBack vpcId id w).keeps hw (h.erase _ hw)
      fun _ _ written ha => h.binding ha _ written hw
  | deleteBinding vpcId id =>
    rw [Operation.run, Operation.nothing_apply]
    exact (Binding.deleted vpcId id w).keeps hw (h.erase _ hw)
  | fetchBinding vpcId id => exact looks _ Remote.keeps_ask
  | listBindings vpcId => exact looks _ Remote.keeps_collected
  | createGroup q =>
    rw [Operation.run, Operation.one_apply]
    exact (PlacementGroup.created q w).keeps hw fun _ _ written ha => h.group ha written hw
  | renameGroup id q =>
    rw [Operation.run, Operation.one_apply]
    exact (PlacementGroup.renamed id q w).keeps hw fun _ _ written ha => h.group ha written hw
  | readGroup id =>
    rw [Operation.run, Operation.one_apply]
    exact (PlacementGroup.readBack id w).keeps hw (h.erase _ hw)
      fun _ _ written ha => h.group ha written hw
  | deleteGroup id =>
    rw [Operation.run, Operation.nothing_apply]
    exact (PlacementGroup.deleted id w).keeps hw (h.erase _ hw)
  | fetchGroup id => exact looks _ Remote.keeps_ask
  | listGroups => exact looks _ Remote.keeps_collected
  | listRoutes vpcId tableId => exact looks _ Remote.keeps_collected

end NetSteward
