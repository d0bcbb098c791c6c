import NetSteward.Proofs.Dns.Stale
import NetSteward.Proofs.Renewal
/-!
# Deletions that are repeated

A deletion removes a resource at the service before it drops the record, so
that one which fails in between can be repeated: the service then says that
there is no such resource. The main result is that this completes the
deletion of a DNS configuration and of a binding, after any number of
attempts that failed in any way, but never that of a placement group, whose
deletion takes the answer for a failure.
-/

namespace NetSteward

open Remote (Asked Call Exchange Refusal Reply)

variable {kind : ResourceKind} {id : String} {w x : World} {op : Operation}
variable {calls : List Exchange}

/-! ## Deletions -/

/-- An operation that deletes a resource of a kind, by the identifier of
its record. -/
inductive Operation.Deletes : ResourceKind → String → Operation → Prop
  | dnsConfig (v : String) : Deletes .dnsConfig v (.deleteDns (.str v))
  | binding (vpcId id : Json) :
      Deletes .binding (bindingRecordId vpcId.plain id.plain) (.deleteBinding vpcId id)
  | placementGroup (id : Json) : Deletes .placementGroup id.plain (.deleteGroup id)

/-- Some records hold a resource of a kind, and its record can be
loaded. -/
inductive Recorded (records : Keyed (Keyed Json)) : ResourceKind → String → Prop
  | dnsConfig {v : String} {s : Dns.State}
      (h : Memory.Holds (Dns.State.check .data) records (ResourceKind.dnsConfig.key v) s) :
      Recorded records .dnsConfig v
  | binding {id : String} {b : Binding}
      (h : Memory.Holds (Binding.check .data) records (ResourceKind.binding.key id) b) :
      Recorded records .binding id
  | placementGroup {id : String} {g : PlacementGroup}
      (h : Memory.Holds (PlacementGroup.check .data) records
        (ResourceKind.placementGroup.key id) g) :
      Recorded records .placementGroup id

/-- **What the service says once a resource is deleted**: that there is no
such resource. A VPC can still be there to be patched. -/
inductive SaysGone : Exchange → Prop
  | missing {call : Call} {refusal : Refusal} (h : refusal.isNotFound = true) :
      SaysGone (call, .refused refusal)
  | reset {vpcId patch body : Json} : SaysGone (.patchVpc vpcId patch, .ok body)

theorem SaysGone.isNotFound {call : Call} {refusal : Refusal}
    (h : SaysGone (call, .refused refusal)) : refusal.isNotFound = true := by
  cases h with
  | missing h => exact h

theorem SaysGone.not_disconnected {call : Call} {reason : String} :
    ¬ SaysGone (call, .disconnected reason) := fun h => by cases h

/-- A run that completes the deletion of a resource: it does not fail, and
there is no record. -/
def Completes (kind : ResourceKind) (id : String) (o : Outcome Json) : Prop :=
  (∃ j, o.result = .ok j) ∧ o.world.store.records.get? (kind.key id) = none

/-! ## One deletion -/

/-- A call that may find nothing is settled once the resource is gone. -/
theorem Dns.Settles.of_saysGone {purpose : String} {call : Call} {result : Except Failure Unit}
    (h : Settles purpose call result calls) (hgone : ∀ e ∈ calls, SaysGone e) :
    result = .ok () := by
  cases h with
  | answered | missing => rfl
  | refused h =>
    have hfound := (hgone _ List.mem_cons_self).isNotFound
    rw [h] at hfound
    cases hfound
  | cut => exact absurd (hgone _ List.mem_cons_self) SaysGone.not_disconnected

theorem Dns.Removed.of_saysGone {v : String} {bindingId : Json} {result : Except Failure Unit}
    (h : Removed v bindingId result calls) (hgone : ∀ e ∈ calls, SaysGone e) :
    result = .ok () := by
  cases h with
  | spared => rfl
  | sent _ hs => exact hs.of_saysGone hgone

/-- The deletion of a configuration is completed. -/
theorem Dns.Deleted.completes {v : String} {p : State} {result : Except Failure Bool}
    (h : Deleted v w result calls x) (hp : Loads w.store.records v p)
    (hfaults : w.store.faults = []) (hgone : ∀ e ∈ calls, SaysGone e) :
    result = .ok true ∧ x.store.records.get? (keyOf v) = none := by
  obtain ⟨record, hrecord, hread⟩ := hp
  cases h with
  | unmanaged h =>
    rw [hrecord] at h
    cases h
  | unread hf =>
    cases hf with
    | unfit h hc =>
      cases hrecord.symm.trans h
      cases hread.symm.trans hc
    | faulty h => exact absurd hfaults h
  | unremoved _ hf => cases hf.of_saysGone hgone
  | unreset _ _ hf => cases hf.of_saysGone (List.forall_mem_append.1 hgone).2
  | unforgotten _ _ _ hf => exact absurd hfaults hf
  | forgotten _ _ _ hx => exact ⟨rfl, by rw [hx.records_eq, Keyed.get?_erase, if_pos rfl]⟩

/-- The deletion of a resource is completed where its calls are settled. -/
theorem Discarded.completes {recorded : Json}
    {deletion : Except Failure Unit → List Exchange → Prop} {result : Except Failure Unit}
    (h : Discarded kind recorded deletion w result calls x)
    (hfaults : w.store.faults = []) (hsettled : ∀ r, deletion r calls → r = .ok ()) :
    result = .ok () ∧ x.store.records.get? (kind.key recorded.plain) = none := by
  cases h with
  | undeleted h => cases hsettled _ h
  | undropped _ hf => exact absurd hfaults hf
  | dropped _ hx => exact ⟨rfl, by rw [hx.records_eq, Keyed.get?_erase, if_pos rfl]⟩

/-- The deletion of a resource fails where its calls do. -/
theorem Discarded.failed {recorded : Json}
    {deletion : Except Failure Unit → List Exchange → Prop} {result : Except Failure Unit}
    (h : Discarded kind recorded deletion w result calls x)
    (hfailed : ∀ r, deletion r calls → ∃ f, r = .error f) : ∃ f, result = .error f := by
  cases h with
  | undeleted | undropped => exact ⟨_, rfl⟩
  | dropped h =>
    obtain ⟨f, hf⟩ := hfailed _ h
    cases hf

/-- A call that has to be answered fails once the resource is gone. -/
theorem Remote.Asked.failed_of_saysGone {α : Type} {groupId : Json} {read : Json → Read α}
    {result : Except Failure α} (h : Asked (.deleteGroup groupId) read result calls)
    (hgone : ∀ e ∈ calls, SaysGone e) : ∃ f, result = .error f := by
  cases h with
  | told | garbled => cases hgone _ List.mem_cons_self
  | refused | cut => exact ⟨_, rfl⟩

/-! ## Attempts -/

theorem Dns.Deleted.records_of_failed {v : String} {f : Failure}
    (h : Deleted v w (.error f) calls x) : x.store.records = w.store.records := by
  cases h with
  | unread _ hx | unremoved _ _ hx | unreset _ _ _ hx | unforgotten _ _ _ _ hx =>
    exact hx.records_eq

theorem Discarded.records_of_failed {recorded : Json}
    {deletion : Except Failure Unit → List Exchange → Prop} {f : Failure}
    (h : Discarded kind recorded deletion w (.error f) calls x) :
    x.store.records = w.store.records := by
  cases h with
  | undeleted _ hx | undropped _ _ hx => exact hx.records_eq

/-- **A deletion that fails leaves the records as they are.** -/
theorem Operation.Deletes.records_of_failed (hop : op.Deletes kind id) {f : Failure}
    (h : (op.run w).result = .error f) :
    (op.run w).world.store.records = w.store.records := by
  cases hop with
  | dnsConfig =>
    rw [Operation.run, Operation.one_apply] at h ⊢
    have hd := Dns.deleted id w
    rw [map_eq_error_iff.1 h] at hd
    exact hd.records_of_failed
  | binding vpcId bindingId =>
    rw [Operation.run, Operation.nothing_apply] at h ⊢
    have hd := Binding.deleted vpcId bindingId w
    rw [map_eq_error_iff.1 h] at hd
    exact hd.records_of_failed
  | placementGroup groupId =>
    rw [Operation.run, Operation.nothing_apply] at h ⊢
    have hd := PlacementGroup.deleted groupId w
    rw [map_eq_error_iff.1 h] at hd
    exact hd.records_of_failed

/-- A visit of an operation that failed. -/
def Visit.FailedAt (op : Operation) (x : Visit) : Prop :=
  x.operation = op ∧ ∃ f, x.outcome.result = .error f

/-- Any number of deletions that fail leave the records as they are. -/
theorem Operation.Deletes.records_worldAfter {attempts : List Turn} (hop : op.Deletes kind id)
    (h : ∀ x ∈ visits w attempts, x.FailedAt op) :
    (worldAfter w attempts).store.records = w.store.records := by
  induction attempts generalizing w with
  | nil => rfl
  | cons t rest ih =>
    obtain ⟨⟨rfl, f, hf⟩, hrest⟩ := List.forall_mem_cons.1 h
    exact (ih hrest).trans (hop.records_of_failed hf)

/-! ## Completion -/

/-- What completes a deletion, once the resource is gone and the state
table has no fault. -/
theorem Operation.Deletes.completes_iff (hop : op.Deletes kind id)
    (hrecorded : Recorded w.store.records kind id) (hfaults : w.store.faults = [])
    (hgone : ∀ e ∈ (op.run w).calls, SaysGone e) :
    Completes kind id (op.run w) ↔ kind ≠ .placementGroup := by
  cases hop with
  | dnsConfig =>
    refine iff_of_true ?_ (by decide)
    cases hrecorded with
    | dnsConfig hp =>
      rw [Operation.run, Operation.one_apply] at hgone ⊢
      obtain ⟨hresult, hdropped⟩ := (Dns.deleted id w).completes hp hfaults hgone
      exact ⟨⟨_, by rw [hresult]; rfl⟩, hdropped⟩
  | binding vpcId bindingId =>
    refine iff_of_true ?_ (by decide)
    rw [Operation.run, Operation.nothing_apply] at hgone ⊢
    obtain ⟨hresult, hdropped⟩ := (Binding.deleted vpcId bindingId w).completes hfaults
      fun r hr => hr.of_saysGone hgone
    exact ⟨⟨_, by rw [hresult]; rfl⟩, hdropped⟩
  | placementGroup groupId =>
    refine iff_of_false ?_ (by decide)
    rw [Operation.run, Operation.nothing_apply] at hgone ⊢
    obtain ⟨f, hf⟩ := (PlacementGroup.deleted groupId w).failed
      fun r hr => hr.failed_of_saysGone hgone
    rintro ⟨⟨j, hj⟩, -⟩
    rw [hf] at hj
    cases hj

/-- **A deletion that failed is completed by repeating it**, whatever it
failed at and however often, exactly if it is not that of a placement
group: once the service says that the resource is gone, there is no failure
and no record. -/
theorem repeated_deletion_completes_iff {attempts : List Turn} {last : Turn}
    (hop : op.Deletes kind id) (hrecorded : Recorded w.store.records kind id)
    (hattempts : ∀ x ∈ visits w attempts, x.FailedAt op) (hlast : last.operation = op)
    (hfaults : last.faults = [])
    (hgone : ∀ e ∈ (last.visit (worldAfter w attempts)).outcome.calls, SaysGone e) :
    Completes kind id (last.visit (worldAfter w attempts)).outcome ↔ kind ≠ .placementGroup := by
  subst hlast
  have hrecords : (last.opening (worldAfter w attempts)).store.records = w.store.records :=
    hop.records_worldAfter hattempts
  exact hop.completes_iff (hrecords ▸ hrecorded) hfaults hgone

/-! ## Deletions that failed at the state table -/

/-- A VPC's binding is recorded, and a placement group. -/
def heldRecords : Keyed (Keyed Json) :=
  [("dns_resolution_binding/vpc-1/b-1", Memory.record .binding (.str "vpc-1/b-1")
      (Binding.toJson ⟨"b-1", "vpc-1", none, none, none, none, none, none, none, []⟩)
      ⟨1700000000, 0⟩),
    ("placement_group/pg-1", Memory.record .placementGroup (.str "pg-1")
      (PlacementGroup.toJson ⟨"pg-1", .hostSpread, none, none, none, none, none, none, none⟩)
      ⟨1700000000, 0⟩)]

/-- A deletion that the service answers, but the state table does not. -/
def halfway (op : Operation) : Turn where
  operation := op
  replies := [.ok .null]
  faults := [⟨.deleteItem, none, "InternalServerError", "try again"⟩]
  clock := ⟨1700000000, 0⟩

/-- The deletion is repeated, and the service says that there is no such
resource. -/
def repeated (op : Operation) : Turn :=
  Dns.calmTurn op [.refused ⟨.int 404, "not found"⟩]

/-- The deletion of the binding. -/
def bindingDeletion : Operation := .deleteBinding (.str "vpc-1") (.str "b-1")

/-- The deletion of the group. -/
def groupDeletion : Operation := .deleteGroup (.str "pg-1")

/-- What the repetition of a deletion comes to. -/
def secondTry (op : Operation) : Outcome Json :=
  ((repeated op).visit (worldAfter (Dns.calm heldRecords []) [halfway op])).outcome

theorem secondTry_bindingDeletion_calls :
    (secondTry bindingDeletion).calls =
      [(.deleteBinding (.str "vpc-1") (.str "b-1"), .refused ⟨.int 404, "not found"⟩)] := rfl

theorem secondTry_groupDeletion_calls :
    (secondTry groupDeletion).calls =
      [(.deleteGroup (.str "pg-1"), .refused ⟨.int 404, "not found"⟩)] := rfl

/-- The deletion of a binding that failed at the state table is completed by
repeating it. -/
theorem repeated_deletion_completes_iff_binding :
    Completes .binding "vpc-1/b-1" (secondTry bindingDeletion) := by
  have hop : bindingDeletion.Deletes .binding "vpc-1/b-1" := .binding (.str "vpc-1") (.str "b-1")
  have hrecorded : Recorded heldRecords .binding "vpc-1/b-1" := .binding ⟨_, rfl, rfl⟩
  have hgone : ∀ e ∈ (secondTry bindingDeletion).calls, SaysGone e := by
    rw [secondTry_bindingDeletion_calls]
    exact List.forall_mem_singleton.2 (.missing rfl)
  exact (repeated_deletion_completes_iff hop hrecorded
    (List.forall_mem_singleton.2 ⟨rfl, _, rfl⟩) rfl rfl hgone).2 (by decide)

/-- That of a group is not: it fails again, and the record stays. -/
theorem group_deletion_stuck :
    groupDeletion.Deletes .placementGroup "pg-1" ∧ Recorded heldRecords .placementGroup "pg-1" ∧
      (∀ e ∈ (secondTry groupDeletion).calls, SaysGone e) ∧
      ¬ Completes .placementGroup "pg-1" (secondTry groupDeletion) ∧
      (secondTry groupDeletion).world.store.records = heldRecords := by
  refine ⟨.placementGroup (.str "pg-1"), .placementGroup ⟨_, rfl, rfl⟩, ?_, ?_, rfl⟩
  · rw [secondTry_groupDeletion_calls]
    exact List.forall_mem_singleton.2 (.missing rfl)
  · rintro ⟨⟨j, hj⟩, -⟩
    cases hj

end NetSteward
