import NetSteward.Proofs.Deletion
import NetSteward.Proofs.Shape
/-!
# The record of an operation

Every operation has one record of its own at most: that of the resource it
is about. For most operations the request says which one it is; after a
creation the answer of the service does. The main result is that nothing
else in the table changes, whatever the service replies and however the
operation ends. It rests on the keys: no two resources share one, so that
what is written for a resource stands apart from all others.
-/

namespace NetSteward

/-! ## Keys of resources -/

/-- The identifiers of VPCs without a slash tell bindings of different VPCs
apart. -/
theorem eq_of_bindingRecordId_eq {u v a b : String} (hu : '/' ∉ u.toList) (hv : '/' ∉ v.toList)
    (h : bindingRecordId u a = bindingRecordId v b) : u = v ∧ a = b := by
  -- Up to the first slash stands the VPC.
  have upTo : ∀ {s t : String}, '/' ∉ s.toList →
      (bindingRecordId s t).toList.takeWhile (· != '/') = s.toList := by
    intro s t hs
    have hall : ∀ c ∈ s.toList, (c != '/') = true :=
      fun c hc => bne_iff_ne.2 fun heq => hs (heq ▸ hc)
    rw [bindingRecordId, String.append_assoc, String.toList_append, String.toList_append,
      List.takeWhile_append_of_pos hall]
    exact List.append_nil _
  have huv : u = v := by
    rw [← String.toList_inj, ← upTo (t := a) hu, ← upTo (t := b) hv, h]
  subst huv
  rw [bindingRecordId, bindingRecordId, String.append_assoc, String.append_assoc] at h
  exact ⟨rfl, (String.append_right_inj _).1 ((String.append_right_inj _).1 h)⟩

/-! ## The other entries of a keyed list -/

namespace Keyed

variable {α : Type} {xs : Keyed α} {own : Option String} {key : String} {a : α}

/-- The entries under other keys than one, all entries if no key is
given. -/
def others (own : Option String) (xs : Keyed α) : Keyed α :=
  xs.filter fun e => own != some e.1

@[simp] theorem others_none : others none xs = xs :=
  List.filter_eq_self.2 fun _ _ => rfl

theorem others_cons : others own ((key, a) :: xs) =
    if own = some key then others own xs else (key, a) :: others own xs := by
  by_cases h : own = some key
  · simp [others, h]
  · simp [others, h]

/-- A write leaves the entries under other keys as they are, and their
order. -/
@[simp] theorem others_insert : others (some key) (xs.insert key a) = others (some key) xs := by
  induction xs with
  | nil => simp [insert, others]
  | cons e rest ih =>
    obtain ⟨k, x⟩ := e
    rw [insert]
    split
    next hk => rw [others_cons, others_cons, hk, if_pos rfl, if_pos rfl]
    next => rw [others_cons, others_cons, ih]

@[simp] theorem others_erase : others (some key) (xs.erase key) = others (some key) xs := by
  induction xs with
  | nil => rfl
  | cons e rest ih =>
    obtain ⟨k, x⟩ := e
    rw [erase, others_cons]
    split
    next hk => rw [ih, if_pos (congrArg some hk.symm)]
    next => rw [others_cons, ih]

end Keyed

/-! ## Records of operations -/

/-- The identifier of the resource that was answered with, if there was an
answer. -/
def answeredId? : Except Failure Json → Option String
  | .ok j => match j.require "id" with
    | .ok (.str id) => some id
    | _ => none
  | .error _ => none

/-- **The key of the record that an operation may change**, given what it
answered. What is created has the identifier that was answered with; a
group has so too, unless it was found to be gone. -/
def Operation.ownKey? (answer : Except Failure Json) : Operation → Option String
  | createDns d => some (ResourceKind.dnsConfig.key d.vpcId)
  | updateDns vpcId _ | readDns vpcId | importDns vpcId | deleteDns vpcId =>
    some (ResourceKind.dnsConfig.key vpcId.plain)
  | createBinding vpcId _ => (answeredId? answer).map fun id =>
    ResourceKind.binding.key (bindingRecordId vpcId.plain id)
  | renameBinding vpcId id _ | readBinding vpcId id | deleteBinding vpcId id =>
    some (ResourceKind.binding.key (bindingRecordId vpcId.plain id.plain))
  | createGroup _ | renameGroup _ _ => (answeredId? answer).map ResourceKind.placementGroup.key
  | readGroup id =>
    some (ResourceKind.placementGroup.key ((answeredId? answer).getD id.plain))
  | deleteGroup id => some (ResourceKind.placementGroup.key id.plain)
  | listDns | fetchBinding _ _ | listBindings _ | fetchGroup _ | listGroups | listRoutes _ _ => none

/-! ## Bindings and placement groups -/

section OtherKinds

open Remote (Call Exchange)

variable {α : Type} {own : Option String} {w x : World} {calls : List Exchange}

/-- The renewal of a record leaves the others as they are. -/
theorem Recording.Renewed.others_eq {r : Recording α} {call : Call} {read : Json → Read α}
    {result : Except Failure α} (h : r.Renewed call read w result calls x)
    (hown : ∀ a, result = .ok a → own = some (r.key a)) :
    x.store.records.others own = w.store.records.others own := by
  cases h with
  | untold _ hx | unwritten _ _ hx => rw [hx.records_eq]
  | written _ hx => rw [hx.records_eq, hown _ rfl, Recording.put, Keyed.others_insert]

theorem Recording.Reread.others_eq {r : Recording α} {q : Recording.Query α}
    {result : Except Failure α} (h : r.Reread q w result calls x)
    (hown : ∀ a, result = .ok a → own = some (r.key a))
    (hfailed : ∀ f, result = .error f → own = some (q.key r.kind)) :
    x.store.records.others own = w.store.records.others own := by
  cases h with
  | unmanaged _ hx | unread _ hx | undropped _ _ _ hx => rw [hx.records_eq]
  | missing _ _ hx => rw [hx.records_eq, hfailed _ rfl, Keyed.others_erase]
  | renewed _ _ h => exact h.others_eq hown

theorem Discarded.others_eq {kind : ResourceKind} {id : Json}
    {deletion : Except Failure Unit → List Exchange → Prop} {result : Except Failure Unit}
    (h : Discarded kind id deletion w result calls x) :
    x.store.records.others (some (kind.key id.plain)) =
      w.store.records.others (some (kind.key id.plain)) := by
  cases h with
  | undeleted _ hx | undropped _ _ hx => rw [hx.records_eq]
  | dropped _ hx => rw [hx.records_eq, Keyed.others_erase]

end OtherKinds

/-! ## Configurations -/

namespace Dns

open Remote (Exchange)

/-- **The record of a VPC is about this VPC**, if it can be loaded. -/
def KeptByVpc (records : Keyed (Keyed Json)) : Prop :=
  ∀ v p, Loads records v p → p.vpcId = v

variable {records base : Keyed (Keyed Json)} {v : String} {all : List Exchange} {s p : State}

/-- A state that was recorded is loaded with its VPC. -/
theorem Loads.vpcId_of_insert {id : Json} {written : Time.Instant}
    (h : Loads (records.insert (keyOf v)
      (Memory.record .dnsConfig id s.attributes written)) v p) : p.vpcId = s.vpcId := by
  obtain ⟨record, members, hrecord, hattributes, hp⟩ := h.attributes_eq
  rw [Keyed.get?_insert, if_pos rfl] at hrecord
  cases hrecord
  cases hattributes
  have hvpc := Schema.required_text_eq_ok_iff.1 (State.fields_of_check hp).2.1
  exact Json.str.inj (Option.some.inj hvpc.symm)

/-- **What an operation on a VPC records is about this VPC**, and the other
records are as they were. -/
theorem own_upkeep : Upkeep v all (fun s => s.vpcId = v) fun records =>
    records.others (some (keyOf v)) = base ∧ ∀ p, Loads records v p → p.vpcId = v where
  blank := rfl
  realized hd _ _ hs := (Desired.isOf_of_realized hs).2.trans hd
  changed hp _ _ := hp
  overlaid hp _ hs := (State.kept_of_overlaid hs).2.1.trans hp
  named hp hs _ := by
    cases hs with
    | unasked | unlisted => exact hp
    | listed =>
      split
      · exact hp
      · exact hp
  adopted hp _ _ hs := by
    rcases State.eq_of_adoptFrom hs with rfl | ⟨binding, -, id, name, -, -, rfl⟩
    · exact hp
    · exact hp
  loaded hr hp := hr.2 _ hp
  vpcId_eq hs := hs
  record hs written hr :=
    ⟨Keyed.others_insert.trans hr.1, fun _ hp => hp.vpcId_of_insert.trans hs⟩
  erase hr := by
    refine ⟨Keyed.others_erase.trans hr.1, ?_⟩
    rintro p ⟨record, hrecord, -⟩
    rw [Keyed.get?_erase, if_pos rfl] at hrecord
    cases hrecord

end Dns

/-! ## Operations -/

/-- **An operation leaves the records that are not its own as they
are.** -/
theorem Operation.others_run (op : Operation) {w : World} (hw : Dns.KeptByVpc w.store.records) :
    (op.run w).world.store.records.others (op.ownKey? (op.run w).result) =
      w.store.records.others (op.ownKey? (op.run w).result) := by
  -- The record of an operation on a VPC is known beforehand.
  have onVpc : ∀ {id : Json}, op.vpcId? = some id →
      (op.run w).world.store.records.others (some (Dns.keyOf id.plain)) =
        w.store.records.others (some (Dns.keyOf id.plain)) := fun {id} hop =>
    (Dns.own_upkeep.keeps_run hop (List.Subset.refl _) ⟨rfl, hw id.plain⟩).1
  have looks : ∀ {β : Type} {x : Action β} (f : β → Json), x.Keeps (· = w.store.records) Any →
      ((f <$> x) w).world.store.records = w.store.records := fun f hx => by
    rw [Action.map_apply]
    exact (hx w rfl).1
  cases op with
  | createDns | updateDns | readDns | importDns | deleteDns => exact onVpc rfl
  | createBinding vpcId q =>
    rw [run, one_apply]
    exact (Binding.created vpcId q w).others_eq fun b hb => by simp only [hb]; rfl
  | renameBinding vpcId id q =>
    rw [run, one_apply]
    exact (Binding.renamed vpcId id q w).others_eq fun _ _ => rfl
  | readBinding vpcId id =>
    rw [run, one_apply]
    exact (Binding.readBack vpcId id w).others_eq (fun _ _ => rfl) fun _ _ => rfl
  | deleteBinding vpcId id =>
    rw [run, nothing_apply]
    exact (Binding.deleted vpcId id w).others_eq
  | createGroup q =>
    rw [run, one_apply]
    exact (PlacementGroup.created q w).others_eq fun g hg => by simp only [hg]; rfl
  | renameGroup id q =>
    rw [run, one_apply]
    exact (PlacementGroup.renamed id q w).others_eq fun g hg => by simp only [hg]; rfl
  | readGroup id =>
    rw [run, one_apply]
    exact (PlacementGroup.readBack id w).others_eq (fun g hg => by simp only [hg]; rfl)
      fun f hf => by simp only [hf]; rfl
  | deleteGroup id =>
    rw [run, nothing_apply]
    exact (PlacementGroup.deleted id w).others_eq
  | listDns =>
    have kept : listDns.run.Keeps (· = w.store.records) Any := Dns.keeps_listDns
    exact congrArg _ (kept w rfl).1
  | fetchBinding | fetchGroup => exact congrArg _ (looks _ Remote.keeps_ask)
  | listBindings | listGroups | listRoutes => exact congrArg _ (looks _ Remote.keeps_collected)

/-- **Operations change no record but their own.** Keys tell resources
apart, and so do the identifiers of bindings, for VPCs without a slash in
theirs; and where the record of each VPC is about this VPC, an operation
leaves all records but its own as they are, and all records if it has none
of its own. -/
theorem operation_changes_own_record_only :
    (∀ (kind other : ResourceKind) (a b : String),
      kind.key a = other.key b ↔ kind = other ∧ a = b) ∧
    (∀ u v a b : String, '/' ∉ u.toList → '/' ∉ v.toList →
      (bindingRecordId u a = bindingRecordId v b ↔ u = v ∧ a = b)) ∧
    ∀ (op : Operation) (w : World) (own : Option String), Dns.KeptByVpc w.store.records →
      op.ownKey? (op.run w).result = own →
        (op.run w).world.store.records.others own = w.store.records.others own ∧
          (own = none → (op.run w).world.store.records = w.store.records) := by
  refine ⟨fun kind other a b => ⟨fun h => ?_, ?_⟩, fun u v a b hu hv => ⟨?_, ?_⟩, ?_⟩
  · cases ResourceKind.kind_eq_of_key_eq h
    exact ⟨rfl, ResourceKind.key_inj.1 h⟩
  · rintro ⟨rfl, rfl⟩
    rfl
  · exact eq_of_bindingRecordId_eq hu hv
  · rintro ⟨rfl, rfl⟩
    rfl
  · rintro op w own hw rfl
    have hothers := op.others_run hw
    refine ⟨hothers, fun hnone => ?_⟩
    rwa [hnone, Keyed.others_none, Keyed.others_none] at hothers

/-- A VPC that delegates is recorded next to other resources. -/
def sharedRecords : Keyed (Keyed Json) := heldRecords ++ Dns.startedRecords

/-- The VPC's configuration is deleted, which the service answers. -/
def sharedWorld : World := Dns.calm sharedRecords [.ok .null, .ok .null]

theorem keptByVpc_sharedRecords : Dns.KeptByVpc sharedRecords := by
  intro v p hp
  obtain ⟨record, members, hrecord, hattributes, hread⟩ := hp.attributes_eq
  have hmem := Keyed.mem_of_get? hrecord
  simp only [sharedRecords, heldRecords, Dns.startedRecords, List.cons_append, List.nil_append,
    List.mem_cons, Prod.mk.injEq, List.not_mem_nil, or_false] at hmem
  rcases hmem with ⟨hkey, -⟩ | ⟨hkey, -⟩ | ⟨hkey, rfl⟩
  · have hbinding : Dns.keyOf v = ResourceKind.binding.key "vpc-1/b-1" := hkey
    cases ResourceKind.kind_eq_of_key_eq hbinding
  · have hgroup : Dns.keyOf v = ResourceKind.placementGroup.key "pg-1" := hkey
    cases ResourceKind.kind_eq_of_key_eq hgroup
  · cases hattributes
    have hvpc := Schema.required_text_eq_ok_iff.1 (Dns.State.fields_of_check hread).2.1
    rw [ResourceKind.key_inj.1 hkey]
    exact Json.str.inj (Option.some.inj hvpc.symm)

/-- The deletion of a configuration leaves a binding of the same VPC and a
placement group as they are. -/
theorem operation_changes_own_record_only_shared :
    ('/' ∉ "vpc-1".toList ∧ '/' ∉ "vpc-2".toList ∧
      (bindingRecordId "vpc-1" "b-1" = bindingRecordId "vpc-2" "b-1" ↔
        "vpc-1" = "vpc-2" ∧ "b-1" = "b-1")) ∧
    Dns.KeptByVpc sharedWorld.store.records ∧
    ((Operation.deleteDns (.str "vpc-1")).run sharedWorld).world.store.records.others
        (some "dns_config/vpc-1") =
      sharedWorld.store.records.others (some "dns_config/vpc-1") := by
  obtain ⟨-, hbindings, hrun⟩ := operation_changes_own_record_only
  have hone : '/' ∉ "vpc-1".toList := by decide
  have htwo : '/' ∉ "vpc-2".toList := by decide
  exact ⟨⟨hone, htwo, hbindings _ _ _ _ hone htwo⟩, keptByVpc_sharedRecords,
    (hrun (.deleteDns (.str "vpc-1")) sharedWorld _ keptByVpc_sharedRecords rfl).1⟩

end NetSteward
