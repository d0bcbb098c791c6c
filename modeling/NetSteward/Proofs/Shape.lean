import NetSteward.Proofs.Dns.Custody
import NetSteward.Proofs.Dns.Stale
import NetSteward.Proofs.Dns.Upkeep
/-!
# The shape of the records

A record repeats what its key says: the kind of the resource and the
identifier that it is recorded under, which the attributes of the resource
confirm. The operations write records under identifiers that they take from
the request, from an answer of the service or from a record that was
loaded. The main result is that these never part: every operation keeps
the records in shape, whatever it is asked for and whatever the service
replies.
-/

namespace NetSteward

open Remote (Exchange)

variable {records : Keyed (Keyed Json)} {members : Keyed Json} {kind : ResourceKind}
variable {key id : String} {v : String}

/-! ## Records in shape -/

/-- What the attributes of a resource say of the identifier that it is
recorded under. -/
inductive Attests (members : Keyed Json) : ResourceKind → String → Prop
  | dnsConfig {id : String} (hid : members.get? "id" = some (.str id))
      (hvpc : members.get? "vpc_id" = some (.str id)) : Attests members .dnsConfig id
  | binding {vpcId other : String} (hvpc : members.get? "vpc_id" = some (.str vpcId)) :
      Attests members .binding (bindingRecordId vpcId other)
  | placementGroup {id : String} (hid : members.get? "id" = some (.str id)) :
      Attests members .placementGroup id

/-- **A record in shape**, for a resource of a kind with an identifier. -/
structure ShapedRecord (key : String) (record : Keyed Json) (kind : ResourceKind) (id : String) :
    Prop where
  key_eq : key = kind.key id
  key_named : record.get? Store.keyAttribute = some (.str key)
  kind_named : record.get? Store.kindAttribute = some (.str kind.name)
  id_named : record.get? "resource_id" = some (.str id)
  attested : ∃ members, record.get? Store.attributesAttribute = some (.obj members) ∧
    Attests members kind id

/-- **Records in shape**: each stands under a key of its own and repeats
what the key says. -/
structure WellShaped (records : Keyed (Keyed Json)) : Prop where
  nodup : records.keys.Nodup
  shaped : ∀ e ∈ records, ∃ kind id, ShapedRecord e.1 e.2 kind id

namespace WellShaped

theorem nil : WellShaped [] where
  nodup := List.nodup_nil
  shaped e he := by cases he

/-- A resource can be recorded under the identifier that its attributes
say. -/
theorem insert (h : WellShaped records) (hm : Attests members kind id) (written : Time.Instant) :
    WellShaped (records.insert (kind.key id)
      (Memory.record kind (.str id) (.obj members) written)) where
  nodup := Keyed.nodup_keys_insert h.nodup _ _
  shaped e he := by
    rcases Keyed.eq_or_mem_of_mem_insert he with rfl | he
    · exact ⟨kind, id, rfl, rfl, rfl, rfl, members, rfl, hm⟩
    · exact h.shaped e he

theorem erase (h : WellShaped records) (key : String) : WellShaped (records.erase key) where
  nodup := Keyed.nodup_keys_erase h.nodup key
  shaped e he := h.shaped e (Keyed.mem_of_mem_erase he)

/-- What stands under the key of a kind is of that kind. -/
theorem of_get? {record : Keyed Json} (h : WellShaped records)
    (hr : records.get? (kind.key id) = some record) :
    ShapedRecord (kind.key id) record kind id := by
  obtain ⟨other, found, hs⟩ := h.shaped _ (Keyed.mem_of_get? hr)
  cases ResourceKind.kind_eq_of_key_eq hs.key_eq
  cases ResourceKind.key_inj.1 hs.key_eq
  exact hs

end WellShaped

/-! ## Bindings and placement groups -/

/-- The VPC of a binding that passed its checks is the one that was
checked. -/
theorem Binding.vpcId_of_fields {b : Binding} {hub : Keyed Json → Checked (Option Reference)}
    {gateways : Keyed Json → Checked (List Reference)} (h : fields hub gateways members = .ok b) :
    members.get? "vpc_id" = some (.str b.vpcId) := by
  simp only [fields, Checked.seq_eq_ok_iff] at h
  obtain ⟨f, gateways, ⟨g, hub, h, -, rfl⟩, -, rfl⟩ := h
  obtain ⟨f, type, ⟨g, lifecycle, h, -, rfl⟩, -, rfl⟩ := h
  obtain ⟨f, href, ⟨g, health, h, -, rfl⟩, -, rfl⟩ := h
  obtain ⟨f, created, ⟨g, name, h, -, rfl⟩, -, rfl⟩ := h
  obtain ⟨f, vpcId, h, hvpc, rfl⟩ := h
  obtain ⟨id, -, rfl⟩ := Checked.map_eq_ok_iff.1 h
  exact Schema.required_text_eq_ok_iff.1 hvpc

/-- The VPC of a binding that was read of an answer is the one that was
asked about. -/
theorem Binding.eq_str_of_ofAnswer {vpcId answer : Json} {b : Binding}
    (h : ofAnswer vpcId answer = .ok b) : vpcId = .str b.vpcId := by
  simp only [ofAnswer, bind_eq_ok_iff] at h
  obtain ⟨hub, -, id, -, name, -, created, -, health, -, href, -, h⟩ := h
  obtain ⟨lifecycle, -, type, -, h⟩ := h
  -- The hub is read if there is one; the rest is the same.
  split at h
  all_goals
    simp only [bind_eq_ok_iff, checked_eq_ok_iff] at h
    obtain ⟨hub, -, found, -, listed, -, gateways, -, h⟩ := h
    exact Option.some.inj (vpcId_of_fields h)

/-- **A binding is recorded in shape**, under whatever identifier. -/
theorem Binding.attests {vpcId answer : Json} {b : Binding} (h : ofAnswer vpcId answer = .ok b)
    (id : Json) : ∃ members, b.toJson = .obj members ∧
      Attests members .binding (bindingRecordId vpcId.plain id.plain) := by
  rw [eq_str_of_ofAnswer h]
  exact ⟨_, rfl, .binding rfl⟩

/-- **What is read of answers is recorded in shape.** -/
theorem wellShaped_outlastsAnswers : OutlastsAnswers WellShaped where
  binding {records vpcId answer b} h id written hr := by
    obtain ⟨members, hb, hm⟩ := Binding.attests h (id b)
    unfold Recording.put Binding.recording
    simp only [hb]
    exact hr.insert hm written
  group h written hr := hr.insert (.placementGroup rfl) written
  erase key hr := hr.erase key

/-! ## Configurations -/

namespace Dns

variable {p s : State} {d : Desired}

/-- A state that names one VPC, as its own identifier and as its VPC. -/
def State.IsOf (s : State) (v : String) : Prop := s.id = v ∧ s.vpcId = v

/-- What is loaded from records in shape names the VPC of the record. -/
theorem Loads.isOf (h : Loads records v p) (hr : WellShaped records) : p.IsOf v := by
  obtain ⟨record, members, hrecord, hattributes, hp⟩ := h.attributes_eq
  obtain ⟨hid, hvpc, -⟩ := State.fields_of_check hp
  obtain ⟨found, hfound, hm⟩ := (hr.of_get? hrecord).attested
  cases hfound.symm.trans hattributes
  cases hm with
  | dnsConfig hid' hvpc' =>
    rw [Schema.required_text_eq_ok_iff, hid'] at hid
    rw [Schema.required_text_eq_ok_iff, hvpc'] at hvpc
    exact ⟨Json.str.inj (Option.some.inj hid.symm), Json.str.inj (Option.some.inj hvpc.symm)⟩

theorem Desired.isOf_of_realized {b : NewBinding} (h : d.realized b = .ok s) :
    s.IsOf d.vpcId := by
  obtain ⟨f, id, hf, -, rfl⟩ := Checked.seq_eq_ok_iff.1 h
  obtain ⟨name, -, rfl⟩ := Checked.map_eq_ok_iff.1 hf
  exact ⟨rfl, rfl⟩

/-- **Every operation on a VPC keeps the records in shape**: what it
records names this VPC. -/
theorem wellShaped_upkeep {all : List Exchange} :
    Upkeep v all (fun s => s.IsOf v) WellShaped where
  blank := ⟨rfl, rfl⟩
  realized hd _ _ hs := hd ▸ Desired.isOf_of_realized hs
  changed hp _ _ := hp
  overlaid hp _ hs := by
    obtain ⟨hid, hvpc, -⟩ := State.kept_of_overlaid hs
    exact ⟨hid.trans hp.1, hvpc.trans hp.2⟩
  named hp hs _ := by
    cases hs with
    | unasked | unlisted => exact hp
    | listed =>
      split
      · exact hp
      · exact hp
  adopted hp _ _ hs := by
    rcases State.eq_of_adoptFrom hs with rfl | ⟨binding, -, id, name, -, -, rfl⟩
    · exact hp
    · exact hp
  loaded hr hp := hp.isOf hr
  vpcId_eq hs := hs.2
  record hs written hr := by
    obtain ⟨rfl, hvpc⟩ := hs
    exact hr.insert (.dnsConfig rfl (by rw [← hvpc]; rfl)) written
  erase hr := hr.erase _

end Dns

/-! ## Histories -/

/-- **The records are in shape after every history** of operations, from
an empty table and from any records in shape. -/
theorem records_well_shaped :
    WellShaped [] ∧ ∀ (w : World) (turns : List Turn), WellShaped w.store.records →
      WellShaped (worldAfter w turns).store.records :=
  ⟨.nil, fun _ _ hw => Dns.upheld_worldAfter (fun _ => Dns.wellShaped_upkeep)
    wellShaped_outlastsAnswers (List.Subset.refl _) hw⟩

/-- The records of a VPC that started to delegate are in shape. -/
theorem records_well_shaped_started :
    WellShaped [] ∧ WellShaped Dns.startedRecords :=
  ⟨records_well_shaped.1,
    records_well_shaped.2 (Dns.calm [] []) [Dns.starting] records_well_shaped.1⟩

end NetSteward
