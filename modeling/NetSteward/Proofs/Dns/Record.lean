import NetSteward.Dns.Lifecycle
import NetSteward.Proofs.Dns.Typed
import NetSteward.Proofs.Store.Admission
/-!
# The binding that a record names

The record of a DNS configuration is the only trace of the binding
through which its VPC delegates. `recordedBinding?` reads the binding off
the records as they are, whether or not the record still passes its
checks, and the lemmas here say what writing and removing records does to
it.
-/

namespace NetSteward

/-- Only a text becomes a text when what cannot be sent is left out. -/
theorem Json.eq_str_of_finite {j : Json} {s : String} (h : j.finite = .str s) : j = .str s := by
  cases j with
  | float x =>
    unfold finite at h
    split at h <;> cases h
  | str t => exact h
  | null | bool | int | arr | obj => cases h

namespace Dns

variable {records : Keyed (Keyed Json)} {u v b : String}

/-- The key of the record of a VPC. -/
abbrev keyOf (v : String) : String := ResourceKind.dnsConfig.key v

/-- The binding among the attributes of a record, if there is one. -/
def bindingOf? (record : Keyed Json) : Option Json :=
  match Keyed.get? record Store.attributesAttribute with
  | some (.obj attributes) => Keyed.get? attributes "dns_resolution_binding_id"
  | _ => none

/-- The binding that the record of a VPC names, if it has one. -/
def recordedBinding? (records : Keyed (Keyed Json)) (v : String) : Option Json :=
  (records.get? (keyOf v)).bind bindingOf?

/-- The record of a VPC names a binding. -/
def Names (records : Keyed (Keyed Json)) (v b : String) : Prop :=
  recordedBinding? records v = some (.str b)

/-- The record of a VPC passes its checks and holds a state. -/
def Loads (records : Keyed (Keyed Json)) (v : String) (p : State) : Prop :=
  ∃ record, records.get? (keyOf v) = some record ∧
    Memory.ofRecord (State.check .data) record = .ok p

/-- No record, no binding. -/
theorem recordedBinding?_of_absent (h : records.get? (keyOf v) = none) :
    recordedBinding? records v = none := by
  rw [recordedBinding?, h, Option.bind_none]

/-- A state that was recorded has its binding recorded. -/
theorem recordedBinding?_insert (s : State) (id : Json) (written : Time.Instant) :
    recordedBinding?
        (records.insert (keyOf u) (Memory.record .dnsConfig id s.attributes written)) v =
      if u = v then some s.bindingId.finite else recordedBinding? records v := by
  simp only [recordedBinding?, Keyed.get?_insert, ResourceKind.key_inj]
  by_cases huv : u = v
  · simp only [if_pos huv, Option.bind_some]
    rfl
  · simp only [if_neg huv]

theorem recordedBinding?_erase :
    recordedBinding? (records.erase (keyOf u)) v =
      if u = v then none else recordedBinding? records v := by
  simp only [recordedBinding?, Keyed.get?_erase, ResourceKind.key_inj]
  by_cases huv : u = v
  · simp only [if_pos huv, Option.bind_none]
  · simp only [if_neg huv]

/-! ## Records that pass their checks -/

/-- An optional text that is given in a state is given in the object that
the state was read from. -/
theorem get?_of_optionalText {field : String} {members : Keyed Json} {j : Json}
    (h : Json.ofOption <$> Schema.optionalText field members = .ok j) (hj : j ≠ .null) :
    Keyed.get? members field = some j := by
  obtain ⟨o, ho, rfl⟩ := Checked.map_eq_ok_iff.1 h
  unfold Schema.optionalText Schema.defaulted at ho
  cases hg : Keyed.get? members field with
  | none => rw [hg] at ho; cases ho; exact absurd rfl hj
  | some k =>
    simp only [hg, Checked.within_eq_ok_iff] at ho
    rw [Schema.nullable_text_eq_ok_iff.1 ho]

/-- The VPC and the binding of a state that passed its checks are what
stands in the object that it was read from. -/
theorem State.fields_of_check {members : Keyed Json} {p : State}
    (h : State.check .data (.obj members) = .ok p) :
    Schema.required "id" Schema.text members = .ok p.id ∧
      Schema.required "vpc_id" Schema.text members = .ok p.vpcId ∧
      Json.ofOption <$> Schema.optionalText "dns_resolution_binding_id" members =
        .ok p.bindingId := by
  simp only [State.check, Schema.record, Checked.seq_eq_ok_iff] at h
  obtain ⟨f, binding, ⟨g, count, h, -, rfl⟩, hbinding, rfl⟩ := h
  obtain ⟨f, servers, ⟨g, name, h, -, rfl⟩, -, rfl⟩ := h
  obtain ⟨f, crn, ⟨g, hub, h, -, rfl⟩, -, rfl⟩ := h
  obtain ⟨f, type, ⟨g, enabled, h, -, rfl⟩, -, rfl⟩ := h
  obtain ⟨f, vpcId, h, hvpc, rfl⟩ := h
  obtain ⟨id, hid, rfl⟩ := Checked.map_eq_ok_iff.1 h
  exact ⟨hid, hvpc, hbinding⟩

namespace Loads

variable {p : State}

/-- A record that loads was read from an object. -/
theorem attributes_eq (h : Loads records v p) :
    ∃ record members, records.get? (keyOf v) = some record ∧
      Keyed.get? record Store.attributesAttribute = some (.obj members) ∧
        State.check .data (.obj members) = .ok p := by
  obtain ⟨record, hrecord, hp⟩ := h
  unfold Memory.ofRecord Json.require at hp
  cases ha : Keyed.get? record Store.attributesAttribute with
  | none => simp only [ha] at hp; cases hp
  | some j =>
    simp only [ha, shaped_ok] at hp
    have hj : State.check .data j = .ok p := checked_eq_ok_iff.1 hp
    cases j with
    | obj members => exact ⟨record, members, hrecord, ha, hj⟩
    | null | bool | int | float | str | arr => cases hj

/-- **A record that loads holds the binding of its state.** -/
theorem recordedBinding?_eq (h : Loads records v p) (hb : p.bindingId ≠ .null) :
    recordedBinding? records v = some p.bindingId := by
  obtain ⟨record, members, hrecord, hattributes, hp⟩ := h.attributes_eq
  rw [recordedBinding?, hrecord, Option.bind_some, bindingOf?, hattributes]
  exact get?_of_optionalText (State.fields_of_check hp).2.2 hb

theorem names (h : Loads records v p) (hb : p.bindingId = .str b) : Names records v b := by
  rw [Names, h.recordedBinding?_eq (by rw [hb]; exact fun h => by cases h), hb]

theorem recordedBinding?_of_given {j : Json} (h : Loads records v p) (hj : j = p.bindingId)
    (hgiven : p.bindingId.isGiven = true) : recordedBinding? records v = some j :=
  hj ▸ h.recordedBinding?_eq fun hnull => by rw [hnull] at hgiven; cases hgiven

end Loads

end Dns

end NetSteward
