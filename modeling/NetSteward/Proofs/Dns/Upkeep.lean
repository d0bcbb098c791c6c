import NetSteward.Proofs.History
import NetSteward.Proofs.OtherKinds
/-!
# Properties of the records that outlast operations

A recorded state of a VPC is the result of a few steps, and so is the next
one. `Upkeep` says what a property of the records has to allow for it to be
true after any operation that was true before: that the steps lead from
good states to good states, and that good states can be recorded and
records erased. The main result goes from there to any history of
operations of all kinds.
-/

namespace NetSteward

/-- The identifier of the VPC whose configuration an operation is about. -/
def Operation.vpcId? : Operation → Option Json
  | createDns d => some (.str d.vpcId)
  | updateDns id _ | readDns id | importDns id | deleteDns id => some id
  | _ => none

namespace Dns

open Remote (Call Exchange Listed Reply)
open NetSteward.Action (Keeps)

variable {all calls : List Exchange} {v : String} {good : State → Prop}
variable {inv : Keyed (Keyed Json) → Prop}
variable {w x : World} {d : Desired} {p s : State} {op : Operation}

/-- **What the upkeep of a property of the records takes**, as far as the
configuration of a VPC goes. The states that come about, by steps that take
their values from some calls, are good. -/
structure Upkeep (v : String) (all : List Exchange) (good : State → Prop)
    (inv : Keyed (Keyed Json) → Prop) : Prop where
  /-- Nothing is known of the VPC. -/
  blank : good (State.ofText v)
  /-- A configuration was applied. -/
  realized {d : Desired} {b : NewBinding} {s : State} {calls : List Exchange} (hd : d.vpcId = v)
    (hb : Opened d (.ok b) calls) (hsub : calls ⊆ all) (hs : d.realized b = .ok s) : good s
  /-- A change was applied. -/
  changed {p : State} {c : Changes} {t : Transition} {calls : List Exchange} (hp : good p)
    (ht : Prepared p ⟨c, v⟩ (.ok t) calls) (hsub : calls ⊆ all) : good (p.changed c t)
  /-- The VPC was read back. -/
  overlaid {p s : State} {vpcId body : Json} (hp : good p)
    (hmem : (Call.getVpc vpcId, Reply.ok body) ∈ all) (hs : p.overlaid body = .ok s) : good s
  /-- The name of the binding was looked up. -/
  named {p s : State} {calls : List Exchange} (hp : good p) (hs : Named p (.ok s) calls)
    (hsub : calls ⊆ all) : good s
  /-- A binding was adopted. -/
  adopted {p s : State} {bindings : List Json} {calls : List Exchange} (hp : good p)
    (hlisted : Listed (bindingsOf v) calls bindings) (hsub : calls ⊆ all)
    (hs : p.adoptFrom bindings = .ok s) : good s
  /-- The record was loaded. -/
  loaded {records : Keyed (Keyed Json)} {p : State} (hr : inv records) (hp : Loads records v p) :
    good p
  vpcId_eq {s : State} (hs : good s) : s.vpcId = v
  record {records : Keyed (Keyed Json)} {s : State} (hs : good s) (written : Time.Instant)
    (hr : inv records) : inv (records.insert (keyOf v)
      (Memory.record .dnsConfig (.str v) s.attributes written))
  erase {records : Keyed (Keyed Json)} (hr : inv records) : inv (records.erase (keyOf v))

namespace Upkeep

variable (k : Upkeep v all good inv)

include k

/-! ## Steps -/

/-- A state that was read back is good, and the property is kept along the
way. -/
theorem refreshed {result : Except Failure State} (h : Refreshed p w result calls x)
    (hsub : calls ⊆ all) (hp : good p) (hw : inv w.store.records) :
    inv x.store.records ∧ ∀ s, result = .ok s → good s := by
  cases h with
  | @shown _ _ s _ written _ hread hs hx =>
    obtain ⟨hmem, hrest⟩ := List.cons_subset.1 hsub
    have hgood : good s := k.named (k.overlaid hp hmem hread) hs hrest
    have hv := k.vpcId_eq hgood
    refine ⟨?_, fun t ht => by cases ht; exact hgood⟩
    rw [hx.records_eq, hv]
    exact k.record hgood written hw
  | unrecorded _ _ _ hx | unnamed _ _ hx | garbled _ hx | refused _ hx | cut hx
  | undropped _ _ hx => exact ⟨hx.records_eq ▸ hw, fun t ht => by cases ht⟩
  | missing _ hx =>
    refine ⟨?_, fun t ht => by cases ht⟩
    rw [hx.records_eq, k.vpcId_eq hp]
    exact k.erase hw

theorem settled {result : Except Failure State} (h : Settled v s w result calls x)
    (hsub : calls ⊆ all) (hs : good s) (hw : inv w.store.records) :
    inv x.store.records ∧ ∀ t, result = .ok t → good t := by
  cases h with
  | unrecorded _ hu => exact ⟨hu.records_eq ▸ hw, fun t ht => by cases ht⟩
  | @recorded _ _ written _ _ hu h =>
    exact k.refreshed h hsub hs (hu.records_eq ▸ k.record hs written hw)

/-! ## Operations -/

theorem created {result : Except Failure State} (h : Created d w result calls x)
    (hd : d.vpcId = v) (hsub : calls ⊆ all) (hw : inv w.store.records) :
    inv x.store.records ∧ ∀ s, result = .ok s → good s := by
  cases h with
  | violating => exact ⟨hw, fun t ht => by cases ht⟩
  | unopened _ _ hu | unapplied _ _ _ hu | unrealized _ _ _ _ hu =>
    exact ⟨hu.records_eq ▸ hw, fun t ht => by cases ht⟩
  | applied _ hb _ hs hu h =>
    obtain ⟨hbefore, hmore⟩ := List.append_subset.1 hsub
    exact k.settled (hd ▸ h) hmore (k.realized hd hb (List.append_subset.1 hbefore).1 hs)
      (hu.records_eq ▸ hw)

theorem updated {c : Changes} {result : Except Failure State} (h : Updated v c w result calls x)
    (hsub : calls ⊆ all) (hw : inv w.store.records) :
    inv x.store.records ∧ ∀ s, result = .ok s → good s := by
  cases h with
  | unfit | violating => exact ⟨hw, fun t ht => by cases ht⟩
  | unloaded _ _ _ hu | unprepared _ _ hu | unapplied _ _ _ hu | unreplaced _ _ _ _ hu =>
    exact ⟨hu.records_eq ▸ hw, fun t ht => by cases ht⟩
  | applied hs ht _ _ hu h =>
    obtain ⟨hbefore, hmore⟩ := List.append_subset.1 hsub
    have hprepared := (List.append_subset.1 (List.append_subset.1 hbefore).1).1
    cases Desired.eq_of_ofChanges hs.admitted
    exact k.settled h hmore (k.changed (k.loaded hw hs.loads) ht hprepared) (hu.records_eq ▸ hw)

theorem readBack {result : Except Failure State} (h : ReadBack v w result calls x)
    (hsub : calls ⊆ all) (hw : inv w.store.records) :
    inv x.store.records ∧ ∀ s, result = .ok s → good s := by
  cases h with
  | unloaded _ hu => exact ⟨hu.records_eq ▸ hw, fun t ht => by cases ht⟩
  | loaded hp hu h => exact k.refreshed h hsub (k.loaded hw hp) (hu.records_eq ▸ hw)

theorem adopts {result : Except Failure State} (h : Adopted v w result calls x)
    (hsub : calls ⊆ all) (hw : inv w.store.records) : inv x.store.records := by
  cases h with
  | unread h | plain h => exact (k.refreshed h hsub k.blank hw).1
  | unlisted h _ _ _ hx | unmatched h _ _ _ _ hx | unrecorded h _ _ _ _ _ hx =>
    exact hx.records_eq ▸ (k.refreshed h (List.append_subset.1 hsub).1 k.blank hw).1
  | @matched _ _ _ _ _ written _ _ h _ _ hlisted ht hx =>
    obtain ⟨hcalls, hmore⟩ := List.append_subset.1 hsub
    obtain ⟨hrecords, hgood⟩ := k.refreshed h hcalls k.blank hw
    rw [hx.records_eq]
    exact k.record (k.adopted (hgood _ rfl) hlisted hmore ht) written hrecords

end Upkeep

/-- Deleting writes no record. -/
theorem keeps_delete {id : Json}
    (herase : ∀ records, inv records → inv (records.erase (keyOf id.plain))) :
    (delete id).Keeps inv Any := by
  refine Memory.keeps_retrieve.bind fun found _ => ?_
  cases found with
  | none => exact .pure trivial
  | some prior =>
    have removed : (removeBinding id prior.bindingId).Keeps inv Any := by
      unfold removeBinding
      split
      · exact Remote.keeps_settled
      · exact .pure trivial
    exact removed.bind fun _ _ => Remote.keeps_settled.bind fun _ _ =>
      (Memory.keeps_forget herase).bind fun _ _ => .pure trivial

/-- Reading back depends on an identifier only through its plain form, but
for the failure that says that there is no record. -/
theorem read_eq_or_gone (id : Json) (w : World) :
    read id w = read (.str id.plain) w ∨
      ∃ events v, read id w = ⟨.error (.gone .dnsConfig id), events, v⟩ ∧
        read (.str id.plain) w = ⟨.error (.gone .dnsConfig (.str id.plain)), events, v⟩ := by
  have hsame : Memory.retrieve .dnsConfig id (State.check .data) =
      Memory.retrieve .dnsConfig (.str id.plain) (State.check .data) := rfl
  simp only [read, Memory.retrieveManaged, hsame, Action.bind_apply]
  rcases Memory.retrieve .dnsConfig (.str id.plain) (State.check .data) w with
    ⟨_ | _ | _, events, v⟩
  · exact .inl rfl
  · exact .inr ⟨events ++ [], v, rfl, rfl⟩
  · exact .inl rfl

/-- So it makes the same calls, with the same effect. -/
theorem read_plain (id : Json) (w : World) :
    (read id w).calls = (read (.str id.plain) w).calls ∧
      (read id w).world = (read (.str id.plain) w).world ∧
      ∀ s, (read id w).result = .ok s ↔ (read (.str id.plain) w).result = .ok s := by
  rcases read_eq_or_gone id w with hsame | ⟨events, v, hid, hplain⟩
  · rw [hsame]
    exact ⟨rfl, rfl, fun _ => Iff.rfl⟩
  · rw [hid, hplain]
    exact ⟨rfl, rfl, fun s => iff_of_false (fun h => by cases h) fun h => by cases h⟩

/-- **The upkeep for a VPC is one over every operation on its
configuration.** -/
theorem Upkeep.keeps_run {id : Json} (k : Upkeep id.plain all good inv) (hop : op.vpcId? = some id)
    (hsub : (op.run w).calls ⊆ all) (hw : inv w.store.records) :
    inv (op.run w).world.store.records := by
  cases op with
  | createDns d =>
    cases hop
    rw [Operation.run, Operation.one_apply] at hsub ⊢
    exact (k.created (Dns.created d w) rfl hsub hw).1
  | updateDns id c =>
    cases hop
    rw [Operation.run, Operation.one_apply] at hsub ⊢
    -- What is not a text is no identifier.
    cases id with
    | str v => exact (k.updated (Dns.updated v c w) hsub hw).1
    | null | bool | int | float | arr | obj => exact hw
  | readDns id =>
    cases hop
    obtain ⟨hcalls, hworld, -⟩ := read_plain id w
    rw [Operation.run, Operation.one_apply] at hsub ⊢
    change (read id w).calls ⊆ all at hsub
    change inv (read id w).world.store.records
    rw [hcalls] at hsub
    rw [hworld]
    exact (k.readBack (Dns.readBack id.plain w) hsub hw).1
  | importDns id =>
    cases hop
    rw [Operation.run, Operation.one_apply] at hsub ⊢
    cases id with
    | str v => exact k.adopts (Dns.adopted v w) hsub hw
    | null | bool | int | float | arr | obj => exact hw
  | deleteDns id =>
    cases hop
    have kept : (Operation.deleteDns id).run.Keeps inv Any :=
      (keeps_delete fun _ => k.erase).map fun _ _ => trivial
    exact (kept w hw).1
  | listDns | createBinding | renameBinding | readBinding | deleteBinding | fetchBinding
  | listBindings | createGroup | renameGroup | readGroup | deleteGroup | fetchGroup | listGroups
  | listRoutes => cases hop

/-- Listing configurations writes nothing. -/
theorem keeps_listDns : Operation.listDns.run.Keeps inv Any :=
  Memory.keeps_retrieveAll.map fun _ _ => trivial

/-! ## Histories -/

variable {goodOf : String → State → Prop} (upkeep : ∀ v, Upkeep v all (goodOf v) inv)
variable (outlasts : OutlastsAnswers inv)

include upkeep outlasts

/-- **Every operation keeps a property** that there is an upkeep of for
every VPC. -/
theorem upheld_after_run (op : Operation) (w : World) (hsub : (op.run w).calls ⊆ all)
    (hw : inv w.store.records) : inv (op.run w).world.store.records := by
  cases hid : op.vpcId? with
  | some id => exact (upkeep id.plain).keeps_run hid hsub hw
  | none =>
    cases op with
    | createDns | updateDns | readDns | importDns | deleteDns => cases hid
    | listDns => exact (keeps_listDns w hw).1
    | createBinding | renameBinding | readBinding | deleteBinding | fetchBinding | listBindings
    | createGroup | renameGroup | readGroup | deleteGroup | fetchGroup | listGroups
    | listRoutes => exact outlasts.keeps_run rfl hw

/-- **In any history the property is kept**, with the calls of the whole
history to draw on. -/
theorem upheld_worldAfter {turns : List Turn} (hsub : callsOf (visits w turns) ⊆ all)
    (hw : inv w.store.records) : inv (worldAfter w turns).store.records := by
  induction turns generalizing w with
  | nil => exact hw
  | cons t rest ih =>
    rw [visits, callsOf_cons] at hsub
    obtain ⟨hfirst, hrest⟩ := List.append_subset.1 hsub
    exact ih hrest (upheld_after_run upkeep outlasts t.operation (t.opening w) hfirst hw)

end Dns

end NetSteward
