import NetSteward.Proofs.Dns.Rollback
import NetSteward.Proofs.Dns.Succession
import NetSteward.Proofs.Rereading
/-!
# What was applied stays recorded

A configuration that the service accepted is recorded before the VPC is read
back, and what was recorded is not lost in reading back: with whatever the
service answers then, the record goes on to name the binding that the
operation decided on, and if the operation fails it goes on to hold the
configuration that was asked for. Only the record of a VPC that the service
says is missing is dropped.
-/

namespace NetSteward

namespace Dns

open Remote (Call Exchange Reply)

variable {calls before more : List Exchange} {records : Keyed (Keyed Json)} {u v : String}
variable {w x : World} {c : Changes} {d : Desired} {p s : State} {t : Transition} {j : Json}
variable {op : Operation} {α : Type}

/-! ## What is asked for and decided on -/

/-- **An operation that brings a VPC into a configuration**, with what it asks
for. -/
inductive Asks (records : Keyed (Keyed Json)) (v : String) : Operation → Changes → Prop
  | create (d : Desired) (h : d.vpcId = v) : Asks records v (.createDns d) d.toChanges
  /-- The record that is changed is about the VPC. -/
  | update (c : Changes) (hown : ∀ p, Loads records v p → p.vpcId = v) :
      Asks records v (.updateDns (.str v) c) c

/-- **A state holds what was asked for.** -/
structure Requested (c : Changes) (s : State) : Prop where
  enableHub : s.enableHub = c.enableHub
  resolverType : s.resolverType = c.resolverType.toJson
  manualServers : s.manualServers = c.manualServers
  resolverVpcId : s.resolverVpcId = .ofOption c.resolverVpcId
  resolverVpcCrn : s.resolverVpcCrn = .ofOption c.resolverVpcCrn

/-- **The binding that an operation decides on**, null for none. -/
inductive Decides (records : Keyed (Keyed Json)) (v : String) (calls : List Exchange) :
    Operation → Json → Prop
  | opened {d : Desired} {j : Json} (hd : d.resolverType = .delegated)
      (hj : BindingCreated calls v j) : Decides records v calls (.createDns d) j
  | unneeded {d : Desired} (hd : d.resolverType ≠ .delegated) :
      Decides records v calls (.createDns d) .null
  | entered {c : Changes} {p : State} {j : Json} (hp : Loads records v p)
      (h : NeedsBinding p ⟨c, v⟩) (hj : BindingCreated calls v j) :
      Decides records v calls (.updateDns (.str v) c) j
  | left {c : Changes} {p : State} (hp : Loads records v p) (h : StopsDelegating p ⟨c, v⟩) :
      Decides records v calls (.updateDns (.str v) c) .null
  | kept {c : Changes} {p : State} (hp : Loads records v p) (hn : ¬ NeedsBinding p ⟨c, v⟩)
      (hs : ¬ StopsDelegating p ⟨c, v⟩) :
      Decides records v calls (.updateDns (.str v) c) p.bindingId

/-! ## What is recorded is not lost -/

/-- **What was applied stays recorded**: what an operation ends with, its calls
and the records that it leaves, for a configuration with a binding. -/
structure Retained (v : String) (c : Changes) (j : Json) (result : Except Failure α)
    (calls : List Exchange) (after : Keyed (Keyed Json)) : Prop where
  missing : ReportedMissing calls v →
    (∃ name : Json, name.plain = v ∧ result = .error (.gone .dnsConfig name)) ∧
      after.get? (keyOf v) = none
  named : ¬ ReportedMissing calls v → recordedBinding? after v = some j
  failed : ¬ ReportedMissing calls v → ∀ f, result = .error f →
    ∃ q, Loads after v q ∧ Requested c q ∧ q.bindingId = j

/-- Only what is read back can be reported as missing. -/
theorem Retained.of_append {after : Keyed (Keyed Json)} {result : Except Failure α}
    (h : Retained v c j result more after) (hcalls : ¬ ReportedMissing calls v) :
    Retained v c j result (calls ++ more) after := by
  have hiff : ReportedMissing (calls ++ more) v ↔ ReportedMissing more v :=
    reportedMissing_append.trans (or_iff_right hcalls)
  exact ⟨fun hm => h.missing (hiff.1 hm), fun hm => h.named (mt hiff.2 hm),
    fun hm => h.failed (mt hiff.2 hm)⟩

/-- In which form the result is returned makes no difference. -/
theorem Retained.map {β : Type} {after : Keyed (Keyed Json)} {result : Except Failure α}
    {f : α → β} (h : Retained v c j result calls after) :
    Retained v c j (result.map f) calls after := by
  refine ⟨fun hm => ?_, h.named, fun hm g hg => h.failed hm g (map_eq_error_iff.1 hg)⟩
  obtain ⟨⟨name, hname, rfl⟩, hnone⟩ := h.missing hm
  exact ⟨⟨name, hname, rfl⟩, hnone⟩

/-- A state that passes its own checks goes on to do so when it is changed, if
the binding that is gone on with can be recorded. -/
theorem State.check_changed (hp : State.check .data p.toJson = .ok p)
    (hid : t.id.IsOptionalText) (hname : t.name.IsOptionalText) :
    State.check .data (p.changed c t).toJson = .ok (p.changed c t) := by
  obtain ⟨htyped, n, hn⟩ := State.typed_of_check hp
  have hcount : (p.changed c t).bindingCount = .int n := hn
  refine State.check_toJson_eq_ok_iff.2 ⟨htyped.changed hid hname, n, by rw [hcount]; rfl, ?_⟩
  rw [← hcount]

/-- **A change that is recorded and read back is not lost.** -/
theorem Settled.retained {result : Except Failure State}
    (h : Settled v (p.changed c t) w result calls x) (hw : Recordable w) (hv : p.vpcId = v)
    (hp : State.check .data p.toJson = .ok p) (hid : t.id.IsOptionalText)
    (hname : t.name.IsOptionalText) :
    Retained v c t.id result calls x.store.records := by
  have hs := State.check_changed (c := c) hp hid hname
  generalize hq : p.changed c t = s at h hs
  have hsame : s.vpcId = v ∧ s.bindingId = t.id ∧ Requested c s := by
    subst hq
    exact ⟨hv, rfl, rfl, rfl, rfl, rfl, rfl⟩
  obtain ⟨rfl, hbinding, hc⟩ := hsame
  have hfinite : s.bindingId.finite = t.id := by
    obtain ⟨o, ho⟩ := hid
    rw [hbinding, ho]
    exact Json.finite_ofOption o
  cases h with
  | unrecorded hf => exact absurd hf (hw.not_unwritten (State.typed_of_check hs).1)
  | @recorded _ _ written u _ hu h =>
    -- The record is there before the VPC is asked, and reading back is clean.
    have hloads : Loads u.store.records s.vpcId s := by
      rw [hu.records_eq]
      exact Memory.holds_insert (by rw [State.attributes_of_check hs]; exact hs)
    have hclean := h.clean hloads (hu.faults_eq.trans hw.faultless)
    refine ⟨fun hm => ?_, fun hm => ?_, fun hm f hf => ?_⟩
    · obtain ⟨hgone, hrecords⟩ := hclean.missing hm
      refine ⟨hgone, ?_⟩
      rw [hrecords]
      exact (Keyed.get?_erase _ _ _).trans (if_pos rfl)
    · cases hr : result with
      | ok a =>
        rw [hr] at h
        rw [h.recorded_of_ok, hfinite]
      | error f =>
        rw [hclean.failed f hr hm, hu.records_eq, recordedBinding?_insert, if_pos rfl, hfinite]
    · refine ⟨s, ?_, hc, hbinding⟩
      rw [hclean.failed f hf hm]
      exact hloads

/-! ## Up to the patch -/

/-- Nothing is asked of the VPC before its patch is answered. -/
theorem Bound.not_reportedMissing {result : Except Failure NewBinding}
    (h : Bound d result calls) : ¬ ReportedMissing calls v := by
  rintro ⟨refusal, -, hmem⟩
  obtain ⟨reply, rfl⟩ := h.calls_eq
  cases List.mem_singleton.1 hmem

theorem Opened.not_reportedMissing {result : Except Failure NewBinding}
    (h : Opened d result calls) : ¬ ReportedMissing calls v := by
  cases h with
  | unneeded => exact not_reportedMissing_nil
  | needed _ hb => exact hb.not_reportedMissing

theorem GivenUp.not_reportedMissing {result : Except Failure Unit}
    (h : GivenUp (.str u) j result calls) : ¬ ReportedMissing calls v := by
  rcases h.calls_eq with ⟨-, rfl⟩ | ⟨-, reply, rfl⟩
  · exact not_reportedMissing_nil
  · rintro ⟨refusal, -, hmem⟩
    cases List.mem_singleton.1 hmem

theorem Prepared.not_reportedMissing {result : Except Failure Transition}
    (h : Prepared p d result calls) : ¬ ReportedMissing calls v := by
  cases h with
  | left _ hcalls | unleft _ hcalls => exact hcalls.not_reportedMissing
  | kept => exact not_reportedMissing_nil
  | entered _ _ hb | unentered _ _ hb => exact hb.not_reportedMissing
  | renamed | unrenamed =>
    rintro ⟨refusal, -, hmem⟩
    cases List.mem_singleton.1 hmem

theorem Applied.not_reportedMissing (h : Applied d j (.ok ()) calls) :
    ¬ ReportedMissing calls v := by
  rintro ⟨refusal, -, hmem⟩
  obtain ⟨body, rfl⟩ := h.calls_eq
  cases List.mem_singleton.1 hmem

/-- A patch that fails was not answered. -/
theorem Applied.not_answered {f : Failure} {body : Json} (h : Applied d j (.error f) calls) :
    ¬ PatchSent calls v (.ok body) := by
  rintro ⟨patch, hmem⟩
  rcases h.failed_cases with ⟨refusal, r, rest, rfl, hrest⟩ | ⟨reason, rfl⟩
  · rcases List.mem_cons.1 hmem with heq | hmem
    · cases heq
    · exact hrest.not_patchSent ⟨patch, hmem⟩
  · cases List.mem_singleton.1 hmem

/-! ## Creating and changing -/

theorem Opened.typed {b : NewBinding} (h : Opened d (.ok b) calls)
    (hcreated : TypedCreations calls) : b.id.IsOptionalText ∧ b.name.IsOptionalText := by
  cases h with
  | unneeded => exact ⟨Json.isOptionalText_null, Json.isOptionalText_null⟩
  | needed _ hb => exact hb.typed hcreated

/-- **What is created is a change of a VPC of which nothing is known**, if the
binding can be recorded. -/
theorem Desired.realized_eq {b : NewBinding} (hid : b.id.IsOptionalText)
    (hname : b.name.IsOptionalText) :
    d.realized b =
      .ok ((State.ofText d.vpcId).changed d.toChanges ⟨b.id, b.name, b.id, .null⟩) := by
  obtain ⟨id, hid⟩ := hid
  obtain ⟨name, hname⟩ := hname
  rw [Desired.realized, Schema.nullable_text_eq_ok_iff.2 hid,
    Schema.nullable_text_eq_ok_iff.2 hname, hid, hname]
  rfl

theorem State.check_ofText (v : String) :
    State.check .data (State.ofText v).toJson = .ok (State.ofText v) :=
  State.check_toJson_eq_ok_iff.2 ⟨State.typed_ofText v, 0, rfl, rfl⟩

/-- The binding that was opened is the one that is decided on. -/
theorem Opened.decides {b : NewBinding} (h : Opened d (.ok b) before) (more : List Exchange) :
    Decides records d.vpcId (before ++ more) (.createDns d) b.id := by
  cases h with
  | unneeded h => exact .unneeded h
  | needed h hb => exact .opened h (bindingCreated_append.2 (.inl hb.bindingCreated))

/-- **What is created stays recorded.** -/
theorem Created.retained {result : Except Failure State} {body : Json}
    (h : Created d w result calls x) (hw : Recordable w) (hcreated : TypedCreations calls)
    (hpatched : PatchSent calls d.vpcId (.ok body)) :
    ∃ j, Decides w.store.records d.vpcId calls (.createDns d) j ∧
      Retained d.vpcId d.toChanges j result calls x.store.records := by
  cases h with
  | violating => exact absurd hpatched not_patchSent_nil
  | unopened _ hf => exact absurd hpatched (not_patchSent_of_times hf.times_patches)
  | unapplied _ hb hf =>
    rcases patchSent_append.1 hpatched with hpatched | hpatched
    · exact absurd hpatched (not_patchSent_of_times hb.times_patches)
    · exact absurd hpatched hf.not_answered
  | unrealized _ hb _ hf =>
    obtain ⟨hid, hname⟩ := hb.typed hcreated.of_append
    rw [Desired.realized_eq hid hname] at hf
    cases hf
  | applied _ hb ha hs hu h =>
    rw [List.append_assoc] at hcreated ⊢
    obtain ⟨hid, hname⟩ := hb.typed hcreated.of_append
    rw [Desired.realized_eq hid hname] at hs
    cases hs
    refine ⟨_, hb.decides _, .of_append (.of_append ?_ ha.not_reportedMissing)
      hb.not_reportedMissing⟩
    exact h.retained (hw.of_leads hu) rfl (State.check_ofText _) hid hname

/-- The binding that a change is prepared for is the one that is decided
on. -/
theorem Succession.decides (h : Succession v p ⟨c, v⟩ before t) (hp : Loads records v p)
    (more : List Exchange) :
    Decides records v (before ++ more) (.updateDns (.str v) c) t.id := by
  cases h with
  | entered h hb => exact .entered hp h (bindingCreated_append.2 (.inl hb.bindingCreated))
  | left h => exact .left hp h
  | kept hn hs => exact .kept hp hn hs

/-- What loads passes its own checks. -/
theorem Loads.check_toJson (h : Loads records v p) : State.check .data p.toJson = .ok p := by
  obtain ⟨record, members, -, -, hp⟩ := h.attributes_eq
  exact State.check_toJson_of_check hp

/-- **What a VPC is changed to stays recorded.** -/
theorem Updated.retained {result : Except Failure State} {body : Json}
    (h : Updated v c w result calls x) (hown : ∀ p, Loads w.store.records v p → p.vpcId = v)
    (hw : Recordable w) (hcreated : TypedCreations calls)
    (hpatched : PatchSent calls v (.ok body))
    (hcut : ∀ j reason, (Call.deleteBinding (.str v) j, Reply.disconnected reason) ∉ calls) :
    ∃ j, Decides w.store.records v calls (.updateDns (.str v) c) j ∧
      Retained v c j result calls x.store.records := by
  cases h with
  | unfit | violating | unloaded => exact absurd hpatched not_patchSent_nil
  | unprepared _ hf => exact absurd hpatched (not_patchSent_of_times hf.times_patches)
  | unapplied _ ht hf =>
    rcases patchSent_append.1 hpatched with hpatched | hpatched
    · exact absurd hpatched (not_patchSent_of_times ht.times_patches)
    · exact absurd hpatched hf.not_answered
  | unreplaced _ _ _ hf =>
    -- Only a removal that is cut off stops a change after its patch.
    cases hf with
    | cut => exact absurd (List.mem_append_right _ (List.mem_singleton.2 rfl)) (hcut _ _)
  | @applied _ p t _ _ _ _ _ _ _ hs ht ha hr hu h =>
    rw [List.append_assoc, List.append_assoc] at hcreated ⊢
    obtain ⟨hid, hname⟩ := ht.typed_of_creations hcreated.of_append hs.loads.typed
    cases Desired.eq_of_ofChanges hs.admitted
    refine ⟨_, (ht.succession hs).decides hs.loads _,
      .of_append (.of_append (.of_append ?_ hr.not_reportedMissing) ha.not_reportedMissing)
        ht.not_reportedMissing⟩
    exact h.retained (hw.of_leads hu) (hown p hs.loads) hs.loads.check_toJson hid hname

/-- **An applied configuration stays recorded.** An operation that brings a VPC
into a configuration and has its patch answered decided on a binding, and
whatever is answered when the VPC is read back, either the VPC is reported as
missing and its record is dropped, or the record names this binding and, if the
operation fails, holds what was asked for. -/
theorem applied_configuration_stays_recorded {body : Json} (hop : Asks w.store.records v op c)
    (hw : Recordable w) (hcreated : TypedCreations (op.run w).calls)
    (hpatched : PatchSent (op.run w).calls v (.ok body))
    (hcut : ∀ j reason,
      (Call.deleteBinding (.str v) j, Reply.disconnected reason) ∉ (op.run w).calls) :
    ∃ j, Decides w.store.records v (op.run w).calls op j ∧
      Retained v c j (op.run w).result (op.run w).calls (op.run w).world.store.records := by
  cases hop with
  | create d hv =>
    subst hv
    rw [Operation.run, Operation.one_apply] at hcreated hpatched ⊢
    obtain ⟨j, hj, h⟩ := (created d w).retained hw hcreated hpatched
    exact ⟨j, hj, h.map⟩
  | update c hown =>
    rw [Operation.run, Operation.one_apply] at hcreated hpatched hcut ⊢
    obtain ⟨j, hj, h⟩ := (updated v c w).retained hown hw hcreated hpatched hcut
    exact ⟨j, hj, h.map⟩

/-- A VPC moves to another hub. The binding that it had is not removed, and the
listing of its bindings is cut off. -/
def severedWorld : World :=
  spokeWorld [.ok nextBody, .ok .null, failing, .ok movedVpc, .disconnected "reset"]

/-- The move that fails after it was applied. -/
abbrev severedMove : Outcome Json :=
  (Operation.updateDns (.str "vpc-1") toOtherHub).run severedWorld

theorem severedMove_calls :
    severedMove.calls =
      [(movingDesired.bindingCall, .ok nextBody), (movingDesired.patchCall, .ok .null),
        (.deleteBinding (.str "vpc-1") (.str "b-1"), failing),
        (.getVpc (.str "vpc-1"), .ok movedVpc),
        (.list (bindingsOf "vpc-1") none (.int 50), .disconnected "reset")] := rfl

/-- The record names the new binding and holds what was asked for, although the
move fails. -/
theorem applied_configuration_stays_recorded_severed :
    Asks severedWorld.store.records "vpc-1" (.updateDns (.str "vpc-1") toOtherHub) toOtherHub ∧
      Recordable severedWorld ∧ TypedCreations severedMove.calls ∧
      PatchSent severedMove.calls "vpc-1" (.ok .null) ∧
      (∀ j reason, (Call.deleteBinding (.str "vpc-1") j, Reply.disconnected reason) ∉
        severedMove.calls) ∧
      severedMove.result = .error (.disconnected "reset") ∧
      ∃ q, Loads severedMove.world.store.records "vpc-1" q ∧ Requested toOtherHub q ∧
        q.bindingId = .str "b-2" := by
  have hown : ∀ p, Loads severedWorld.store.records "vpc-1" p → p.vpcId = "vpc-1" := by
    intro p hp
    rw [hp.unique (s := spoke) ⟨_, rfl, rfl⟩]
    rfl
  have hw : Recordable severedWorld := ⟨rfl, _, rfl⟩
  have hcreated : TypedCreations severedMove.calls := by
    intro vpcId hub name body hmem
    rw [severedMove_calls] at hmem
    simp [Desired.bindingCall, Desired.patchCall] at hmem
    rw [hmem.2]
    exact nextBody_wellTyped.toTypedBinding
  have hpatched : PatchSent severedMove.calls "vpc-1" (.ok .null) :=
    ⟨movingDesired.patch, List.mem_cons_of_mem _ List.mem_cons_self⟩
  have hcut : ∀ j reason, (Call.deleteBinding (.str "vpc-1") j, Reply.disconnected reason) ∉
      severedMove.calls := by
    intro j reason
    rw [severedMove_calls]
    simp [Desired.bindingCall, Desired.patchCall, failing]
  have hmissing : ¬ ReportedMissing severedMove.calls "vpc-1" := by
    rintro ⟨refusal, -, hmem⟩
    rw [severedMove_calls] at hmem
    simp [Desired.bindingCall, Desired.patchCall] at hmem
  have hresult : severedMove.result = .error (.disconnected "reset") := rfl
  have hnamed : recordedBinding? severedMove.world.store.records "vpc-1" = some (.str "b-2") := rfl
  obtain ⟨j, -, h⟩ :=
    applied_configuration_stays_recorded (.update toOtherHub hown) hw hcreated hpatched hcut
  cases (h.named hmissing).symm.trans hnamed
  exact ⟨.update toOtherHub hown, hw, hcreated, hpatched, hcut, hresult,
    h.failed hmissing _ hresult⟩

end Dns

end NetSteward
