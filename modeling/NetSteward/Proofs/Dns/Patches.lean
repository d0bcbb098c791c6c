import NetSteward.Proofs.Dns.Rollback
/-!
# The patches that reach the service

A configuration is checked as a whole before anything is done, and what is
sent of it afterwards is put together from the same optional fields by
separate functions. The main result is that these agree: whatever is asked
for and whatever the service replies, each patch of a VPC that is sent is
of one of three forms, a binding that goes with it was created before and
leads to the VPC that the patch names, and an operation fails on a
constraint exactly if what it was asked for violates one, in which case it
does nothing else.
-/

namespace NetSteward

open Remote (Call Exchange Refusal Reply)

namespace Dns

variable {calls before after : List Exchange} {v : String} {j k : Json}
variable {w x : World} {d : Desired} {p s : State} {op : Operation}

/-! ## What a patch may say -/

/-- A server as a patch names it, with a zone that has a name or without
one. -/
inductive ServerEntry : Json → Prop
  | plain (address : String) : ServerEntry (.obj [("address", .str address)])
  | zoned (address zone : String) (h : zone ≠ "") :
      ServerEntry (.obj [("address", .str address),
        ("zone_affinity", .obj [("name", .str zone)])])

/-- The identity of a hub: its identifier or its CRN, but not both. -/
inductive HubIdentity : Json → Prop
  | byId (id : String) (h : id ≠ "") : HubIdentity (.obj [("id", .str id)])
  | byCrn (crn : String) (h : crn ≠ "") : HubIdentity (.obj [("crn", .str crn)])

/-- The patch that makes a VPC delegate to a hub. -/
def delegatedPatch (hub : Json) : Json :=
  .obj [("dns", .obj [("enable_hub", .bool false),
    ("resolver", .obj [("type", .str "delegated"), ("vpc", hub)])])]

/-- **The forms of a valid patch.** -/
inductive ValidPatch : Json → Prop
  | system (enableHub : Bool) :
      ValidPatch (.obj [("dns", .obj [("enable_hub", .bool enableHub),
        ("resolver", .obj [("type", .str "system")])])])
  | manual (enableHub : Bool) (servers : List Json) (hne : servers ≠ [])
      (h : ∀ server ∈ servers, ServerEntry server) :
      ValidPatch (.obj [("dns", .obj [("enable_hub", .bool enableHub),
        ("resolver", .obj [("type", .str "manual"), ("manual_servers", .arr servers)])])])
  | delegated (hub : Json) (h : HubIdentity hub) : ValidPatch (delegatedPatch hub)

theorem ManualServer.serverEntry (server : ManualServer) : ServerEntry server.patch := by
  obtain ⟨address, zone⟩ := server
  unfold patch
  cases zone with
  | none => exact .plain address
  | some zone =>
    by_cases h : zone = ""
    · rw [h]
      exact .plain address
    · have hgiven : isGiven (some zone) = true := decide_eq_true h
      rw [if_pos hgiven]
      exact .zoned address zone h

theorem eq_some_of_isGiven {o : Option String} (h : isGiven o = true) :
    ∃ text, o = some text ∧ text ≠ "" := by
  cases o with
  | none => cases h
  | some text => exact ⟨text, rfl, of_decide_eq_true h⟩

/-! ## What a configuration must not ask for -/

/-- **A configuration that violates a constraint.** A text is given if it
is there and not empty. -/
inductive Desired.Violates (d : Desired) : Prop
  | noHub (h : d.resolverType = .delegated) (hid : isGiven d.resolverVpcId = false)
      (hcrn : isGiven d.resolverVpcCrn = false) : Violates d
  | twoHubs (h : d.resolverType = .delegated) (hid : isGiven d.resolverVpcId = true)
      (hcrn : isGiven d.resolverVpcCrn = true) : Violates d
  | isHub (h : d.resolverType = .delegated) (henabled : d.enableHub = true) : Violates d
  | noServers (h : d.resolverType = .manual) (hservers : d.manualServers = []) : Violates d

/-- **A constraint is reported exactly if one is violated.** -/
theorem Desired.exists_violation_iff : (∃ v, d.violation? = some v) ↔ d.Violates := by
  unfold violation?
  constructor
  · rintro ⟨violation, h⟩
    cases htype : d.resolverType with
    | system => rw [htype] at h; cases h
    | manual =>
      simp only [htype, List.isEmpty_iff] at h
      split at h
      · exact .noServers htype ‹_›
      · cases h
    | delegated =>
      simp only [htype, Bool.and_eq_true, Bool.not_eq_true'] at h
      split at h
      next hnone => exact .noHub htype hnone.1 hnone.2
      split at h
      next htwo => exact .twoHubs htype htwo.1 htwo.2
      split at h
      next henabled => exact .isHub htype henabled
      cases h
  · intro h
    cases h with
    | noHub h hid hcrn => simp [h, hid, hcrn]
    | twoHubs h hid hcrn => simp [h, hid, hcrn]
    | isHub h henabled =>
      simp only [h, henabled, if_true]
      split
      · exact ⟨_, rfl⟩
      split <;> exact ⟨_, rfl⟩
    | noServers h hservers => simp [h, hservers]

/-- The hub of a configuration that delegates and violates nothing. -/
theorem Desired.hub_of_valid (hvalid : d.violation? = none) (h : d.resolverType = .delegated) :
    HubIdentity d.resolverVpc ∧ d.enableHub = false := by
  have unviolated : ¬ d.Violates := fun hv => by
    obtain ⟨violation, hsome⟩ := exists_violation_iff.2 hv
    rw [hvalid] at hsome
    cases hsome
  have henabled : d.enableHub = false := Bool.eq_false_iff.2 fun hon => unviolated (.isHub h hon)
  refine ⟨?_, henabled⟩
  unfold resolverVpc
  by_cases hid : isGiven d.resolverVpcId = true
  · rw [if_pos hid]
    obtain ⟨id, heq, hne⟩ := eq_some_of_isGiven hid
    rw [heq]
    exact .byId id hne
  · rw [if_neg hid]
    have hcrn : isGiven d.resolverVpcCrn = true := by
      by_contra hcrn
      exact unviolated (.noHub h (Bool.eq_false_iff.2 hid) (Bool.eq_false_iff.2 hcrn))
    obtain ⟨crn, heq, hne⟩ := eq_some_of_isGiven hcrn
    rw [heq]
    exact .byCrn crn hne

/-- **The patch of a configuration that violates nothing is valid.** -/
theorem Desired.validPatch (hvalid : d.violation? = none) : ValidPatch d.patch := by
  unfold patch patchBody
  cases htype : d.resolverType with
  | system => exact .system d.enableHub
  | manual =>
    have hne : d.manualServers ≠ [] := fun hnil => by
      obtain ⟨violation, hsome⟩ := exists_violation_iff.2 (.noServers htype hnil)
      rw [hvalid] at hsome
      cases hsome
    refine .manual d.enableHub _ (fun h => hne (List.map_eq_nil_iff.1 h)) fun entry hmem => ?_
    obtain ⟨server, -, rfl⟩ := List.mem_map.1 hmem
    exact server.serverEntry
  | delegated =>
    obtain ⟨hhub, henabled⟩ := hub_of_valid hvalid htype
    rw [henabled]
    exact .delegated _ hhub

theorem Desired.patch_of_delegated (hvalid : d.violation? = none)
    (h : d.resolverType = .delegated) : d.patch = delegatedPatch d.resolverVpc := by
  unfold patch patchBody
  rw [(hub_of_valid hvalid h).2, h]
  rfl

theorem validPatch_systemPatch : ValidPatch systemPatch := .system false

/-! ## What goes with a patch -/

/-- A binding is created among some calls. -/
def Binds (calls : List Exchange) (vpcId hub : Json) : Prop :=
  ∃ name reply, (Call.createBinding vpcId hub name, reply) ∈ calls

theorem not_binds_of_times {vpcId hub : Json} (h : times .binds calls = 0) :
    ¬ Binds calls vpcId hub := by
  rintro ⟨name, reply, hmem⟩
  exact List.countP_eq_zero.1 h _ hmem rfl

/-- **A patch that agrees with the calls around it**: it is valid, and a
binding that is created along with it is created before, on the same VPC
and to the hub that the patch names. -/
structure Concordant (before : List Exchange) (vpcId body : Json) (after : List Exchange) :
    Prop where
  valid : ValidPatch body
  bound : ∀ u hub, Binds before u hub → u = vpcId ∧ body = delegatedPatch hub
  unbound : ∀ u hub, ¬ Binds after u hub

/-- Calls in which every patch agrees with the others. -/
def AllConcordant (calls : List Exchange) : Prop :=
  ∀ before vpcId body reply after, calls = before ++ (.patchVpc vpcId body, reply) :: after →
    Concordant before vpcId body after

theorem allConcordant_of_times (h : times .patches calls = 0) : AllConcordant calls := by
  rintro before vpcId body reply after rfl
  exact absurd rfl (List.countP_eq_zero.1 h _ (List.mem_append_right _ List.mem_cons_self))

/-- If there is only one patch, there is only one to look at. -/
theorem AllConcordant.of_only {vpcId body : Json} {reply : Reply}
    (hbefore : times .patches before = 0) (hafter : times .patches after = 0)
    (h : Concordant before vpcId body after) :
    AllConcordant (before ++ (.patchVpc vpcId body, reply) :: after) := by
  intro before' vpcId' body' reply' after' heq
  have absent : ∀ {l}, times .patches l = 0 →
      ((.patchVpc vpcId' body', reply') : Exchange) ∉ l :=
    fun hl hmem => List.countP_eq_zero.1 hl _ hmem rfl
  obtain ⟨rfl, hpatch, rfl⟩ :=
    (List.append_cons_inj_of_notMem (absent hbefore) (absent hafter)).1 heq
  cases hpatch
  exact h

/-- What is created for a configuration is a binding on its VPC to its
hub. -/
structure Readies (d : Desired) (before : List Exchange) : Prop where
  unpatched : times .patches before = 0
  bound : ∀ u hub, Binds before u hub →
    d.resolverType = .delegated ∧ u = .str d.vpcId ∧ hub = d.resolverVpc

theorem Bound.readies {result : Except Failure NewBinding} (h : Bound d result calls)
    (hd : d.resolverType = .delegated) : Readies d calls := by
  refine ⟨h.times_eq, ?_⟩
  rintro u hub ⟨name, reply, hmem⟩
  obtain ⟨answer, rfl⟩ := h.calls_eq
  cases List.mem_singleton.1 hmem
  exact ⟨hd, rfl, rfl⟩

theorem Readies.of_times (hpatches : times .patches calls = 0) (hbinds : times .binds calls = 0) :
    Readies d calls :=
  ⟨hpatches, fun _ _ h => absurd h (not_binds_of_times hbinds)⟩

theorem Opened.readies {result : Except Failure NewBinding} (h : Opened d result calls) :
    Readies d calls := by
  cases h with
  | unneeded => exact .of_times rfl rfl
  | needed hd hb => exact hb.readies hd

theorem Prepared.readies {result : Except Failure Transition} (h : Prepared p d result calls) :
    Readies d calls := by
  cases h with
  | left _ hcalls | unleft _ hcalls => exact .of_times hcalls.times_eq hcalls.times_eq
  | kept | renamed | unrenamed => exact .of_times rfl rfl
  | entered hd _ hb | unentered hd _ hb => exact hb.readies hd

/-- A patch comes first, and what follows it neither patches nor creates a
binding. -/
theorem Applied.patch_first {result : Except Failure Unit} (h : Applied d k result calls) :
    ∃ reply rest, calls = (d.patchCall, reply) :: rest ∧ times .patches rest = 0 ∧
      times .binds rest = 0 := by
  cases h with
  | answered | cut => exact ⟨_, [], rfl, rfl, rfl⟩
  | refused h | stuck h => exact ⟨_, _, rfl, h.times_eq, h.times_eq⟩

/-- **What was readied for a configuration, its patch and what follows it
agree.** -/
theorem Readies.allConcordant {result : Except Failure Unit} (h : Readies d before)
    (hvalid : d.violation? = none) (ha : Applied d k result calls)
    (hpatches : times .patches after = 0) (hbinds : times .binds after = 0) :
    AllConcordant (before ++ calls ++ after) := by
  obtain ⟨reply, rest, rfl, hrest, hunbound⟩ := ha.patch_first
  rw [List.append_assoc, List.cons_append]
  refine .of_only h.unpatched (by rw [times_append, hrest, hpatches]) ⟨d.validPatch hvalid, ?_, ?_⟩
  · intro u hub hb
    obtain ⟨hd, hu, rfl⟩ := h.bound u hub hb
    exact ⟨hu, Desired.patch_of_delegated hvalid hd⟩
  · exact fun u hub => not_binds_of_times (by rw [times_append, hunbound, hbinds])

theorem Created.allConcordant {result : Except Failure State} (h : Created d w result calls x) :
    AllConcordant calls := by
  cases h with
  | violating => exact allConcordant_of_times rfl
  | unopened _ hf => exact allConcordant_of_times hf.readies.unpatched
  | unapplied hvalid hb hf =>
    have hc := hb.readies.allConcordant hvalid hf times_nil times_nil
    rwa [List.append_nil] at hc
  | unrealized hvalid hb ha =>
    have hc := hb.readies.allConcordant hvalid ha times_nil times_nil
    rwa [List.append_nil] at hc
  | applied hvalid hb ha _ _ h =>
    exact hb.readies.allConcordant hvalid ha (times_of_isReading h.isReading)
      (times_of_isReading h.isReading)

theorem Updated.allConcordant {c : Changes} {result : Except Failure State}
    (h : Updated v c w result calls x) : AllConcordant calls := by
  cases h with
  | unfit | violating | unloaded => exact allConcordant_of_times rfl
  | unprepared _ hf => exact allConcordant_of_times hf.readies.unpatched
  | unapplied hs ht hf =>
    have hc := ht.readies.allConcordant hs.valid hf times_nil times_nil
    rwa [List.append_nil] at hc
  | unreplaced hs ht ha hf =>
    exact ht.readies.allConcordant hs.valid ha hf.times_eq hf.times_eq
  | @applied _ _ _ _ _ _ after more _ _ hs ht ha hr _ h =>
    rw [List.append_assoc]
    have inert : ∀ {a}, a ≠ .removes → times a (after ++ more) = 0 := by
      intro a hne
      rw [times_append, times_of_isReading h.isReading, hr.times_eq, if_neg fun ha => hne ha.1]
    exact ht.readies.allConcordant hs.valid ha (inert fun h => by cases h)
      (inert fun h => by cases h)

/-! ## Failures that report a constraint -/

theorem Opened.isOfExchange_eq {f : Failure} (h : Opened d (.error f) calls) :
    f.isOfExchange = true := by
  cases h with
  | needed _ hb => exact hb.isOfExchange_eq

theorem GivenUp.isOfExchange_eq {f : Failure} (h : GivenUp j k (.error f) calls) :
    f.isOfExchange = true := by
  cases h with
  | cut => rfl

theorem Applied.isOfExchange_eq {f : Failure} (h : Applied d k (.error f) calls) :
    f.isOfExchange = true := by
  cases h with
  | refused | cut => rfl
  | stuck h => exact h.isOfExchange_eq

theorem Prepared.isOfExchange_eq {f : Failure} (h : Prepared p d (.error f) calls) :
    f.isOfExchange = true := by
  cases h with
  | unleft _ hcalls => exact hcalls.isOfExchange_eq
  | unentered _ _ hf => exact hf.isOfExchange_eq
  | unrenamed _ _ _ hf => exact Remote.Reply.isOfExchange_of_result hf

theorem Unloaded.isViolation_eq {f : Failure} (h : Unloaded v w f) : f.isViolation = false := by
  cases h with
  | unmanaged => rfl
  | unread h => exact h.isViolation_eq

theorem Refreshed.isViolation_eq {f : Failure} (h : Refreshed p w (.error f) calls x) :
    f.isViolation = false := by
  cases h with
  | unrecorded _ _ hf => exact hf.isViolation_eq
  | unnamed _ hf => exact Failure.isViolation_of_isOfExchange hf.isOfExchange_eq
  | garbled | refused | cut | missing | undropped => rfl

theorem Settled.isViolation_eq {f : Failure} (h : Settled v s w (.error f) calls x) :
    f.isViolation = false := by
  cases h with
  | unrecorded hf => exact hf.isViolation_eq
  | recorded _ h => exact h.isViolation_eq

/-- Only a configuration that violates a constraint is reported to. -/
theorem Created.violates_of_failed {f : Failure} (h : Created d w (.error f) calls x)
    (hf : f.isViolation = true) : d.Violates := by
  have exclude : f.isViolation = false → d.Violates := fun hnot => by
    rw [hf] at hnot
    cases hnot
  cases h with
  | violating h => exact Desired.exists_violation_iff.1 ⟨_, h⟩
  | unopened _ h => exact exclude (Failure.isViolation_of_isOfExchange h.isOfExchange_eq)
  | unapplied _ _ h => exact exclude (Failure.isViolation_of_isOfExchange h.isOfExchange_eq)
  | unrealized => cases hf
  | applied _ _ _ _ _ h => exact exclude h.isViolation_eq

theorem Updated.violates_of_failed {c : Changes} {f : Failure}
    (h : Updated v c w (.error f) calls x) (hf : f.isViolation = true) :
    ∃ d, Desired.ofChanges (.str v) c = .ok d ∧ d.Violates := by
  have exclude : f.isViolation = false → ∃ d, Desired.ofChanges (.str v) c = .ok d ∧ d.Violates :=
    fun hnot => by
      rw [hf] at hnot
      cases hnot
  cases h with
  | unfit => cases hf
  | violating hd h => exact ⟨_, hd, Desired.exists_violation_iff.1 ⟨_, h⟩⟩
  | unloaded _ _ h => exact exclude h.isViolation_eq
  | unprepared _ h => exact exclude (Failure.isViolation_of_isOfExchange h.isOfExchange_eq)
  | unapplied _ _ h => exact exclude (Failure.isViolation_of_isOfExchange h.isOfExchange_eq)
  | unreplaced _ _ _ h => exact exclude (Failure.isViolation_of_isOfExchange h.isOfExchange_eq)
  | applied _ _ _ _ _ h => exact exclude h.isViolation_eq

/-- **A configuration that violates a constraint is not applied**, and
nothing else is done. -/
theorem create_of_violation {violation : Violation} (h : d.violation? = some violation) :
    create d w = ⟨.error (.violation violation), [], w⟩ := by
  unfold create Desired.demandValid
  rw [h]
  rfl

/-- **Nor is a change to one.** -/
theorem update_of_violation {c : Changes} {violation : Violation}
    (hd : Desired.ofChanges j c = .ok d) (h : d.violation? = some violation) :
    update j c w = ⟨.error (.violation violation), [], w⟩ := by
  unfold update Desired.demandValid
  rw [hd, Action.bind_of_ok (rfl : Action.ofChecked (.ok d) w = ⟨.ok d, [], w⟩), h]
  rfl

/-! ## Deleting -/

theorem Settles.isOfExchange_eq {purpose : String} {call : Call} {f : Failure}
    (h : Settles purpose call (.error f) calls) : f.isOfExchange = true := by
  cases h with
  | refused | cut => rfl

/-- Removing a recorded binding neither patches nor creates. -/
theorem removeBinding_inert (id bindingId : Json) :
    (removeBinding id bindingId).Still fun result calls =>
      times .patches calls = 0 ∧ times .binds calls = 0 ∧
        ∀ f, result = .error f → f.isOfExchange = true := by
  refine .of_ends fun w => ?_
  unfold removeBinding
  by_cases h : bindingId.isGiven = true
  · rw [if_pos h]
    exact (settles_still _ _).ends
      (fun _ calls u hs hu => ⟨⟨hs.times_eq, hs.times_eq, fun f hf => by cases hf⟩, hu⟩)
      fun f calls u hs hu =>
        ⟨⟨hs.times_eq, hs.times_eq, fun g hg => by cases hg; exact hs.isOfExchange_eq⟩, hu⟩
  · rw [if_neg h]
    exact Action.ends_pure.2 ⟨⟨rfl, rfl, fun f hf => by cases hf⟩, .refl w⟩

/-- **A deletion patches the VPC at the end, if at all**, and reports no
constraint, whatever the form of the identifier. -/
theorem delete_concordant (id : Json) (w : World) :
    AllConcordant (delete id w).calls ∧
      ∀ f, (delete id w).result = .error f → f.isViolation = false := by
  refine (Action.ends_nil_iff fun (result : Except Failure Bool) calls _ =>
    AllConcordant calls ∧ ∀ f, result = .error f → f.isViolation = false).1 ?_
  have failed : ∀ {f : Failure} {result : Except Failure Bool}, f.isViolation = false →
      result = .error f → ∀ g, result = .error g → g.isViolation = false := by
    rintro f result hf rfl g hg
    cases hg
    exact hf
  have unpatched : AllConcordant [] := allConcordant_of_times rfl
  unfold delete
  refine Action.ends_bind.2 (Memory.ends_retrieve
    (fun u _ _ => Action.ends_pure.2 ⟨unpatched, fun f hf => by cases hf⟩)
    (fun record p u _ _ _ => ?_) fun f u hf _ => ⟨unpatched, failed hf.isViolation_eq rfl⟩)
  refine Action.ends_bind.2 ((removeBinding_inert id p.bindingId).ends (fun _ calls x hr _ => ?_)
    fun f calls x hr _ => ⟨allConcordant_of_times hr.1,
      failed (Failure.isViolation_of_isOfExchange (hr.2.2 f rfl)) rfl⟩)
  -- The reset is the only patch, and comes last.
  have reset : ∀ {result more},
      Settles resetPurpose (.patchVpc id systemPatch) result more →
        AllConcordant (calls ++ more) := by
    intro result more hs
    obtain ⟨reply, rfl⟩ := hs.mem
    exact .of_only hr.1 rfl ⟨validPatch_systemPatch,
      fun _ _ hb => absurd hb (not_binds_of_times hr.2.1), fun _ _ => not_binds_of_times rfl⟩
  refine Action.ends_bind.2 ((settles_still resetPurpose (.patchVpc id systemPatch)).ends
    (fun _ more y hs _ => ?_) fun f more y hs _ => ⟨reset hs,
      failed (Failure.isViolation_of_isOfExchange hs.isOfExchange_eq) rfl⟩)
  exact Action.ends_bind.2 (Memory.ends_forget
    (fun _ _ => Action.ends_pure.2 ⟨reset hs, fun f hf => by cases hf⟩)
    fun e z _ _ => ⟨reset hs, failed rfl rfl⟩)

/-! ## Operations -/

/-- The operations that patch a VPC. -/
inductive Patches : Operation → Prop
  | create (d : Desired) : Patches (.createDns d)
  | update (vpcId : Json) (c : Changes) : Patches (.updateDns vpcId c)
  | delete (vpcId : Json) : Patches (.deleteDns vpcId)

/-- The configuration that an operation is asked for. A change is one of a
VPC only if it comes with the identifier of a VPC. -/
inductive Demands : Operation → Desired → Prop
  | create (d : Desired) : Demands (.createDns d) d
  | update {vpcId : Json} {c : Changes} {d : Desired} (h : Desired.ofChanges vpcId c = .ok d) :
      Demands (.updateDns vpcId c) d

/-- Whether an operation reported a constraint that is violated. -/
def Reported (o : Outcome Json) : Prop := ∃ violation, o.result = .error (.violation violation)

/-- A change without the identifier of a VPC comes to nothing. -/
theorem update_of_unfit {c : Changes} {issues : List Issue}
    (h : Desired.ofChanges j c = .failed issues) :
    update j c w = ⟨.error (.unreadable (.invalid issues)), [], w⟩ := by
  unfold update
  rw [h]
  rfl

/-- The identifier that a change comes with is a text. -/
theorem Desired.eq_str_of_ofChanges {c : Changes} (h : Desired.ofChanges j c = .ok d) :
    j = .str d.vpcId := by
  obtain ⟨id, hid, rfl⟩ := Checked.map_eq_ok_iff.1 h
  exact Schema.eq_str_of_boundedText (Checked.within_eq_ok_iff.1 hid)

theorem allConcordant_of_run (hop : Patches op) : AllConcordant (op.run w).calls := by
  cases hop with
  | create d =>
    rw [Operation.run, Operation.one_apply]
    exact (created d w).allConcordant
  | update vpcId c =>
    rw [Operation.run, Operation.one_apply]
    cases hd : Desired.ofChanges vpcId c with
    | ok d =>
      cases Desired.eq_str_of_ofChanges hd
      exact (updated d.vpcId c w).allConcordant
    | failed issues =>
      rw [update_of_unfit hd]
      exact allConcordant_of_times rfl
  | delete vpcId =>
    rw [Operation.run, Operation.one_apply]
    exact (delete_concordant vpcId w).1

theorem demands_of_reported (hop : Patches op) (h : Reported (op.run w)) :
    ∃ d, Demands op d ∧ d.Violates := by
  obtain ⟨violation, h⟩ := h
  cases hop with
  | create d =>
    rw [Operation.run, Operation.one_apply, map_eq_error_iff] at h
    have hc := created d w
    rw [h] at hc
    exact ⟨d, .create d, hc.violates_of_failed rfl⟩
  | update vpcId c =>
    rw [Operation.run, Operation.one_apply, map_eq_error_iff] at h
    cases hd : Desired.ofChanges vpcId c with
    | ok d =>
      cases Desired.eq_str_of_ofChanges hd
      have hu := updated d.vpcId c w
      rw [h] at hu
      obtain ⟨d', hd', hv⟩ := hu.violates_of_failed rfl
      exact ⟨d', .update hd', hv⟩
    | failed issues =>
      rw [update_of_unfit hd] at h
      cases h
  | delete vpcId =>
    rw [Operation.run, Operation.one_apply, map_eq_error_iff] at h
    exact absurd ((delete_concordant vpcId w).2 _ h) Bool.noConfusion

theorem run_of_violates (h : Demands op d) (hv : d.Violates) :
    ∃ violation, op.run w = ⟨.error (.violation violation), [], w⟩ := by
  obtain ⟨violation, hsome⟩ := Desired.exists_violation_iff.2 hv
  refine ⟨violation, ?_⟩
  cases h with
  | create =>
    rw [Operation.run, Operation.one_apply, create_of_violation hsome]
    rfl
  | update hd =>
    rw [Operation.run, Operation.one_apply, update_of_violation hd hsome]
    rfl

/-- **Every patch that is sent is valid, and checking comes first.**
However an operation ends, each patch among its calls is valid and agrees
with the bindings that are created along with it. It reports a violated
constraint exactly if the configuration that it was asked for violates
one, and then it does nothing: no call, no access to the state table and
no change of the world. -/
theorem patches_valid_and_checked_first (hop : Patches op) :
    AllConcordant (op.run w).calls ∧
    (Reported (op.run w) ↔ ∃ d, Demands op d ∧ d.Violates) ∧
    (Reported (op.run w) → (op.run w).events = [] ∧ (op.run w).world = w) := by
  have quiet : ∀ {d}, Demands op d → d.Violates →
      Reported (op.run w) ∧ (op.run w).events = [] ∧ (op.run w).world = w := by
    intro d hd hv
    obtain ⟨violation, heq⟩ := run_of_violates (w := w) hd hv
    rw [heq]
    exact ⟨⟨violation, rfl⟩, rfl, rfl⟩
  refine ⟨allConcordant_of_run hop, ⟨demands_of_reported hop, ?_⟩, fun h => ?_⟩
  · rintro ⟨d, hd, hv⟩
    exact (quiet hd hv).1
  · obtain ⟨d, hd, hv⟩ := demands_of_reported hop h
    exact (quiet hd hv).2

/-- The move of a VPC to another hub. -/
abbrev move : Operation := .updateDns (.str "vpc-1") toOtherHub

/-- The VPC that moves to another hub is patched once, after the binding to
this hub was created. -/
theorem patches_valid_and_checked_first_moving :
    Patches move ∧
    Concordant
      [(otherHub.bindingCall, .ok (.obj [("id", .str "b-2"), ("name", .str "to-hub-2")]))]
      (.str "vpc-1") otherHub.patch
      [(.deleteBinding (.str "vpc-1") (.str "b-1"), .ok .null),
        (.getVpc (.str "vpc-1"), .ok movedVpc),
        (.list (bindingsOf "vpc-1") none (.int 50), .ok (bindingsPage []))] ∧
    (Reported (move.run moving) ↔ ∃ d, Demands move d ∧ d.Violates) ∧
    (Reported (move.run moving) →
      (move.run moving).events = [] ∧ (move.run moving).world = moving) := by
  have hop : Patches move := .update (.str "vpc-1") toOtherHub
  obtain ⟨hall, hreported, hquiet⟩ := patches_valid_and_checked_first (w := moving) hop
  exact ⟨hop, hall _ _ _ _ _ rfl, hreported, hquiet⟩

end Dns

end NetSteward
