import NetSteward.Proofs.Renewal
import NetSteward.Proofs.Schema.Reread
/-!
# What survives the state table

A resource is written to the table as a JSON value and read back through
its checks. The main result is that it survives this: what passed its
checks, from whatever value, is written in a form that passes them again,
as the same, and so it is loaded as it was saved. The table takes no values
that are nested deep; the resources that are kept in it never are.
-/

namespace NetSteward

open Remote (Call Exchange)

/-! ## How deep records are nested -/

namespace Json

@[simp] theorem depth_null : depth .null = 0 := rfl

@[simp] theorem depth_bool (b : Bool) : depth (.bool b) = 0 := rfl

@[simp] theorem depth_int (n : Int) : depth (.int n) = 0 := rfl

@[simp] theorem depth_str (s : String) : depth (.str s) = 0 := rfl

@[simp] theorem depth_ofOption (o : Option String) : depth (.ofOption o) = 0 := by
  cases o <;> rfl

@[simp] theorem depth_arr (items : List Json) : depth (.arr items) = itemsDepth items + 1 := rfl

@[simp] theorem depth_obj (members : Keyed Json) :
    depth (.obj members) = membersDepth members + 1 := rfl

@[simp] theorem membersDepth_nil : membersDepth [] = 0 := rfl

@[simp] theorem membersDepth_cons (key : String) (j : Json) (members : Keyed Json) :
    membersDepth ((key, j) :: members) = max j.depth (membersDepth members) := rfl

/-- What is read as a number holds nothing. -/
theorem depth_of_integer {j : Json} {n : Int} (h : Schema.integer j = .ok n) : j.depth = 0 := by
  cases j with
  | null | bool | int | float | str => rfl
  | arr | obj => cases h

/-- A list of items that are not nested deep is not either. -/
theorem itemsDepth_map_le {α : Type} {write : α → Json} {as : List α} {n : Nat}
    (h : ∀ a ∈ as, (write a).depth ≤ n) : itemsDepth (as.map write) ≤ n := by
  induction as with
  | nil => exact Nat.zero_le n
  | cons a rest ih =>
    obtain ⟨ha, hrest⟩ := List.forall_mem_cons.1 h
    exact Nat.max_le.2 ⟨ha, ih hrest⟩

end Json

open Json (itemsDepth_map_le)

variable {origin : Schema.Origin} {j : Json}

theorem Reference.depth_toJson (r : Reference) : r.toJson.depth = 1 := by
  simp [toJson]

namespace Binding

theorem depth_toJson_le (b : Binding) : b.toJson.depth ≤ 3 := by
  have hgateways := itemsDepth_map_le (n := 1) fun (r : Reference) (_ : r ∈ b.gateways) =>
    Nat.le_of_eq r.depth_toJson
  cases hhub : b.hub with
  | none =>
    simp only [toJson, hhub, Json.depth_obj, Json.membersDepth_cons]
    simp
    omega
  | some r =>
    simp [toJson, hhub, r.depth_toJson]
    omega

end Binding

namespace PlacementGroup

theorem depth_toJson (g : PlacementGroup) : g.toJson.depth = 1 := by
  simp [toJson, Strategy.toJson]

end PlacementGroup

namespace Dns

theorem ManualServer.depth_toJson (s : ManualServer) : s.toJson.depth = 1 := by
  simp [toJson, members]

theorem depth_serversJson_le (servers : List ManualServer) : (serversJson servers).depth ≤ 2 := by
  have hservers := itemsDepth_map_le (n := 1) fun (s : ManualServer) (_ : s ∈ servers) =>
    Nat.le_of_eq s.depth_toJson
  simp [serversJson]
  omega

/-- A typed state holds texts and numbers next to its servers. -/
theorem State.Typed.depth_toJson_le {s : State} (h : s.Typed) : s.toJson.depth ≤ 3 := by
  have hservers := depth_serversJson_le s.manualServers
  obtain ⟨⟨t, htype⟩, ⟨hub, hhub⟩, ⟨crn, hcrn⟩, ⟨name, hname⟩, ⟨n, hn⟩, ⟨binding, hbinding⟩⟩ := h
  have hcount := Json.depth_of_integer hn
  simp [toJson, htype, hhub, hcrn, hname, hbinding, hcount, ResolverType.toJson]
  omega

end Dns

/-! ## Saving and loading -/

namespace Memory

variable {α : Type} {kind : ResourceKind} {check : Json → Checked α} {attributes : Json} {a : α}
variable {records : Keyed (Keyed Json)} {key : String}

/-- Saves a resource and loads it again. -/
def resave (kind : ResourceKind) (id attributes : Json) (check : Json → Checked α) :
    Action (Option α) := do
  remember kind id attributes
  retrieve kind id check

/-- **A resource survives the table**: in every world and under every
identifier it is loaded as it was saved, if anything is; and it is saved
and loaded if the table has no fault and the clock a date. -/
def Survives (kind : ResourceKind) (check : Json → Checked α) (attributes : Json) (a : α) : Prop :=
  ∀ (w : World) (id : Json),
    (∀ found, (resave kind id attributes check w).result = .ok found → found = some a) ∧
    (w.store.faults = [] → (∃ now, w.clock.read = .ok now) →
      (resave kind id attributes check w).result = .ok (some a))

/-- What was recorded in a form that passes the checks is held. -/
theorem holds_insert {id : Json} {written : Time.Instant} (h : check attributes = .ok a) :
    Holds check (records.insert key (record kind id attributes written)) key a := by
  refine ⟨_, by rw [Keyed.get?_insert, if_pos rfl], ?_⟩
  have hread : ofRecord check (record kind id attributes written) = checked (check attributes) :=
    rfl
  rw [hread, h, checked_ok]

/-- What saving and loading comes to: the resource, or a failure that
comes of the table or of the clock. -/
inductive Resaved (w : World) (a : α) : Except Failure (Option α) → Prop
  | kept : Resaved w a (.ok (some a))
  | faulty {f : Failure} (h : w.store.faults ≠ []) : Resaved w a (.error f)
  | untimed {f : Failure} (h : ¬ ∃ now, w.clock.read = .ok now) : Resaved w a (.error f)

theorem resaved {w : World} {id : Json} (h : check attributes = .ok a)
    (hdepth : attributes.depth ≤ 1 + Json.nestingLimit) :
    Resaved w a (resave kind id attributes check w).result := by
  refine (Action.ends_nil_iff fun result _ _ => Resaved w a result).1 ?_
  unfold resave
  refine Action.ends_bind.2 (ends_remember (fun written v hv => ?_) fun f v hf _ => ?_)
  · obtain ⟨record, hrecord, hread⟩ : Holds check v.store.records (kind.key id.plain) a :=
      hv.records_eq ▸ holds_insert h
    refine ends_retrieve (fun u habsent _ => ?_) (fun found b u hfound hb _ => ?_)
      fun f u hf _ => ?_
    · cases habsent.symm.trans hrecord
    · cases hfound.symm.trans hrecord
      cases hb.symm.trans hread
      exact .kept
    · cases hf with
      | unfit hfound hc =>
        cases hfound.symm.trans hrecord
        cases hc.symm.trans hread
      | faulty hf => exact .faulty (hv.faults_eq ▸ hf)
  · cases hf with
    | tooDeep hdeep => exact absurd hdepth (Nat.not_le.2 hdeep)
    | untimed hclock =>
      refine .untimed ?_
      rintro ⟨now, hnow⟩
      cases hnow.symm.trans hclock
    | faulty hf => exact .faulty hf

/-- **What is written in a form that passes the checks survives**, unless
it is nested too deep. -/
theorem survives_of_check (h : check attributes = .ok a)
    (hdepth : attributes.depth ≤ 1 + Json.nestingLimit) : Survives kind check attributes a := by
  intro w id
  have hresaved : Resaved w a (resave kind id attributes check w).result := resaved h hdepth
  generalize (resave kind id attributes check w).result = result at hresaved ⊢
  cases hresaved with
  | kept => exact ⟨fun found hfound => (Except.ok.inj hfound).symm, fun _ _ => rfl⟩
  | faulty hf => exact ⟨fun found hfound => (by cases hfound), fun hnil => absurd hnil hf⟩
  | untimed hclock =>
    exact ⟨fun found hfound => (by cases hfound), fun _ hnow => absurd hnow hclock⟩

end Memory

/-! ## Records of operations -/

open Memory (Holds Survives)

/-- An action that records what it returns, under the identifier that it
has. -/
def RecordsResult {α : Type} (check : Json → Checked α) (kind : ResourceKind) (id : α → String)
    (x : Action α) : Prop :=
  ∀ (w : World) (a : α), (x w).result = .ok a →
    Holds check (x w).world.store.records (kind.key (id a)) a

section Renewals

variable {α : Type} {r : Recording α} {w x : World} {calls : List Exchange}
variable {check : Json → Checked α} {a : α}

theorem Recording.Renewed.holds {call : Call} {read : Json → Read α}
    (h : r.Renewed call read w (.ok a) calls x) (hcheck : check (r.toJson a) = .ok a) :
    Holds check x.store.records (r.key a) a := by
  cases h with
  | written _ hx => exact hx.records_eq ▸ Memory.holds_insert hcheck

theorem Recording.Reread.holds {q : Recording.Query α} (h : r.Reread q w (.ok a) calls x)
    (hcheck : check (r.toJson a) = .ok a) : Holds check x.store.records (r.key a) a := by
  cases h with
  | renewed _ _ h => exact h.holds hcheck

end Renewals

namespace Binding

variable (vpcId bindingId : Json)

theorem create_records (q : Request) :
    RecordsResult (check .data) .binding (fun b => bindingRecordId vpcId.plain b.id)
      (create vpcId q) := by
  intro w b hb
  have h := created vpcId q w
  rw [hb] at h
  exact h.holds b.check_toJson

theorem read_records :
    RecordsResult (check .data) .binding (fun _ => bindingRecordId vpcId.plain bindingId.plain)
      (read vpcId bindingId) := by
  intro w b hb
  have h := readBack vpcId bindingId w
  rw [hb] at h
  exact h.holds b.check_toJson

theorem rename_records (q : Renaming) :
    RecordsResult (check .data) .binding (fun _ => bindingRecordId vpcId.plain bindingId.plain)
      (rename vpcId bindingId q) := by
  intro w b hb
  have h := renamed vpcId bindingId q w
  rw [hb] at h
  exact h.holds b.check_toJson

end Binding

namespace PlacementGroup

theorem create_records (q : Request) :
    RecordsResult (check .data) .placementGroup PlacementGroup.id (create q) := by
  intro w g hg
  have h := created q w
  rw [hg] at h
  exact h.holds g.check_toJson

theorem read_records (groupId : Json) :
    RecordsResult (check .data) .placementGroup PlacementGroup.id (read groupId) := by
  intro w g hg
  have h := readBack groupId w
  rw [hg] at h
  exact h.holds g.check_toJson

theorem rename_records (groupId : Json) (q : Renaming) :
    RecordsResult (check .data) .placementGroup PlacementGroup.id (rename groupId q) := by
  intro w g hg
  have h := renamed groupId q w
  rw [hg] at h
  exact h.holds g.check_toJson

end PlacementGroup

/-! ## Configurations -/

namespace Dns

/-- A typed state whose number of bindings is a number holds nothing that
cannot be sent. -/
theorem State.Typed.settled_eq {s : State} {n : Int} (h : s.Typed) (hn : s.bindingCount = .int n) :
    s.settled = s := by
  obtain ⟨⟨t, htype⟩, ⟨hub, hhub⟩, ⟨crn, hcrn⟩, ⟨name, hname⟩, -, ⟨binding, hbinding⟩⟩ := h
  obtain ⟨id, vpcId, enabled, type, hubId, hubCrn, bindingName, servers, count, bindingId⟩ := s
  subst htype hhub hcrn hname hbinding hn
  simp [State.settled, ResolverType.toJson]

/-- Such a state was read. -/
theorem State.attributes_of_check {s : State} (h : check origin j = .ok s) :
    s.attributes = s.toJson := by
  obtain ⟨htyped, n, hn⟩ := typed_of_check h
  rw [attributes, htyped.settled_eq hn]

theorem State.survives {s : State} (h : check origin j = .ok s) :
    Survives .dnsConfig (check .data) s.attributes s := by
  obtain ⟨htyped, -⟩ := typed_of_check h
  rw [attributes_of_check h]
  exact Memory.survives_of_check (check_toJson_of_check h)
    (Nat.le_trans htyped.depth_toJson_le (by decide))

end Dns

/-! ## Everything survives -/

/-- **What was read survives.** A published record that was read from any
value is read again, as the same, from how it is written. So every
configuration that was read, every binding and every placement group is
loaded from the table as it was saved, and what creating, reading or
renaming a binding or a group returns is what its record holds. -/
theorem read_records_survive :
    (∀ (p : Published) (origin other : Schema.Origin) (j : Json) (a : p.Carrier),
      p.check origin j = .ok a → p.check other (p.toJson a) = .ok a) ∧
    (∀ (origin : Schema.Origin) (j : Json) (s : Dns.State), Dns.State.check origin j = .ok s →
      Survives .dnsConfig (Dns.State.check .data) s.attributes s) ∧
    (∀ b : Binding, Survives .binding (Binding.check .data) b.toJson b) ∧
    (∀ g : PlacementGroup,
      Survives .placementGroup (PlacementGroup.check .data) g.toJson g) ∧
    (∀ (vpcId bindingId : Json) (q : Binding.Request) (r : Binding.Renaming),
      RecordsResult (Binding.check .data) .binding
        (fun b => bindingRecordId vpcId.plain b.id) (Binding.create vpcId q) ∧
      RecordsResult (Binding.check .data) .binding
        (fun _ => bindingRecordId vpcId.plain bindingId.plain) (Binding.read vpcId bindingId) ∧
      RecordsResult (Binding.check .data) .binding
        (fun _ => bindingRecordId vpcId.plain bindingId.plain)
        (Binding.rename vpcId bindingId r)) ∧
    ∀ (groupId : Json) (q : PlacementGroup.Request) (r : PlacementGroup.Renaming),
      RecordsResult (PlacementGroup.check .data) .placementGroup PlacementGroup.id
        (PlacementGroup.create q) ∧
      RecordsResult (PlacementGroup.check .data) .placementGroup PlacementGroup.id
        (PlacementGroup.read groupId) ∧
      RecordsResult (PlacementGroup.check .data) .placementGroup PlacementGroup.id
        (PlacementGroup.rename groupId r) := by
  refine ⟨fun p origin other j a h => Published.check_toJson h,
    fun origin j s h => Dns.State.survives h, fun b => ?_, fun g => ?_,
    fun vpcId bindingId q r => ?_, fun groupId q r => ?_⟩
  · exact Memory.survives_of_check b.check_toJson (Nat.le_trans b.depth_toJson_le (by decide))
  · exact Memory.survives_of_check g.check_toJson
      (Nat.le_trans (Nat.le_of_eq g.depth_toJson) (by decide))
  · exact ⟨Binding.create_records vpcId q, Binding.read_records vpcId bindingId,
      Binding.rename_records vpcId bindingId r⟩
  · exact ⟨PlacementGroup.create_records q, PlacementGroup.read_records groupId,
      PlacementGroup.rename_records groupId r⟩

/-- A configuration as it may be handed in: with words and texts for truth
values and numbers, with defaults left out and with a member that is not
known. -/
def laxState : Json :=
  .obj [("id", .str "vpc-1"), ("vpc_id", .str "vpc-1"), ("enable_hub", .str "yes"),
    ("resolution_binding_count", .str " 3 "), ("note", .null)]

/-- What it is read as. -/
def readState : Dns.State :=
  { Dns.State.ofText "vpc-1" with enableHub := true, bindingCount := .int 3 }

theorem read_records_survive_lax :
    Published.check .request .dnsState laxState = .ok readState ∧
      Published.check .data .dnsState (Published.toJson .dnsState readState) = .ok readState ∧
      Survives .dnsConfig (Dns.State.check .data) readState.attributes readState := by
  have hread : Published.check .request .dnsState laxState = .ok readState := rfl
  obtain ⟨hrecords, hstates, -⟩ := read_records_survive
  exact ⟨hread, hrecords .dnsState .request .data laxState readState hread,
    hstates .request laxState readState hread⟩

end NetSteward
