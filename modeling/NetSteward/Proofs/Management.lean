import NetSteward.Proofs.Shape
/-!
# Which operations bring resources under management

A resource is managed if there is a record under its key. Creating and
importing are there to bring resources under management, and the main
result says exactly which of the other operations do it as well, and under
which key. Reading a binding back and everything that deletes, looks up or
lists never does. An operation that renames takes the resource in whether
it was managed or not, and where the key comes from the answer or from a
record, the key may be another one than that asked for.
-/

namespace NetSteward

variable {α : Type} {key : String} {w x : World} {op : Operation}

/-! ## Operations and what they enlist -/

/-- Whether an operation is there to bring a resource under
management. -/
def Operation.enlists : Operation → Bool
  | createDns _ | importDns _ | createBinding _ _ | createGroup _ => true
  | _ => false

/-- **The key that an operation enlists without being there for it**, by
its answer. -/
inductive Operation.AlsoEnlists (answer : Json) (key : String) : Operation → Prop
  /-- A binding that was renamed is recorded as the one asked for. -/
  | renamedBinding {vpcId id : Json} {q : Binding.Renaming}
      (h : key = ResourceKind.binding.key (bindingRecordId vpcId.plain id.plain)) :
      AlsoEnlists answer key (.renameBinding vpcId id q)
  /-- A group that was renamed is recorded as the one that the service
  shows. -/
  | renamedGroup {id : Json} {q : PlacementGroup.Renaming} {shown : String}
      (hshown : answer.find "id" = .ok (.str shown))
      (h : key = ResourceKind.placementGroup.key shown) :
      AlsoEnlists answer key (.renameGroup id q)
  /-- The service shows another group than the one asked for. -/
  | readGroup {id : Json} {shown : String} (hshown : answer.find "id" = .ok (.str shown))
      (hne : shown ≠ id.plain) (h : key = ResourceKind.placementGroup.key shown) :
      AlsoEnlists answer key (.readGroup id)
  /-- The record is one of another VPC than the one asked for. -/
  | readDns {id : Json} {shown : String} (hshown : answer.find "vpc_id" = .ok (.str shown))
      (hne : shown ≠ id.plain) (h : key = ResourceKind.dnsConfig.key shown) :
      AlsoEnlists answer key (.readDns id)
  | changedDns {id : Json} {c : Dns.Changes} {shown : String}
      (hshown : answer.find "vpc_id" = .ok (.str shown))
      (hne : shown ≠ id.plain) (h : key = ResourceKind.dnsConfig.key shown) :
      AlsoEnlists answer key (.updateDns id c)

namespace Operation

@[simp] theorem alsoEnlists_renameBinding_iff {answer vpcId id : Json} {q : Binding.Renaming} :
    (renameBinding vpcId id q).AlsoEnlists answer key ↔
      ResourceKind.binding.key (bindingRecordId vpcId.plain id.plain) = key := by
  constructor
  · intro h
    cases h with
    | renamedBinding h => exact h.symm
  · rintro rfl
    exact .renamedBinding rfl

@[simp] theorem alsoEnlists_renameGroup_iff {id : Json} {q : PlacementGroup.Renaming}
    {g : PlacementGroup} :
    (renameGroup id q).AlsoEnlists g.toJson key ↔ ResourceKind.placementGroup.key g.id = key := by
  constructor
  · intro h
    cases h with
    | renamedGroup hshown h => cases hshown; exact h.symm
  · rintro rfl
    exact .renamedGroup rfl rfl

@[simp] theorem alsoEnlists_readGroup_iff {id : Json} {g : PlacementGroup} :
    (readGroup id).AlsoEnlists g.toJson key ↔
      g.id ≠ id.plain ∧ ResourceKind.placementGroup.key g.id = key := by
  constructor
  · intro h
    cases h with
    | readGroup hshown hne h => cases hshown; exact ⟨hne, h.symm⟩
  · rintro ⟨hne, rfl⟩
    exact .readGroup rfl hne rfl

@[simp] theorem alsoEnlists_readDns_iff {id : Json} {s : Dns.State} :
    (readDns id).AlsoEnlists s.toJson key ↔
      s.vpcId ≠ id.plain ∧ ResourceKind.dnsConfig.key s.vpcId = key := by
  constructor
  · intro h
    cases h with
    | readDns hshown hne h => cases hshown; exact ⟨hne, h.symm⟩
  · rintro ⟨hne, rfl⟩
    exact .readDns rfl hne rfl

@[simp] theorem alsoEnlists_updateDns_iff {id : Json} {c : Dns.Changes} {s : Dns.State} :
    (updateDns id c).AlsoEnlists s.toJson key ↔
      s.vpcId ≠ id.plain ∧ ResourceKind.dnsConfig.key s.vpcId = key := by
  constructor
  · intro h
    cases h with
    | changedDns hshown hne h => cases hshown; exact ⟨hne, h.symm⟩
  · rintro ⟨hne, rfl⟩
    exact .changedDns rfl hne rfl

end Operation

/-! ## Keys that are new -/

/-- **A key that is new is that of the value that was returned**, by the
identifier of the value. -/
def Enlisted (kind : ResourceKind) (idOf : α → String) (w : World) (result : Except Failure α)
    (x : World) : Prop :=
  ∀ key, key ∉ w.store.records.keys →
    (key ∈ x.store.records.keys ↔ ∃ a, result = .ok a ∧ kind.key (idOf a) = key)

namespace Enlisted

variable {kind : ResourceKind} {idOf : α → String} {result : Except Failure α}

/-- What fails without writing a record enlists nothing. -/
theorem of_error {f : Failure} (h : x.store.records.keys ⊆ w.store.records.keys) :
    Enlisted kind idOf w (.error f) x := by
  intro key hnew
  simp [mt (@h key) hnew]

/-- The records are as before, but for that of the value. -/
theorem of_insert {a : α} {record : Keyed Json}
    (h : x.store.records = w.store.records.insert (kind.key (idOf a)) record) :
    Enlisted kind idOf w (.ok a) x := by
  intro key hnew
  simp [h, hnew, eq_comm]

/-- What came before may have dropped keys, but not added any. -/
theorem of_keys_subset {v : World} (h : Enlisted kind idOf v result x)
    (hv : v.store.records.keys ⊆ w.store.records.keys) : Enlisted kind idOf w result x :=
  fun key hnew => h key (mt (@hv key) hnew)

/-- Where the resource that was asked for was recorded, the value has to be
another one. -/
theorem iff_of_recorded {asked : String} (h : Enlisted kind idOf w result x)
    (hrecorded : ∀ a, result = .ok a → kind.key asked ∈ w.store.records.keys)
    (hnew : key ∉ w.store.records.keys) :
    key ∈ x.store.records.keys ↔
      ∃ a, result = .ok a ∧ idOf a ≠ asked ∧ kind.key (idOf a) = key := by
  refine (h key hnew).trans (exists_congr fun a => and_congr_right fun ha => ?_)
  refine ⟨fun hkey => ⟨fun heq => hnew ?_, hkey⟩, fun hkey => hkey.2⟩
  rw [← hkey, heq]
  exact hrecorded a ha

end Enlisted

namespace World.Leads

theorem keys_subset (h : w.Leads w.store.records x) :
    x.store.records.keys ⊆ w.store.records.keys :=
  fun _ hk => h.records_eq ▸ hk

theorem keys_subset_of_erase (h : w.Leads (w.store.records.erase key) x) :
    x.store.records.keys ⊆ w.store.records.keys := by
  rw [h.records_eq]
  exact fun _ hk => (Keyed.mem_keys_erase.1 hk).1

end World.Leads

/-! ## Bindings and placement groups -/

namespace Recording

variable {r : Recording α} {q : Query α} {call : Remote.Call} {read : Json → Read α}
variable {result : Except Failure α} {calls : List Remote.Exchange}

theorem Renewed.enlisted (h : r.Renewed call read w result calls x) :
    Enlisted r.kind (fun a => (r.id a).plain) w result x := by
  cases h with
  | untold _ hx | unwritten _ _ hx => exact .of_error hx.keys_subset
  | written _ hx => exact .of_insert hx.records_eq

theorem Reread.enlisted (h : r.Reread q w result calls x) :
    Enlisted r.kind (fun a => (r.id a).plain) w result x := by
  cases h with
  | unmanaged _ hx | unread _ hx | undropped _ _ _ hx => exact .of_error hx.keys_subset
  | missing _ _ hx => exact .of_error hx.keys_subset_of_erase
  | renewed _ _ h => exact h.enlisted

/-- What is read back was recorded. -/
theorem Reread.mem_keys_of_ok {a : α} (h : r.Reread q w result calls x) (ha : result = .ok a) :
    q.key r.kind ∈ w.store.records.keys := by
  cases h with
  | unmanaged | unread | missing | undropped => cases ha
  | renewed hp =>
    obtain ⟨record, hrecord, -⟩ := hp
    rw [Keyed.mem_keys_iff, hrecord]
    rfl

end Recording

/-- Reading a binding back enlists nothing: it is recorded as the one asked
for, which had to be recorded. -/
theorem Binding.keys_subset_of_read (vpcId id : Json) (w : World) :
    (read vpcId id w).world.store.records.keys ⊆ w.store.records.keys := by
  have h := readBack vpcId id w
  intro key hkey
  refine Decidable.byContradiction fun hnew => ?_
  obtain ⟨b, -, hne, -⟩ :=
    (h.enlisted.iff_of_recorded (fun _ hb => h.mem_keys_of_ok hb) hnew).1 hkey
  exact hne rfl

theorem Discarded.keys_subset {kind : ResourceKind} {id : Json}
    {deletion : Except Failure Unit → List Remote.Exchange → Prop}
    {result : Except Failure Unit} {calls : List Remote.Exchange}
    (h : Discarded kind id deletion w result calls x) :
    x.store.records.keys ⊆ w.store.records.keys := by
  cases h with
  | undeleted _ hx | undropped _ _ hx => exact hx.keys_subset
  | dropped _ hx => exact hx.keys_subset_of_erase

/-! ## Configurations -/

namespace Dns

variable {v : String} {p s : State} {result : Except Failure State}
variable {calls : List Remote.Exchange}

theorem Loads.mem_keys (h : Loads w.store.records v p) : keyOf v ∈ w.store.records.keys := by
  obtain ⟨record, hrecord, -⟩ := h
  rw [Keyed.mem_keys_iff, hrecord]
  rfl

theorem Refreshed.enlisted (h : Refreshed p w result calls x) :
    Enlisted .dnsConfig State.vpcId w result x := by
  cases h with
  | shown _ _ hx => exact .of_insert hx.records_eq
  | unrecorded _ _ _ hx | unnamed _ _ hx | garbled _ hx | refused _ hx | cut hx
  | undropped _ _ hx => exact .of_error hx.keys_subset
  | missing _ hx => exact .of_error hx.keys_subset_of_erase

/-- A state that takes the place of a recorded one enlists nothing until it
is read back. -/
theorem Settled.enlisted (h : Settled v s w result calls x)
    (hv : keyOf v ∈ w.store.records.keys) : Enlisted .dnsConfig State.vpcId w result x := by
  cases h with
  | unrecorded _ hx => exact .of_error hx.keys_subset
  | recorded hu h =>
    refine h.enlisted.of_keys_subset fun key hkey => ?_
    rw [hu.records_eq, Keyed.mem_keys_insert] at hkey
    rcases hkey with rfl | hold
    · exact hv
    · exact hold

theorem Updated.enlisted {c : Changes} (h : Updated v c w result calls x) :
    Enlisted .dnsConfig State.vpcId w result x := by
  cases h with
  | unfit | violating => exact .of_error (List.Subset.refl _)
  | unloaded _ _ _ hx | unprepared _ _ hx | unapplied _ _ _ hx | unreplaced _ _ _ _ hx =>
    exact .of_error hx.keys_subset
  | applied hs _ _ _ hu h =>
    exact (h.enlisted (hu.records_eq ▸ hs.loads.mem_keys)).of_keys_subset hu.keys_subset

theorem Updated.mem_keys_of_ok {c : Changes} (h : Updated v c w result calls x)
    (hs : result = .ok s) : keyOf v ∈ w.store.records.keys := by
  cases h with
  | unfit | violating | unloaded | unprepared | unapplied | unreplaced => cases hs
  | applied hs => exact hs.loads.mem_keys

theorem ReadBack.enlisted (h : ReadBack v w result calls x) :
    Enlisted .dnsConfig State.vpcId w result x := by
  cases h with
  | unloaded _ hx => exact .of_error hx.keys_subset
  | loaded _ hu h => exact h.enlisted.of_keys_subset hu.keys_subset

theorem ReadBack.mem_keys_of_ok (h : ReadBack v w result calls x) (hs : result = .ok s) :
    keyOf v ∈ w.store.records.keys := by
  cases h with
  | unloaded => cases hs
  | loaded hp => exact hp.mem_keys

/-- Deleting a configuration enlists nothing. -/
theorem keys_subset_of_delete (id : Json) (w : World) :
    (delete id w).world.store.records.keys ⊆ w.store.records.keys := by
  have hkeeps : (delete id).Keeps (fun records => records.keys ⊆ w.store.records.keys) Any :=
    keeps_delete fun _ h _ hk => h (Keyed.mem_keys_erase.1 hk).1
  exact (hkeeps w (List.Subset.refl _)).1

/-- **What reading a configuration back enlists**: a VPC other than the one
asked for. -/
theorem mem_keys_read_iff (id : Json) (hnew : key ∉ w.store.records.keys) :
    key ∈ (read id w).world.store.records.keys ↔
      ∃ s, (read id w).result = .ok s ∧ s.vpcId ≠ id.plain ∧
        ResourceKind.dnsConfig.key s.vpcId = key := by
  obtain ⟨-, hworld, hresult⟩ := read_plain id w
  have h := readBack id.plain w
  simp only [hworld, hresult]
  exact h.enlisted.iff_of_recorded (fun _ hs => h.mem_keys_of_ok hs) hnew

/-- **What changing a configuration enlists**: likewise. -/
theorem mem_keys_update_iff (id : Json) (c : Changes) (hnew : key ∉ w.store.records.keys) :
    key ∈ (update id c w).world.store.records.keys ↔
      ∃ s, (update id c w).result = .ok s ∧ s.vpcId ≠ id.plain ∧
        ResourceKind.dnsConfig.key s.vpcId = key := by
  -- What is not a text is no identifier.
  cases id with
  | str v =>
    have h := updated v c w
    exact h.enlisted.iff_of_recorded (fun _ hs => h.mem_keys_of_ok hs) hnew
  | null | bool | int | float | arr | obj =>
    refine iff_of_false hnew ?_
    rintro ⟨s, hs, -⟩
    cases hs

end Dns

/-! ## Operations -/

/-- The answers of an operation with one value, and what holds of them. -/
theorem Operation.exists_answer_iff {toJson : α → Json} {y : Action α} {P : Json → Prop} :
    (∃ j, (one toJson y w).result = .ok j ∧ P j) ↔ ∃ a, (y w).result = .ok a ∧ P (toJson a) := by
  rw [one_apply]
  constructor
  · rintro ⟨j, hj, hP⟩
    obtain ⟨a, ha, rfl⟩ := map_eq_ok_iff.1 hj
    exact ⟨a, ha, hP⟩
  · rintro ⟨a, ha, hP⟩
    exact ⟨toJson a, map_eq_ok_iff.2 ⟨a, ha, rfl⟩, hP⟩

/-- **What comes under management outside of creating and importing**: a
key that had no record has one after an operation exactly if the operation
returned and enlists the key by its answer. -/
theorem enlisted_iff (hop : op.enlists = false) (hnew : key ∉ w.store.records.keys) :
    key ∈ (op.run w).world.store.records.keys ↔
      ∃ j, (op.run w).result = .ok j ∧ op.AlsoEnlists j key := by
  -- What only looks at something, or drops a record, adds no key.
  have never : (op.run w).world.store.records.keys ⊆ w.store.records.keys →
      (∀ j, ¬ op.AlsoEnlists j key) → (key ∈ (op.run w).world.store.records.keys ↔
        ∃ j, (op.run w).result = .ok j ∧ op.AlsoEnlists j key) := fun hsub hop =>
    iff_of_false (fun h => hnew (hsub h)) fun h => h.elim fun j hj => hop j hj.2
  have looks : op.run.Keeps (fun records => records.keys ⊆ w.store.records.keys) Any →
      (op.run w).world.store.records.keys ⊆ w.store.records.keys :=
    fun h => (h w (List.Subset.refl _)).1
  cases op with
  | createDns | importDns | createBinding | createGroup => cases hop
  | renameBinding vpcId id q =>
    rw [Operation.run, Operation.exists_answer_iff, Operation.one_apply]
    simp only [Operation.alsoEnlists_renameBinding_iff]
    exact (Binding.renamed vpcId id q w).enlisted key hnew
  | renameGroup id q =>
    rw [Operation.run, Operation.exists_answer_iff, Operation.one_apply]
    simp only [Operation.alsoEnlists_renameGroup_iff]
    exact (PlacementGroup.renamed id q w).enlisted key hnew
  | readBinding vpcId id =>
    refine never ?_ fun j h => by cases h
    rw [Operation.run, Operation.one_apply]
    exact Binding.keys_subset_of_read vpcId id w
  | readGroup id =>
    have h := PlacementGroup.readBack id w
    rw [Operation.run, Operation.exists_answer_iff, Operation.one_apply]
    simp only [Operation.alsoEnlists_readGroup_iff]
    exact h.enlisted.iff_of_recorded (fun _ hg => h.mem_keys_of_ok hg) hnew
  | readDns id =>
    rw [Operation.run, Operation.exists_answer_iff, Operation.one_apply]
    simp only [Operation.alsoEnlists_readDns_iff]
    exact Dns.mem_keys_read_iff id hnew
  | updateDns id c =>
    rw [Operation.run, Operation.exists_answer_iff, Operation.one_apply]
    simp only [Operation.alsoEnlists_updateDns_iff]
    exact Dns.mem_keys_update_iff id c hnew
  | deleteBinding vpcId id =>
    refine never ?_ fun j h => by cases h
    rw [Operation.run, Operation.nothing_apply]
    exact (Binding.deleted vpcId id w).keys_subset
  | deleteGroup id =>
    refine never ?_ fun j h => by cases h
    rw [Operation.run, Operation.nothing_apply]
    exact (PlacementGroup.deleted id w).keys_subset
  | deleteDns id =>
    refine never ?_ fun j h => by cases h
    rw [Operation.run, Operation.one_apply]
    exact Dns.keys_subset_of_delete id w
  | listDns => exact never (looks Dns.keeps_listDns) fun j h => by cases h
  | fetchBinding | fetchGroup =>
    exact never (looks (Remote.keeps_ask.map fun _ _ => trivial)) fun j h => by cases h
  | listBindings | listGroups | listRoutes =>
    exact never (looks (Remote.keeps_collected.map fun _ _ => trivial)) fun j h => by cases h

/-! ## A binding that nobody manages -/

/-- A binding is renamed. -/
def bindingRename : Operation := .renameBinding (.str "vpc-1") (.str "b-1") ⟨"to-hub"⟩

/-- The service knows the binding, but there is no record of it. -/
def unmanagedWorld : World := Dns.calm [] [.ok Dns.boundBody]

theorem bindingRename_result :
    (bindingRename.run unmanagedWorld).result = .ok (Binding.toJson
      ⟨"b-1", "vpc-1", some "to-hub", none, none, none, none, none, none, []⟩) := rfl

/-- Renaming the binding enlists it. -/
theorem enlisted_iff_bindingRename :
    bindingRename.enlists = false ∧
      "dns_resolution_binding/vpc-1/b-1" ∉ unmanagedWorld.store.records.keys ∧
      "dns_resolution_binding/vpc-1/b-1" ∈
        (bindingRename.run unmanagedWorld).world.store.records.keys :=
  have hop : bindingRename.enlists = false := rfl
  have hnew : "dns_resolution_binding/vpc-1/b-1" ∉ unmanagedWorld.store.records.keys :=
    List.not_mem_nil
  ⟨hop, hnew, (enlisted_iff hop hnew).2
    ⟨_, bindingRename_result, .renamedBinding (by decide)⟩⟩

/-- So it is not only creating and importing that enlist. -/
theorem bindingRename_enlists_unmanaged :
    bindingRename.enlists = false ∧ ¬ (bindingRename.run unmanagedWorld).world.store.records.keys ⊆
      unmanagedWorld.store.records.keys := by
  refine ⟨rfl, fun h => ?_⟩
  have hkeys : (bindingRename.run unmanagedWorld).world.store.records.keys =
      ["dns_resolution_binding/vpc-1/b-1"] := by decide +kernel
  rw [hkeys] at h
  cases h List.mem_cons_self

end NetSteward
