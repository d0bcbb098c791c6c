import NetSteward.Proofs.Ownership
/-!
# Reading back

Managed resources of all kinds are read back in the same way. Without a
record the resource counts as gone, and the service is not asked. If the
service says that there is no such resource, its record is dropped and no
other. If the resource is read, its record holds what is returned. And
whatever else goes wrong, in the answer or on the way to it, leaves the
records as they are.
-/

namespace NetSteward

open Remote (Call Exchange Refusal Reply)

variable {α : Type} {w x : World} {before : Keyed (Keyed Json)} {calls more : List Exchange}

/-- **A managed resource that is read back**: how it is recorded, the plain
form of the identifier that callers know it by, the key and the checks of its
record, and the call that asks for it. -/
structure Rereading (α : Type) where
  recording : Recording α
  known : String
  key : String
  check : Json → Checked α
  call : Call

namespace Rereading

variable (r : Rereading α)

/-- The resource is reported as gone, with its identifier in any form. -/
def Gone (result : Except Failure α) : Prop :=
  ∃ name : Json, name.plain = r.known ∧ result = .error (.gone r.recording.kind name)

/-- The service said that there is no such resource. -/
def Missing (calls : List Exchange) : Prop :=
  ∃ refusal, refusal.isNotFound = true ∧ (r.call, Reply.refused refusal) ∈ calls

/-- **What reading back does to the records**, given what it ends with and the
calls that it makes. -/
structure Clean (before : Keyed (Keyed Json)) (result : Except Failure α)
    (calls : List Exchange) (after : Keyed (Keyed Json)) : Prop where
  unmanaged : before.get? r.key = none → r.Gone result ∧ calls = [] ∧ after = before
  /-- With a record that loads the service is asked. -/
  asked : ∀ held, Memory.Holds r.check before r.key held →
    ∃ reply more, calls = (r.call, reply) :: more
  missing : r.Missing calls → r.Gone result ∧ after = before.erase r.key
  renewed : ∀ a, result = .ok a → ∃ written, after = r.recording.put a written before
  failed : ∀ f, result = .error f → ¬ r.Missing calls → after = before

/-! ## The ways in which reading back ends -/

variable {r} {a held : α} {f : Failure} {reply : Reply}

theorem not_missing_nil : ¬ r.Missing [] := by
  rintro ⟨refusal, -, hmem⟩
  cases hmem

/-- Only one reply says that there is no such resource, where the other calls
are different ones. -/
theorem not_missing_cons (hreply : ∀ refusal, reply = .refused refusal → refusal.isNotFound = false)
    (hmore : ∀ e ∈ more, e.1 ≠ r.call) : ¬ r.Missing ((r.call, reply) :: more) := by
  rintro ⟨refusal, hr, hmem⟩
  rcases List.mem_cons.1 hmem with heq | hmem
  · rw [hreply refusal (Prod.mk.inj heq).2.symm] at hr
    cases hr
  · exact hmore _ hmem rfl

namespace Clean

theorem of_absent {name : Json} (habsent : before.get? r.key = none)
    (hname : name.plain = r.known) :
    r.Clean before (.error (.gone r.recording.kind name)) [] before where
  unmanaged _ := ⟨⟨name, hname, rfl⟩, rfl, rfl⟩
  asked := by
    rintro held ⟨record, hrecord, -⟩
    cases habsent.symm.trans hrecord
  missing h := absurd h not_missing_nil
  renewed a ha := by cases ha
  failed _ _ _ := rfl

theorem of_unfit {record : Keyed Json} {cause : Unreadable}
    (hrecord : before.get? r.key = some record)
    (hunfit : Memory.ofRecord r.check record = .error cause) :
    r.Clean before (.error f) [] before where
  unmanaged habsent := by cases habsent.symm.trans hrecord
  asked := by
    rintro held ⟨other, hother, hheld⟩
    cases hrecord.symm.trans hother
    cases hunfit.symm.trans hheld
  missing h := absurd h not_missing_nil
  renewed a ha := by cases ha
  failed _ _ _ := rfl

theorem of_missing {refusal : Refusal} {name : Json} (hp : Memory.Holds r.check before r.key held)
    (hr : refusal.isNotFound = true) (hname : name.plain = r.known) :
    r.Clean before (.error (.gone r.recording.kind name)) [(r.call, .refused refusal)]
      (before.erase r.key) where
  unmanaged habsent := by
    obtain ⟨record, hrecord, -⟩ := hp
    cases habsent.symm.trans hrecord
  asked _ _ := ⟨_, _, rfl⟩
  missing _ := ⟨⟨name, hname, rfl⟩, rfl⟩
  renewed a ha := by cases ha
  failed _ _ hfound := absurd ⟨refusal, hr, List.mem_singleton.2 rfl⟩ hfound

theorem of_failed (hp : Memory.Holds r.check before r.key held)
    (hfound : ¬ r.Missing ((r.call, reply) :: more)) :
    r.Clean before (.error f) ((r.call, reply) :: more) before where
  unmanaged habsent := by
    obtain ⟨record, hrecord, -⟩ := hp
    cases habsent.symm.trans hrecord
  asked _ _ := ⟨_, _, rfl⟩
  missing h := absurd h hfound
  renewed a ha := by cases ha
  failed _ _ _ := rfl

theorem of_renewed {written : Time.Instant} (hp : Memory.Holds r.check before r.key held)
    (hfound : ¬ r.Missing ((r.call, reply) :: more)) :
    r.Clean before (.ok a) ((r.call, reply) :: more) (r.recording.put a written before) where
  unmanaged habsent := by
    obtain ⟨record, hrecord, -⟩ := hp
    cases habsent.symm.trans hrecord
  asked _ _ := ⟨_, _, rfl⟩
  missing h := absurd h hfound
  renewed b hb := by
    cases hb
    exact ⟨written, rfl⟩
  failed _ hf := by cases hf

/-- In which form the identifier is reported makes no difference. -/
theorem respelled {name other : Json} {after : Keyed (Keyed Json)}
    (h : r.Clean before (.error (.gone r.recording.kind name)) calls after)
    (hother : other.plain = r.known) :
    r.Clean before (.error (.gone r.recording.kind other)) calls after where
  unmanaged habsent := ⟨⟨other, hother, rfl⟩, (h.unmanaged habsent).2⟩
  asked := h.asked
  missing hm := ⟨⟨other, hother, rfl⟩, (h.missing hm).2⟩
  renewed a ha := by cases ha
  failed _ _ hfound := h.failed _ rfl hfound

end Clean

end Rereading

/-! ## Bindings and placement groups -/

/-- How a resource is read back whose answer is read on its own. -/
def Recording.Query.rereading (q : Recording.Query α) (r : Recording α) : Rereading α where
  recording := r
  known := q.known.plain
  key := q.key r.kind
  check := q.check
  call := q.call

/-- **A resource whose answer is read on its own is read back cleanly.** -/
theorem Recording.Reread.clean {r : Recording α} {q : Recording.Query α}
    {result : Except Failure α} (h : r.Reread q w result calls x)
    (hfaults : w.store.faults = []) :
    (q.rereading r).Clean w.store.records result calls x.store.records := by
  cases h with
  | unmanaged habsent hx =>
    rw [hx.records_eq]
    exact .of_absent habsent rfl
  | unread hf hx =>
    rw [hx.records_eq]
    cases hf with
    | unfit hrecord hunfit => exact .of_unfit hrecord hunfit
    | faulty hf => exact absurd hfaults hf
  | missing hp hr hx =>
    rw [hx.records_eq]
    exact .of_missing hp hr rfl
  | undropped _ _ hf => exact absurd hfaults hf
  | @renewed held _ _ _ hp hfound h =>
    have found : ¬ (q.rereading r).Missing calls := by
      rintro ⟨refusal, hr, hmem⟩
      rw [hfound refusal hmem] at hr
      cases hr
    cases h with
    | untold h hx =>
      rw [hx.records_eq]
      cases h with
      | garbled | refused | cut => exact .of_failed hp found
    | unwritten h _ hx =>
      rw [hx.records_eq]
      cases h with
      | told => exact .of_failed hp found
    | written h hx =>
      rw [hx.records_eq]
      cases h with
      | told => exact .of_renewed hp found

/-- How a binding is read back, with the record of the one that is asked
for. -/
def Binding.rereading (vpcId bindingId : Json) : Rereading Binding :=
  (query vpcId bindingId).rereading (recording vpcId fun _ => bindingId)

/-- How a placement group is read back, with the record of the one that is
returned. -/
def PlacementGroup.rereading (groupId : Json) : Rereading PlacementGroup :=
  (query groupId).rereading recording

/-! ## Configurations -/

namespace Dns

variable {v : String} {s p : State}

/-- How the configuration of a VPC is read back. -/
def State.rereading (vpcId : Json) : Rereading State where
  recording := ⟨.dnsConfig, fun _ => .str vpcId.plain, State.attributes⟩
  known := vpcId.plain
  key := keyOf vpcId.plain
  check := State.check .data
  call := .getVpc (.str vpcId.plain)

/-- Looking a name up asks for no VPC. -/
theorem Named.not_getVpc {result : Except Failure State} (h : Named p result calls) :
    ∀ e ∈ calls, e.1 ≠ .getVpc (.str v) := by
  intro e he hget
  obtain ⟨start, limit, hlists⟩ := h.lists e he
  cases hget.symm.trans hlists

/-- A configuration is read back cleanly from the state that its record
holds. -/
theorem Refreshed.clean {result : Except Failure State} (h : Refreshed p w result calls x)
    (hp : Loads w.store.records p.vpcId p) (hfaults : w.store.faults = []) :
    (State.rereading (.str p.vpcId)).Clean w.store.records result calls x.store.records := by
  cases h with
  | shown hread hs hx =>
    rw [hx.records_eq, (hs.kept.1.trans (State.kept_of_overlaid hread).2.1)]
    exact .of_renewed (r := State.rereading (.str p.vpcId)) hp
      (Rereading.not_missing_cons (fun _ h => by cases h) hs.not_getVpc)
  | unrecorded _ hs _ hx | unnamed _ hs hx =>
    rw [hx.records_eq]
    exact .of_failed hp (Rereading.not_missing_cons (fun _ h => by cases h) hs.not_getVpc)
  | garbled _ hx | cut hx =>
    rw [hx.records_eq]
    exact .of_failed hp (Rereading.not_missing_cons (fun _ h => by cases h) (by simp))
  | refused hr hx =>
    rw [hx.records_eq]
    refine .of_failed hp (Rereading.not_missing_cons (fun refusal h => ?_) (by simp))
    cases h
    exact hr
  | missing hr hx =>
    rw [hx.records_eq]
    exact .of_missing hp hr rfl
  | undropped _ hf => exact absurd hfaults hf

theorem ReadBack.clean {result : Except Failure State} (h : ReadBack v w result calls x)
    (hown : ∀ p, Loads w.store.records v p → p.vpcId = v) (hfaults : w.store.faults = []) :
    (State.rereading (.str v)).Clean w.store.records result calls x.store.records := by
  cases h with
  | unloaded hf hx =>
    rw [hx.records_eq]
    cases hf with
    | unmanaged habsent => exact .of_absent habsent rfl
    | unread hf =>
      cases hf with
      | unfit hrecord hunfit => exact .of_unfit hrecord hunfit
      | faulty hf => exact absurd hfaults hf
  | loaded hp hu h =>
    cases hown _ hp
    have hclean := h.clean (hu.records_eq ▸ hp) (hu.faults_eq.trans hfaults)
    rwa [hu.records_eq] at hclean

/-- **A configuration is read back cleanly**, by an identifier in any form. -/
theorem read_clean (id : Json) (w : World)
    (hown : ∀ p, Loads w.store.records id.plain p → p.vpcId = id.plain)
    (hfaults : w.store.faults = []) :
    (State.rereading id).Clean w.store.records (read id w).result (read id w).calls
      (read id w).world.store.records := by
  have hclean : (State.rereading id).Clean _ _ _ _ := (readBack id.plain w).clean hown hfaults
  rcases read_eq_or_gone id w with hsame | ⟨events, v, hid, hplain⟩
  · rw [hsame]
    exact hclean
  · rw [hplain] at hclean
    rw [hid]
    exact hclean.respelled rfl

end Dns

/-! ## All of them -/

/-- **Reading back fails cleanly.** A configuration whose record is about its
own VPC, a binding and a placement group: without a record each of them is
reported as gone, with no call and no change; with a record that loads the
service is asked, and if it says that there is no such resource exactly that
record is dropped; what is returned is what its record holds, and any other
failure changes nothing. -/
theorem reading_back_fails_cleanly (w : World) (hfaults : w.store.faults = []) :
    (∀ id : Json, (∀ p, Dns.Loads w.store.records id.plain p → p.vpcId = id.plain) →
      (Dns.State.rereading id).Clean w.store.records (Dns.read id w).result (Dns.read id w).calls
        (Dns.read id w).world.store.records) ∧
    (∀ vpcId bindingId : Json,
      (Binding.rereading vpcId bindingId).Clean w.store.records
        (Binding.read vpcId bindingId w).result (Binding.read vpcId bindingId w).calls
        (Binding.read vpcId bindingId w).world.store.records) ∧
    ∀ groupId : Json,
      (PlacementGroup.rereading groupId).Clean w.store.records
        (PlacementGroup.read groupId w).result (PlacementGroup.read groupId w).calls
        (PlacementGroup.read groupId w).world.store.records := by
  refine ⟨fun id hown => Dns.read_clean id w hown hfaults, fun vpcId bindingId => ?_,
    fun groupId => ?_⟩
  · exact (Binding.readBack vpcId bindingId w).clean hfaults
  · exact (PlacementGroup.readBack groupId w).clean hfaults

/-- A VPC is looked for that is not there any more, recorded next to other
resources. -/
def vanishedWorld : World := Dns.calm sharedRecords [.refused ⟨.int 404, "not found"⟩]

/-- Only the record of the VPC is dropped, and a VPC without a record changes
nothing. -/
theorem reading_back_fails_cleanly_vanished :
    vanishedWorld.store.faults = [] ∧ Dns.KeptByVpc vanishedWorld.store.records ∧
      (Dns.State.rereading (.str "vpc-1")).Missing (Dns.read (.str "vpc-1") vanishedWorld).calls ∧
      (Dns.read (.str "vpc-1") vanishedWorld).world.store.records = heldRecords ∧
      (Dns.State.rereading (.str "vpc-2")).Gone (Dns.read (.str "vpc-2") vanishedWorld).result ∧
      (Dns.read (.str "vpc-2") vanishedWorld).world.store.records = sharedRecords := by
  obtain ⟨configurations, -, -⟩ := reading_back_fails_cleanly vanishedWorld rfl
  have hmissing : (Dns.State.rereading (.str "vpc-1")).Missing
      (Dns.read (.str "vpc-1") vanishedWorld).calls := ⟨_, rfl, List.mem_singleton.2 rfl⟩
  have hvanished := configurations (.str "vpc-1") (keptByVpc_sharedRecords "vpc-1")
  have hunknown := configurations (.str "vpc-2") (keptByVpc_sharedRecords "vpc-2")
  obtain ⟨hgone, -, hsame⟩ := hunknown.unmanaged rfl
  exact ⟨rfl, keptByVpc_sharedRecords, hmissing, (hvanished.missing hmissing).2, hgone, hsame⟩

end NetSteward
