import NetSteward.Proofs.Dns.Ending
/-!
# How records of bindings and placement groups are renewed

Bindings and placement groups are recorded as the service shows them. A
call is made, its answer is read, and what was read is recorded: that is
how a resource is created, renamed and, if it is managed, read back. A
deletion makes its call and then drops the record. The relations here list
all the ways in which these can end, for any kind of resource, and a
theorem for each operation says which of them it is.
-/

namespace NetSteward

open Remote (Call Exchange Refusal)

variable {α : Type} {past : List Exchange} {w : World}

/-! ## Calls and their answers -/

namespace Remote

/-- Makes a call and reads its answer. -/
def ask (call : Call) (read : Json → Read α) : Action α := do
  let answer ← send call
  Action.ofRead (read answer)

/-- **What comes of a call whose answer is read.** -/
inductive Asked (call : Call) (read : Json → Read α) : Except Failure α → List Exchange → Prop
  | told {answer : Json} {a : α} (h : read answer = .ok a) :
      Asked call read (.ok a) [(call, .ok answer)]
  /-- The answer cannot be read. -/
  | garbled {answer : Json} {cause : Unreadable} (h : read answer = .error cause) :
      Asked call read (.error (.unreadable cause)) [(call, .ok answer)]
  | refused {refusal : Refusal} :
      Asked call read (.error (.refused call.purpose refusal)) [(call, .refused refusal)]
  | cut {reason : String} :
      Asked call read (.error (.disconnected reason)) [(call, .disconnected reason)]

theorem ask_still (call : Call) (read : Json → Read α) :
    (ask call read).Still (Asked call read) := by
  refine .of_ends fun w => ?_
  unfold ask send
  refine Action.ends_bind.2 (ends_sendFor (fun answer v hv => ?_) (fun r v hv => ⟨.refused, hv⟩)
    fun reason v hv => ⟨.cut, hv⟩)
  exact Action.ends_ofRead (fun a ha => ⟨.told ha, hv⟩) fun cause hc => ⟨.garbled hc, hv⟩

end Remote

open Remote (Asked ask)

/-! ## Records that are written -/

/-- Some records hold a resource under a key, and it passes its checks. -/
def Memory.Holds (check : Json → Checked α) (records : Keyed (Keyed Json)) (key : String) (a : α) :
    Prop :=
  ∃ record, records.get? key = some record ∧ Memory.ofRecord check record = .ok a

/-- How resources are recorded: of which kind, under which identifier and
with which attributes. -/
structure Recording (α : Type) where
  kind : ResourceKind
  id : α → Json
  toJson : α → Json

namespace Recording

variable (r : Recording α)

/-- The key that a resource is recorded under. -/
def key (a : α) : String := r.kind.key (r.id a).plain

/-- Some records together with that of a resource. -/
def put (a : α) (written : Time.Instant) (records : Keyed (Keyed Json)) : Keyed (Keyed Json) :=
  records.insert (r.key a) (Memory.record r.kind (r.id a) (r.toJson a) written)

/-- Records a resource and returns it. -/
def keep (a : α) : Action α := do
  Memory.remember r.kind (r.id a) (r.toJson a)
  return a

theorem ends_keep {a : α} {done : α → List Exchange → World → Prop}
    {failed : Failure → List Exchange → World → Prop}
    (kept : ∀ written v, w.Leads (r.put a written w.store.records) v → done a past v)
    (fails : ∀ f v, Memory.Unwritten w (r.toJson a) f → w.Leads w.store.records v →
      failed f past v) :
    (r.keep a).Ends past w done failed :=
  Action.ends_bind.2 (Memory.ends_remember
    (fun written v hv => Action.ends_pure.2 (kept written v hv)) fails)

/-- Makes a call, reads its answer and records what was read. -/
def renew (call : Call) (read : Json → Read α) : Action α := do
  let a ← ask call read
  r.keep a

/-- **What the renewal of a record comes to.** -/
inductive Renewed (call : Call) (read : Json → Read α) (w : World) :
    Except Failure α → List Exchange → World → Prop
  /-- Nothing was read. -/
  | untold {f : Failure} {calls : List Exchange} {x : World}
      (h : Asked call read (.error f) calls) (hx : w.Leads w.store.records x) :
      Renewed call read w (.error f) calls x
  /-- What was read could not be recorded. -/
  | unwritten {a : α} {f : Failure} {calls : List Exchange} {x : World}
      (h : Asked call read (.ok a) calls) (hf : Memory.Unwritten w (r.toJson a) f)
      (hx : w.Leads w.store.records x) : Renewed call read w (.error f) calls x
  | written {a : α} {calls : List Exchange} {written : Time.Instant} {x : World}
      (h : Asked call read (.ok a) calls) (hx : w.Leads (r.put a written w.store.records) x) :
      Renewed call read w (.ok a) calls x

theorem renewed (call : Call) (read : Json → Read α) (w : World) :
    r.Renewed call read w (r.renew call read w).result (r.renew call read w).calls
      (r.renew call read w).world := by
  refine (Action.ends_nil_iff (r.Renewed call read w)).1 ?_
  unfold renew
  refine Action.ends_bind.2 ((Remote.ask_still call read).ends (fun a calls u ha hu => ?_)
    fun f calls u hf hu => .untold hf hu)
  refine r.ends_keep (fun written x hx => ?_) fun f x hf hx => ?_
  · have hl := hu.trans hx
    rw [hu.records_eq] at hl
    exact .written ha hl
  · exact .unwritten ha (hf.before hu) (hu.still hx)

/-- A property of the records that the writing of what is read keeps. -/
theorem Renewed.keeps {r : Recording α} {call : Call} {read : Json → Read α}
    {result : Except Failure α} {calls : List Exchange} {x : World}
    {inv : Keyed (Keyed Json) → Prop} (h : r.Renewed call read w result calls x)
    (hw : inv w.store.records)
    (put : ∀ answer a written, read answer = .ok a → inv (r.put a written w.store.records)) :
    inv x.store.records := by
  cases h with
  | untold _ hx | unwritten _ _ hx => exact hx.records_eq ▸ hw
  | @written a _ written _ h hx =>
    cases h with
    | told ha => exact hx.records_eq ▸ put _ a written ha

/-! ## Records that are read back -/

/-- How a managed resource is read back: the identifier of its record and
the one that callers know it by, the checks of the record, and the call
with what is read of its answer. -/
structure Query (α : Type) where
  recorded : Json
  known : Json
  check : Json → Checked α
  call : Call
  read : Json → Read α

/-- Reads a managed resource back. If it no longer exists, its record is
dropped. -/
def reread (q : Query α) : Action α := do
  match ← Memory.retrieve r.kind q.recorded q.check with
  | none => Memory.gone r.kind q.known
  | some _ =>
    let a ← (ask q.call q.read).ifMissing do
      let _ ← Memory.forget r.kind q.recorded
      Memory.gone r.kind q.known
    r.keep a

/-- The key of the record that is read back. -/
def Query.key (q : Query α) (kind : ResourceKind) : String := kind.key q.recorded.plain

/-- **What reading a managed resource back comes to.** -/
inductive Reread (q : Query α) (w : World) : Except Failure α → List Exchange → World → Prop
  | unmanaged {x : World} (h : w.store.records.get? (q.key r.kind) = none)
      (hx : w.Leads w.store.records x) : Reread q w (.error (.gone r.kind q.known)) [] x
  | unread {f : Failure} {x : World} (hf : Memory.Unread q.check w (q.key r.kind) f)
      (hx : w.Leads w.store.records x) : Reread q w (.error f) [] x
  /-- The resource no longer exists, and its record was dropped. -/
  | missing {held : α} {refusal : Refusal} {x : World}
      (hp : Memory.Holds q.check w.store.records (q.key r.kind) held)
      (h : refusal.isNotFound = true) (hx : w.Leads (w.store.records.erase (q.key r.kind)) x) :
      Reread q w (.error (.gone r.kind q.known)) [(q.call, .refused refusal)] x
  /-- The resource no longer exists, but its record could not be dropped. -/
  | undropped {held : α} {refusal : Refusal} {e : Store.TableError} {x : World}
      (hp : Memory.Holds q.check w.store.records (q.key r.kind) held)
      (h : refusal.isNotFound = true) (hf : w.store.faults ≠ [])
      (hx : w.Leads w.store.records x) :
      Reread q w (.error (.store e)) [(q.call, .refused refusal)] x
  /-- The service does not say that there is no such resource. -/
  | renewed {held : α} {result : Except Failure α} {calls : List Exchange} {x : World}
      (hp : Memory.Holds q.check w.store.records (q.key r.kind) held)
      (hfound : ∀ refusal, (q.call, .refused refusal) ∈ calls → refusal.isNotFound = false)
      (h : r.Renewed q.call q.read w result calls x) : Reread q w result calls x

theorem rereads (q : Query α) (w : World) :
    r.Reread q w (r.reread q w).result (r.reread q w).calls (r.reread q w).world := by
  refine (Action.ends_nil_iff (r.Reread q w)).1 ?_
  unfold reread Action.ifMissing Memory.gone
  refine Action.ends_bind.2 (Memory.ends_retrieve (fun u habsent hu => ?_)
    (fun record held u hrecord hheld hu => ?_) fun f u hf hu => .unread hf hu)
  · exact Action.ends_fail.2 (.unmanaged habsent hu)
  have hp : Memory.Holds q.check w.store.records (q.key r.kind) held := ⟨record, hrecord, hheld⟩
  refine Action.ends_bind.2 (Action.ends_recover.2 ((Remote.ask_still q.call q.read).ends
    (fun a calls v ha hv => ?_) fun f calls v hf hv => ?_))
  · have hv := hu.still hv
    have hfound : ∀ refusal, (q.call, .refused refusal) ∈ calls → refusal.isNotFound = false := by
      cases ha with
      | told h => simp
    refine r.ends_keep (fun written x hx => ?_) fun f x hf hx => ?_
    · have hl := hv.trans hx
      rw [hv.records_eq] at hl
      exact .renewed hp hfound (.written ha hl)
    · exact .renewed hp hfound (.unwritten ha (hf.before hv) (hv.still hx))
  · have hv := hu.still hv
    cases hf with
    | garbled h => exact .renewed hp (by simp) (.untold (.garbled h) hv)
    | cut => exact .renewed hp (by simp) (.untold .cut hv)
    | @refused refusal =>
      by_cases hr : refusal.isNotFound = true
      · simp only [if_pos hr, Action.ends_bind]
        refine Memory.ends_forget (fun x hx => ?_) fun e x hf hx => ?_
        · have hl := hv.trans hx
          rw [hv.records_eq] at hl
          exact Action.ends_fail.2 (.missing hp hr hl)
        · exact .undropped hp hr (hv.faults_eq ▸ hf) (hv.still hx)
      · simp only [if_neg hr]
        have hr := Bool.eq_false_iff.2 hr
        exact .renewed hp (by simp [hr]) (.untold .refused hv)

/-- A property of the records that the writing of what is read keeps, and
the erasure of the record. -/
theorem Reread.keeps {r : Recording α} {q : Query α} {result : Except Failure α}
    {calls : List Exchange} {x : World} {inv : Keyed (Keyed Json) → Prop}
    (h : r.Reread q w result calls x) (hw : inv w.store.records)
    (erase : inv (w.store.records.erase (q.key r.kind)))
    (put : ∀ answer a written, q.read answer = .ok a → inv (r.put a written w.store.records)) :
    inv x.store.records := by
  cases h with
  | unmanaged _ hx | unread _ hx | undropped _ _ _ hx => exact hx.records_eq ▸ hw
  | missing _ _ hx => exact hx.records_eq ▸ erase
  | renewed _ _ h => exact h.keeps hw put

end Recording

/-! ## Records that are dropped -/

/-- Deletes a resource and then drops its record. -/
def discard (kind : ResourceKind) (id : Json) (deletion : Action Unit) : Action Unit := do
  deletion
  let _ ← Memory.forget kind id

/-- **What the deletion of a resource comes to**, given what its calls can
come to. -/
inductive Discarded (kind : ResourceKind) (id : Json)
    (deletion : Except Failure Unit → List Exchange → Prop) (w : World) :
    Except Failure Unit → List Exchange → World → Prop
  | undeleted {f : Failure} {calls : List Exchange} {x : World} (h : deletion (.error f) calls)
      (hx : w.Leads w.store.records x) : Discarded kind id deletion w (.error f) calls x
  /-- Only the record is left. -/
  | undropped {e : Store.TableError} {calls : List Exchange} {x : World}
      (h : deletion (.ok ()) calls) (hf : w.store.faults ≠ [])
      (hx : w.Leads w.store.records x) : Discarded kind id deletion w (.error (.store e)) calls x
  | dropped {calls : List Exchange} {x : World} (h : deletion (.ok ()) calls)
      (hx : w.Leads (w.store.records.erase (kind.key id.plain)) x) :
      Discarded kind id deletion w (.ok ()) calls x

theorem discarded {kind : ResourceKind} {id : Json} {deletion : Action Unit}
    {ending : Except Failure Unit → List Exchange → Prop} (h : deletion.Still ending) (w : World) :
    Discarded kind id ending w (discard kind id deletion w).result
      (discard kind id deletion w).calls (discard kind id deletion w).world := by
  refine (Action.ends_nil_iff (Discarded kind id ending w)).1 ?_
  unfold discard
  refine Action.ends_bind.2 (h.ends (fun _ calls u hcalls hu => ?_)
    fun f calls u hcalls hu => .undeleted hcalls hu)
  refine Action.ends_bind.2 (Memory.ends_forget (fun x hx => ?_) fun e x hf hx => ?_)
  · have hl := hu.trans hx
    rw [hu.records_eq] at hl
    exact Action.ends_pure.2 (.dropped hcalls hl)
  · exact .undropped hcalls (hu.faults_eq ▸ hf) (hu.still hx)

theorem Discarded.keeps {kind : ResourceKind} {id : Json}
    {deletion : Except Failure Unit → List Exchange → Prop} {result : Except Failure Unit}
    {calls : List Exchange} {x : World} {inv : Keyed (Keyed Json) → Prop}
    (h : Discarded kind id deletion w result calls x) (hw : inv w.store.records)
    (erase : inv (w.store.records.erase (kind.key id.plain))) : inv x.store.records := by
  cases h with
  | undeleted _ hx | undropped _ _ hx => exact hx.records_eq ▸ hw
  | dropped _ hx => exact hx.records_eq ▸ erase

/-! ## Bindings -/

namespace Binding

variable (vpcId bindingId : Json)

/-- How bindings of a VPC are recorded, given what identifies them. -/
def recording (id : Binding → Json) : Recording Binding where
  kind := .binding
  id b := recordId vpcId (id b)
  toJson := toJson

/-- How a binding is read back. -/
def query : Recording.Query Binding where
  recorded := recordId vpcId bindingId
  known := bindingId
  check := check .data
  call := .getBinding vpcId bindingId
  read := ofAnswer vpcId

theorem created (q : Request) (w : World) :
    (recording vpcId fun b => .str b.id).Renewed (.createBinding vpcId q.hub (.ofOption q.name))
      (ofAnswer vpcId) w (create vpcId q w).result (create vpcId q w).calls
      (create vpcId q w).world := by
  have heq : create vpcId q = (recording vpcId fun b => .str b.id).renew
      (.createBinding vpcId q.hub (.ofOption q.name)) (ofAnswer vpcId) := by
    simp only [create, Recording.renew, ask, bind_assoc]
    rfl
  exact heq ▸ Recording.renewed _ _ _ w

theorem renamed (q : Renaming) (w : World) :
    (recording vpcId fun _ => bindingId).Renewed (.patchBinding vpcId bindingId q.toJson)
      (ofAnswer vpcId) w (rename vpcId bindingId q w).result (rename vpcId bindingId q w).calls
      (rename vpcId bindingId q w).world := by
  have heq : rename vpcId bindingId q = (recording vpcId fun _ => bindingId).renew
      (.patchBinding vpcId bindingId q.toJson) (ofAnswer vpcId) := by
    simp only [rename, Recording.renew, ask, bind_assoc]
    rfl
  exact heq ▸ Recording.renewed _ _ _ w

theorem readBack (w : World) :
    (recording vpcId fun _ => bindingId).Reread (query vpcId bindingId) w
      (read vpcId bindingId w).result (read vpcId bindingId w).calls
      (read vpcId bindingId w).world := by
  have heq : read vpcId bindingId =
      (recording vpcId fun _ => bindingId).reread (query vpcId bindingId) := by
    unfold read Recording.reread
    congr 1
    funext recorded
    cases recorded <;> rfl
  exact heq ▸ Recording.rereads _ _ w

theorem deleted (w : World) :
    Discarded .binding (recordId vpcId bindingId)
      (Dns.Settles (Call.deleteBinding vpcId bindingId).purpose (.deleteBinding vpcId bindingId)) w
      (delete vpcId bindingId w).result (delete vpcId bindingId w).calls
      (delete vpcId bindingId w).world :=
  discarded (Dns.settles_still _ _) w

end Binding

/-! ## Placement groups -/

namespace PlacementGroup

variable (groupId : Json)

/-- How placement groups are recorded. -/
def recording : Recording PlacementGroup where
  kind := .placementGroup
  id g := .str g.id
  toJson := toJson

/-- How a placement group is read back. -/
def query : Recording.Query PlacementGroup where
  recorded := groupId
  known := groupId
  check := check .data
  call := .getGroup groupId
  read := ofAnswer

/-- The call that creates a placement group. -/
def creation (q : Request) : Call :=
  .createGroup (.str q.strategy.name) (.ofOption q.name) (.ofOption q.resourceGroup)

theorem created (q : Request) (w : World) :
    recording.Renewed (creation q) ofAnswer w (create q w).result (create q w).calls
      (create q w).world := by
  have heq : create q = recording.renew (creation q) ofAnswer := by
    simp only [create, Recording.renew, ask, bind_assoc]
    rfl
  exact heq ▸ Recording.renewed _ _ _ w

theorem renamed (q : Renaming) (w : World) :
    recording.Renewed (.patchGroup groupId q.toJson) ofAnswer w (rename groupId q w).result
      (rename groupId q w).calls (rename groupId q w).world := by
  have heq : rename groupId q = recording.renew (.patchGroup groupId q.toJson) ofAnswer := by
    simp only [rename, Recording.renew, ask, bind_assoc]
    rfl
  exact heq ▸ Recording.renewed _ _ _ w

theorem readBack (w : World) :
    recording.Reread (query groupId) w (read groupId w).result (read groupId w).calls
      (read groupId w).world := by
  have heq : read groupId = recording.reread (query groupId) := by
    simp only [read, Memory.retrieveManaged, Recording.reread, bind_assoc]
    congr 1
    funext recorded
    cases recorded <;> rfl
  exact heq ▸ Recording.rereads _ _ w

/-- Unlike that of a binding, the deletion of a group has to be
answered. -/
theorem deleted (w : World) :
    Discarded .placementGroup groupId (Asked (.deleteGroup groupId) fun _ => .ok ()) w
      (delete groupId w).result (delete groupId w).calls (delete groupId w).world := by
  have heq : delete groupId =
      discard .placementGroup groupId (ask (.deleteGroup groupId) fun _ => .ok ()) := by
    simp only [delete, discard, ask, bind_assoc]
    rfl
  exact heq ▸ discarded (Remote.ask_still _ _) w

end PlacementGroup

end NetSteward
