import NetSteward.Proofs.Dns.Stale
/-!
# How far an operation reaches

A VPC may have bindings that others look after. An operation on its
configuration speaks to the service about this VPC alone, creates at most
one binding, patches the VPC at most once and removes at most one binding:
the recorded one or the one that it created itself. All this is read off
the steps that it is made of, however it ends.
-/

namespace NetSteward

namespace Dns

open Remote (Call Exchange Reply)

variable {calls more : List Exchange} {u v : String} {j k : Json}
variable {w x : World} {d : Desired} {p s : State} {op : Operation}

/-! ## How often -/

/-- What a call can do to a VPC. -/
inductive Deed
  | binds
  | patches
  | removes
deriving DecidableEq

/-- Whether a call does it. -/
def Deed.isDoneBy : Deed → Call → Bool
  | binds, .createBinding _ _ _ => true
  | patches, .patchVpc _ _ => true
  | removes, .deleteBinding _ _ => true
  | _, _ => false

/-- How often some calls do it. -/
def times (a : Deed) (calls : List Exchange) : Nat := calls.countP fun e => a.isDoneBy e.1

variable {a : Deed}

@[simp] theorem times_nil : times a [] = 0 := rfl

@[simp] theorem times_cons {e : Exchange} :
    times a (e :: calls) = times a calls + if a.isDoneBy e.1 then 1 else 0 := by
  rw [times, times, List.countP_cons]

@[simp] theorem times_append : times a (calls ++ more) = times a calls + times a more :=
  List.countP_append

/-! What is done once at most by some calls, and by others once at most if it
is another deed, is done once at most by both. -/

theorem ite_one_zero_le {p : Prop} [Decidable p] : (if p then 1 else 0) ≤ 1 := by
  split <;> decide

theorem ite_le_ite_of_ne {b c : Deed} (h : c ≠ b) :
    (if a = c then 1 else 0) ≤ if a = b then 0 else 1 := by
  by_cases hc : a = c
  · rw [if_neg fun hb => h (hc.symm.trans hb)]
    exact ite_one_zero_le
  · rw [if_neg hc]
    exact Nat.zero_le _

theorem add_le_one_of_deeds {b : Deed} {m n : Nat} (hm : m ≤ if a = b then 1 else 0)
    (hn : n ≤ if a = b then 0 else 1) : m + n ≤ 1 := by
  by_cases hb : a = b
  · rw [if_pos hb] at hm hn
    omega
  · rw [if_neg hb] at hm hn
    omega

theorem Bound.times_eq {result : Except Failure NewBinding} (h : Bound d result calls) :
    times a calls = if a = .binds then 1 else 0 := by
  obtain ⟨reply, rfl⟩ := h.calls_eq
  cases a <;> rfl

/-- What is given up is removed once if it is given. -/
theorem GivenUp.times_eq {result : Except Failure Unit} (h : GivenUp (.str v) k result calls) :
    times a calls = if a = .removes ∧ k.isGiven = true then 1 else 0 := by
  rcases h.calls_eq with ⟨hk, rfl⟩ | ⟨hk, reply, rfl⟩ <;> cases a <;> simp [hk, Deed.isDoneBy]

/-- A patch creates nothing. -/
theorem Applied.times_le {result : Except Failure Unit} (h : Applied d k result calls) :
    times a calls ≤ if a = .binds then 0 else 1 := by
  cases h with
  | answered | cut => cases a <;> simp [Desired.patchCall, Deed.isDoneBy]
  | refused h | stuck h =>
    rw [times_cons, h.times_eq]
    cases a with
    | binds => exact Nat.le_refl _
    | patches => exact Nat.le_refl _
    | removes => exact ite_one_zero_le

/-- A patch for which no binding was created removes none. -/
theorem Applied.times_removes {result : Except Failure Unit} (h : Applied d .null result calls) :
    times .removes calls = 0 := by
  cases h with
  | answered | cut => rfl
  | refused h | stuck h => rw [times_cons, h.times_eq]; rfl

theorem Applied.times_of_ok (h : Applied d k (.ok ()) calls) :
    times a calls = if a = .patches then 1 else 0 := by
  obtain ⟨body, rfl⟩ := h.calls_eq
  cases a <;> rfl

theorem Opened.times_le {result : Except Failure NewBinding} (h : Opened d result calls) :
    times a calls ≤ if a = .binds then 1 else 0 := by
  cases h with
  | unneeded => exact Nat.zero_le _
  | needed _ hb => exact Nat.le_of_eq hb.times_eq

/-- Preparing a change patches nothing. -/
theorem Prepared.times_le {result : Except Failure Transition} (h : Prepared p d result calls) :
    times a calls ≤ if a = .patches then 0 else 1 := by
  cases h with
  | left _ hcalls | unleft _ hcalls =>
    rw [hcalls.times_eq]
    cases a with
    | binds => exact Nat.zero_le _
    | patches => exact Nat.le_refl _
    | removes => exact ite_one_zero_le
  | kept => exact Nat.zero_le _
  | entered _ _ hb | unentered _ _ hb => rw [hb.times_eq]; cases a <;> decide
  | renamed | unrenamed => cases a <;> simp [Desired.renamingCall, Deed.isDoneBy]

/-- Once a binding was removed, there is none to give up later. -/
theorem Prepared.unremoved_or_settled {t : Transition} (h : Prepared p d (.ok t) calls) :
    times .removes calls = 0 ∨ t.created = .null ∧ t.replaced = .null := by
  cases h with
  | left | kept | renamed => exact .inr ⟨rfl, rfl⟩
  | entered _ _ hb => exact .inl hb.times_eq

theorem times_of_isReading (h : ∀ e ∈ calls, IsReading v e.1) : times a calls = 0 := by
  refine List.countP_eq_zero.2 fun e he => ?_
  rcases h e he with heq | ⟨start, limit, heq⟩ <;> rw [heq] <;> cases a <;>
    exact Bool.false_ne_true

theorem Settles.times_eq {purpose : String} {call : Call} {result : Except Failure Unit}
    (h : Settles purpose call result calls) :
    times a calls = if a.isDoneBy call then 1 else 0 := by
  obtain ⟨reply, rfl⟩ := h.mem
  simp

theorem Removed.times_le {result : Except Failure Unit} (h : Removed v k result calls) :
    times a calls ≤ if a = .removes then 1 else 0 := by
  cases h with
  | spared => exact Nat.zero_le _
  | sent _ hs => rw [hs.times_eq]; cases a <;> simp [Deed.isDoneBy]

theorem Reset.times_eq {result : Except Failure Unit} (h : Reset v result calls) :
    times a calls = if a = .patches then 1 else 0 := by
  rw [Settles.times_eq h]
  cases a <;> rfl

/-- Calls that create, patch and remove at most once each. -/
def Once (calls : List Exchange) : Prop := ∀ a, times a calls ≤ 1

theorem Created.once {result : Except Failure State} (h : Created d w result calls x) :
    Once calls := by
  intro a
  cases h with
  | violating => exact Nat.zero_le _
  | unopened _ hf => exact Nat.le_trans hf.times_le ite_one_zero_le
  | unapplied _ hb hf =>
    rw [times_append]
    exact add_le_one_of_deeds hb.times_le hf.times_le
  | unrealized _ hb ha =>
    rw [times_append, ha.times_of_ok]
    exact add_le_one_of_deeds hb.times_le (ite_le_ite_of_ne (by decide))
  | applied _ hb ha _ _ h =>
    rw [times_append, times_append, times_of_isReading h.isReading, ha.times_of_ok, Nat.add_zero]
    exact add_le_one_of_deeds hb.times_le (ite_le_ite_of_ne (by decide))

/-- A change that is complete removes the binding that it gave up or the
one that it replaced, but not both. -/
theorem Prepared.times_le_of_replaced {t : Transition} {before after : List Exchange}
    {result : Except Failure Unit} (ht : Prepared p d (.ok t) before)
    (ha : Applied d k (.ok ()) calls) (hr : GivenUp (.str v) t.replaced result after) :
    times a (before ++ calls ++ after) ≤ 1 := by
  have hprepared := ht.times_le (a := a)
  rw [times_append, times_append, ha.times_of_ok, hr.times_eq]
  cases a with
  | binds => exact hprepared
  | patches => exact Nat.succ_le_succ hprepared
  | removes =>
    rcases ht.unremoved_or_settled with hnone | ⟨-, hreplaced⟩
    · rw [hnone, if_neg (by decide : Deed.removes ≠ .patches), Nat.zero_add]
      exact ite_one_zero_le
    · rw [hreplaced]
      exact hprepared

theorem Updated.once {c : Changes} {result : Except Failure State}
    (h : Updated v c w result calls x) : Once calls := by
  intro a
  cases h with
  | unfit | violating | unloaded => exact Nat.zero_le _
  | unprepared _ hf =>
    have hprepared := hf.times_le (a := a)
    split at hprepared <;> omega
  | unapplied _ ht hf =>
    have hprepared := ht.times_le (a := a)
    have happlied := hf.times_le (a := a)
    rw [times_append]
    cases a with
    | binds => exact Nat.add_le_add hprepared happlied
    | patches => exact Nat.add_le_add hprepared happlied
    | removes =>
      rcases ht.unremoved_or_settled with hnone | ⟨hcreated, -⟩
      · rw [hnone, Nat.zero_add]
        exact happlied
      · rw [hcreated] at hf
        rw [hf.times_removes]
        exact hprepared
  | unreplaced _ ht ha hf => exact ht.times_le_of_replaced ha hf
  | applied _ ht ha hr _ h =>
    rw [times_append, times_of_isReading h.isReading]
    exact ht.times_le_of_replaced ha hr

theorem ReadBack.once {result : Except Failure State} (h : ReadBack v w result calls x) :
    Once calls := by
  intro a
  cases h with
  | unloaded => exact Nat.zero_le _
  | loaded _ _ h => rw [times_of_isReading h.isReading]; exact Nat.zero_le _

theorem Adopted.once {result : Except Failure State} (h : Adopted v w result calls x) :
    Once calls := by
  intro a
  rw [times_of_isReading h.isReading]
  exact Nat.zero_le _

theorem Deleted.once {result : Except Failure Bool} (h : Deleted v w result calls x) :
    Once calls := by
  intro a
  cases h with
  | unmanaged | unread => exact Nat.zero_le _
  | unremoved _ hf => exact Nat.le_trans (Removed.times_le hf) ite_one_zero_le
  | unreset _ hr hreset | unforgotten _ hr hreset | forgotten _ hr hreset =>
    rw [times_append, Reset.times_eq hreset]
    exact add_le_one_of_deeds (Removed.times_le hr) (ite_le_ite_of_ne (by decide))

/-! ## Of which VPC -/

/-- A call whose first argument is a VPC. -/
def IsAbout (v : String) (e : Exchange) : Prop := e.1.arguments.head? = some (.str v)

theorem Bound.isAbout {result : Except Failure NewBinding} (h : Bound d result calls) :
    ∀ e ∈ calls, IsAbout d.vpcId e := by
  obtain ⟨reply, rfl⟩ := h.calls_eq
  exact List.forall_mem_singleton.2 rfl

theorem GivenUp.isAbout {result : Except Failure Unit} (h : GivenUp (.str v) k result calls) :
    ∀ e ∈ calls, IsAbout v e := by
  rcases h.calls_eq with ⟨-, rfl⟩ | ⟨-, reply, rfl⟩
  · exact List.forall_mem_nil _
  · exact List.forall_mem_singleton.2 rfl

theorem Applied.isAbout {result : Except Failure Unit} (h : Applied d k result calls) :
    ∀ e ∈ calls, IsAbout d.vpcId e := by
  cases h with
  | answered | cut => exact List.forall_mem_singleton.2 rfl
  | refused h | stuck h => exact List.forall_mem_cons.2 ⟨rfl, h.isAbout⟩

theorem Opened.isAbout {result : Except Failure NewBinding} (h : Opened d result calls) :
    ∀ e ∈ calls, IsAbout d.vpcId e := by
  cases h with
  | unneeded => exact List.forall_mem_nil _
  | needed _ hb => exact hb.isAbout

theorem Prepared.isAbout {result : Except Failure Transition} (h : Prepared p d result calls) :
    ∀ e ∈ calls, IsAbout d.vpcId e := by
  cases h with
  | left _ hcalls | unleft _ hcalls => exact hcalls.isAbout
  | kept => exact List.forall_mem_nil _
  | entered _ _ hb | unentered _ _ hb => exact hb.isAbout
  | renamed | unrenamed => exact List.forall_mem_singleton.2 rfl

theorem isAbout_of_isReading (h : ∀ e ∈ calls, IsReading v e.1) : ∀ e ∈ calls, IsAbout v e := by
  intro e he
  rcases h e he with heq | ⟨start, limit, heq⟩ <;> rw [IsAbout, heq] <;> rfl

theorem Settles.isAbout {purpose : String} {call : Call} {result : Except Failure Unit}
    (h : Settles purpose call result calls) (hcall : call.arguments.head? = some (.str v)) :
    ∀ e ∈ calls, IsAbout v e := by
  obtain ⟨reply, rfl⟩ := h.mem
  exact List.forall_mem_singleton.2 hcall

theorem Removed.isAbout {result : Except Failure Unit} (h : Removed v k result calls) :
    ∀ e ∈ calls, IsAbout v e := by
  cases h with
  | spared => exact List.forall_mem_nil _
  | sent _ hs => exact hs.isAbout rfl

theorem Created.isAbout {result : Except Failure State} (h : Created d w result calls x) :
    ∀ e ∈ calls, IsAbout d.vpcId e := by
  cases h with
  | violating => exact List.forall_mem_nil _
  | unopened _ hf => exact hf.isAbout
  | unapplied _ hb hf => exact List.forall_mem_append.2 ⟨hb.isAbout, hf.isAbout⟩
  | unrealized _ hb ha => exact List.forall_mem_append.2 ⟨hb.isAbout, ha.isAbout⟩
  | applied _ hb ha hs _ h =>
    have hread := h.isReading
    rw [(Desired.kept_of_realized hs).1] at hread
    exact List.forall_mem_append.2
      ⟨List.forall_mem_append.2 ⟨hb.isAbout, ha.isAbout⟩, isAbout_of_isReading hread⟩

theorem Updated.isAbout {c : Changes} {result : Except Failure State}
    (h : Updated v c w result calls x) (hown : ∀ p, Loads w.store.records v p → p.vpcId = v) :
    ∀ e ∈ calls, IsAbout v e := by
  have prepared : ∀ {d p r before}, Started v c w d p → Prepared p d r before →
      ∀ e ∈ before, IsAbout v e := fun hs ht => hs.vpcId_eq ▸ ht.isAbout
  have applied : ∀ {d p k r calls}, Started v c w d p → Applied d k r calls →
      ∀ e ∈ calls, IsAbout v e := fun hs ha => hs.vpcId_eq ▸ ha.isAbout
  cases h with
  | unfit | violating | unloaded => exact List.forall_mem_nil _
  | unprepared hs hf => exact prepared hs hf
  | unapplied hs ht hf => exact List.forall_mem_append.2 ⟨prepared hs ht, applied hs hf⟩
  | unreplaced hs ht ha hf =>
    exact List.forall_mem_append.2
      ⟨List.forall_mem_append.2 ⟨prepared hs ht, applied hs ha⟩, hf.isAbout⟩
  | @applied _ p t _ _ _ _ _ _ _ hs ht ha hr _ h =>
    -- The VPC that is read back is the one of the recorded state.
    have hvpc : (p.changed c t).vpcId = v := hown p hs.loads
    have hread := hvpc ▸ h.isReading
    exact List.forall_mem_append.2 ⟨List.forall_mem_append.2
      ⟨List.forall_mem_append.2 ⟨prepared hs ht, applied hs ha⟩, hr.isAbout⟩,
      isAbout_of_isReading hread⟩

theorem ReadBack.isAbout {result : Except Failure State} (h : ReadBack v w result calls x)
    (hown : ∀ p, Loads w.store.records v p → p.vpcId = v) : ∀ e ∈ calls, IsAbout v e := by
  cases h with
  | unloaded => exact List.forall_mem_nil _
  | loaded hp _ h => exact isAbout_of_isReading (hown _ hp ▸ h.isReading)

theorem Deleted.isAbout {result : Except Failure Bool} (h : Deleted v w result calls x) :
    ∀ e ∈ calls, IsAbout v e := by
  cases h with
  | unmanaged | unread => exact List.forall_mem_nil _
  | unremoved _ hf => exact hf.isAbout
  | unreset _ hr hreset | unforgotten _ hr hreset | forgotten _ hr hreset =>
    exact List.forall_mem_append.2 ⟨hr.isAbout, hreset.isAbout rfl⟩

/-! ## Whose binding -/

/-- The operations on the configuration of a VPC. -/
inductive Concerns (v : String) : Operation → Prop
  | managed {op : Operation} (h : Manages v op) : Concerns v op
  | adopt : Concerns v (.importDns (.str v))

/-- **Calls that stay within what an operation on a VPC may touch**: its
own VPC, once for each deed, and of bindings only the recorded one and the
one that was created along the way. -/
structure StaysWithin (v : String) (recorded : Option Json) (calls : List Exchange) : Prop where
  about : ∀ e ∈ calls, IsAbout v e
  once : Once calls
  owned : ∀ u j reply, (Call.deleteBinding u j, reply) ∈ calls →
    u = .str v ∧ (recorded = some j ∨ BindingCreated calls v j)

/-- Which bindings are removed need only be known for the VPC that the
calls are about. -/
theorem StaysWithin.of_removalSent {recorded : Option Json} (about : ∀ e ∈ calls, IsAbout v e)
    (once : Once calls)
    (owned : ∀ j, RemovalSent calls v j → recorded = some j ∨ BindingCreated calls v j) :
    StaysWithin v recorded calls := by
  refine ⟨about, once, fun u j reply hmem => ?_⟩
  have hu : u = .str v := Option.some.inj (about _ hmem)
  subst hu
  exact ⟨rfl, owned j ⟨reply, hmem⟩⟩

theorem Managed.staysWithin {result : Except Failure Json} (h : Managed v w op result calls x)
    (hown : ∀ p, Loads w.store.records v p → p.vpcId = v) :
    StaysWithin v (recordedBinding? w.store.records v) calls := by
  refine .of_removalSent ?_ ?_ fun j hs => h.recorded_or_created hs
  · cases h with
    | create hv h => exact hv ▸ h.isAbout
    | update h => exact h.isAbout hown
    | read h => exact h.isAbout hown
    | delete h => exact h.isAbout
  · cases h with
    | create _ h => exact h.once
    | update h => exact h.once
    | read h => exact h.once
    | delete h => exact h.once

theorem Adopted.staysWithin {result : Except Failure State} (h : Adopted v w result calls x) :
    StaysWithin v (recordedBinding? w.store.records v) calls :=
  .of_removalSent (isAbout_of_isReading h.isReading) h.once
    fun _ hs => absurd hs (inert_of_isReading h.isReading).2.1

/-- **An operation keeps to its own VPC and to its own bindings**, however
it ends, if the record of the VPC is one of this VPC. -/
theorem operation_stays_within (hop : Concerns v op)
    (hown : ∀ p, Loads w.store.records v p → p.vpcId = v) :
    StaysWithin v (recordedBinding? w.store.records v) (op.run w).calls := by
  cases hop with
  | managed h => exact (Dns.managed h w).staysWithin hown
  | adopt =>
    rw [Operation.run, Operation.one_apply]
    exact (adopted v w).staysWithin

/-- What the service shows of a VPC that delegates to another hub. -/
def movedVpc : Json :=
  .obj [("dns", .obj [("enable_hub", .bool false),
    ("resolver", .obj [("type", .str "delegated"), ("vpc", .obj [("id", .str "hub-2")])])])]

/-- A VPC that delegates moves to another hub, for which it gets a new
binding in place of the old one. -/
def moving : World :=
  spokeWorld [.ok (.obj [("id", .str "b-2"), ("name", .str "to-hub-2")]), .ok .null, .ok .null,
    .ok movedVpc, .ok (bindingsPage [])]

/-- The change to the other hub. -/
def toOtherHub : Changes := { delegating.toChanges with resolverVpcId := some "hub-2" }

theorem operation_stays_within_moving :
    (∀ p, Loads moving.store.records "vpc-1" p → p.vpcId = "vpc-1") ∧
      StaysWithin "vpc-1" (recordedBinding? moving.store.records "vpc-1")
        ((Operation.updateDns (.str "vpc-1") toOtherHub).run moving).calls := by
  have hown : ∀ p, Loads moving.store.records "vpc-1" p → p.vpcId = "vpc-1" := by
    intro p hp
    rw [hp.unique (s := spoke) ⟨_, rfl, rfl⟩]
    rfl
  exact ⟨hown, operation_stays_within (.managed (.update toOtherHub)) hown⟩

/-- The change creates one binding and removes the one that it replaces. -/
example : ((Operation.updateDns (.str "vpc-1") toOtherHub).run moving).calls.map (·.1) =
    [.createBinding (.str "vpc-1") (.obj [("id", .str "hub-2")]) .null,
      .patchVpc (.str "vpc-1") (Desired.patch ⟨toOtherHub, "vpc-1"⟩),
      .deleteBinding (.str "vpc-1") (.str "b-1"), .getVpc (.str "vpc-1"),
      .list (bindingsOf "vpc-1") none (.int 50)] := rfl

end Dns

end NetSteward
