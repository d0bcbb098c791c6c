import Mathlib.Data.List.Basic
import NetSteward.Proofs.Dns.Scope
/-!
# A patch that is refused

A configuration is brought about by one patch of its VPC, and the binding
that it needs is created before. If the service refuses the patch, the
operation fails with this refusal, whatever comes of its attempt to clean
up: it removes exactly the binding that it created, if it created one, and
leaves the records alone.
-/

namespace NetSteward

namespace Dns

open Remote (Call Exchange Refusal Reply)

variable {calls before after : List Exchange} {u v : String} {j : Json}
variable {w x : World} {d : Desired} {p : State} {op : Operation} {refusal : Refusal}

/-! ## Up to the patch -/

/-- What the calls before a patch come to, with the binding to give up if
the patch is refused. -/
inductive Readied (v : String) : Json → List Exchange → Prop
  /-- No binding was created. -/
  | spared {before : List Exchange} (h : ∀ j, ¬ BindingCreated before v j) :
      Readied v .null before
  /-- A binding was created, and none was removed. -/
  | bound {j : Json} {before : List Exchange} (h : BindingCreated before v j)
      (hunremoved : times .removes before = 0) : Readied v j before

theorem Opened.readied {b : NewBinding} (h : Opened d (.ok b) calls) :
    Readied d.vpcId b.id calls := by
  cases h with
  | unneeded => exact .spared fun _ => not_bindingCreated_nil
  | needed _ hb => exact .bound hb.bindingCreated hb.times_eq

theorem Prepared.readied {t : Transition} (h : Prepared p d (.ok t) calls) :
    Readied d.vpcId t.created calls := by
  cases h with
  | left _ hcalls => exact .spared fun _ => hcalls.not_bindingCreated
  | kept => exact .spared fun _ => not_bindingCreated_nil
  | entered _ _ hb => exact .bound hb.bindingCreated hb.times_eq
  | renamed =>
    refine .spared ?_
    rintro j ⟨hub, name, body, hmem, -⟩
    cases List.mem_singleton.1 hmem

theorem Opened.times_patches {result : Except Failure NewBinding} (h : Opened d result calls) :
    times .patches calls = 0 := Nat.le_zero.1 h.times_le

theorem Prepared.times_patches {result : Except Failure Transition}
    (h : Prepared p d result calls) : times .patches calls = 0 := Nat.le_zero.1 h.times_le

theorem not_patchSent_of_times {reply : Reply} (h : times .patches calls = 0) :
    ¬ PatchSent calls u reply := by
  rintro ⟨patch, hmem⟩
  exact List.countP_eq_zero.1 h _ hmem rfl

/-! ## The operations that fail at the patch -/

/-- **An operation that fails at its patch**: what was readied before the
patch, what the patch came to, and the records as they were. -/
inductive Unapplied (v : String) (w : World) :
    Except Failure State → List Exchange → World → Prop
  | intro {d : Desired} {created : Json} {f : Failure} {before calls : List Exchange} {x : World}
      (hv : d.vpcId = v) (hready : Readied v created before) (hone : times .patches before = 0)
      (hf : Applied d created (.error f) calls) (hx : x.store.records = w.store.records) :
      Unapplied v w (.error f) (before ++ calls) x

/-- If the only patch was answered, none was refused. -/
theorem Applied.not_refused (h : Applied d j (.ok ()) calls) (hbefore : times .patches before = 0)
    (hafter : times .patches after = 0) :
    ¬ PatchSent (before ++ calls ++ after) u (.refused refusal) := by
  simp only [patchSent_append, not_patchSent_of_times hbefore, not_patchSent_of_times hafter,
    false_or, or_false]
  rintro ⟨patch, hmem⟩
  obtain ⟨body, rfl⟩ := h.calls_eq
  cases List.mem_singleton.1 hmem

theorem Created.unapplied_of_refused {result : Except Failure State}
    (h : Created d w result calls x) (hp : PatchSent calls u (.refused refusal)) :
    Unapplied d.vpcId w result calls x := by
  cases h with
  | violating => exact absurd hp not_patchSent_nil
  | unopened _ hf => exact absurd hp (not_patchSent_of_times hf.times_patches)
  | unapplied _ hb hf hu => exact .intro rfl hb.readied hb.times_patches hf hu.records_eq
  | unrealized _ hb ha =>
    rw [← List.append_nil (_ ++ _)] at hp
    exact absurd hp (ha.not_refused hb.times_patches times_nil)
  | applied _ hb ha _ _ h =>
    exact absurd hp (ha.not_refused hb.times_patches (times_of_isReading h.isReading))

theorem Updated.unapplied_of_refused {c : Changes} {result : Except Failure State}
    (h : Updated v c w result calls x) (hp : PatchSent calls u (.refused refusal)) :
    Unapplied v w result calls x := by
  cases h with
  | unfit | violating | unloaded => exact absurd hp not_patchSent_nil
  | unprepared _ hf => exact absurd hp (not_patchSent_of_times hf.times_patches)
  | unapplied hs ht hf hu =>
    exact .intro hs.vpcId_eq (hs.vpcId_eq ▸ ht.readied) ht.times_patches hf hu.records_eq
  | unreplaced _ ht ha hf => exact absurd hp (ha.not_refused ht.times_patches hf.times_eq)
  | applied _ ht ha hr _ h =>
    rw [List.append_assoc] at hp
    refine absurd hp (ha.not_refused ht.times_patches ?_)
    rw [times_append, times_of_isReading h.isReading]
    exact hr.times_eq

/-! ## After the patch -/

/-- **What was done after a patch undoes what was done before it**: a
binding that was created is removed, and is the only one. -/
inductive Undone (v : String) (before after : List Exchange) : Prop
  | nothing (h : ∀ j, ¬ BindingCreated before v j) (hafter : after = [])
  | binding {j : Json} {reply : Reply} (h : BindingCreated before v j)
      (hunremoved : times .removes before = 0)
      (hafter : after = [(.deleteBinding (.str v) j, reply)])

theorem Readied.undone {result : Except Failure Unit} (h : Readied v j before)
    (hid : ∀ k, BindingCreated before v k → k.isGiven = true)
    (hg : GivenUp (.str v) j result after) : Undone v before after := by
  cases h with
  | spared h =>
    rcases hg.calls_eq with ⟨-, hafter⟩ | ⟨hgiven, -⟩
    · exact .nothing h hafter
    · cases hgiven
  | bound h hunremoved =>
    rcases hg.calls_eq with ⟨hnot, -⟩ | ⟨-, reply, hafter⟩
    · rw [hid _ h] at hnot
      cases hnot
    · exact .binding h hunremoved hafter

/-- **A refusal that was rolled back**: the failure tells of the refusal,
what was done before it is undone, and the records are as they were. -/
structure RolledBack (v : String) (refusal : Refusal) (before after : List Exchange)
    (old new : Keyed (Keyed Json)) (result : Except Failure Json) : Prop where
  failed : ∃ f, result = .error f ∧ f.report? =
    some (.refused refusal.status, "Error updating VPC DNS configuration: " ++ refusal.message)
  undone : Undone v before after
  unrecorded : new = old

theorem Unapplied.rolledBack {patch : Json} {result : Except Failure State}
    (h : Unapplied v w result calls x)
    (hcalls : calls = before ++ (.patchVpc (.str v) patch, .refused refusal) :: after)
    (hid : ∀ j, BindingCreated before v j → j.isGiven = true)
    (hreply : ∀ e ∈ after, ∀ reason, e.2 ≠ .disconnected reason) :
    RolledBack v refusal before after w.store.records x.store.records
      (result.map State.toJson) := by
  obtain @⟨d, created, f, ready, rest, x, hv, hready, hone, hf, hx⟩ := h
  subst hv
  -- There is one patch, so the calls around it are the same.
  have unique : ∀ {answer tail}, rest = (d.patchCall, answer) :: tail →
      times .patches tail = 0 → ready = before ∧ answer = .refused refusal ∧ tail = after := by
    rintro answer tail rfl htail
    have absent : ∀ {l}, times .patches l = 0 →
        ((.patchVpc (.str d.vpcId) patch, .refused refusal) : Exchange) ∉ l := fun hl hmem =>
      not_patchSent_of_times hl ⟨patch, hmem⟩
    obtain ⟨hbefore, hpatch, hafter⟩ :=
      (List.append_cons_inj_of_notMem (absent hone) (absent htail)).1 hcalls
    exact ⟨hbefore, congrArg Prod.snd hpatch, hafter⟩
  cases hf with
  | refused hg =>
    obtain ⟨rfl, hsame, rfl⟩ := unique rfl hg.times_eq
    cases hsame
    exact ⟨⟨_, rfl, rfl⟩, hready.undone hid hg, hx⟩
  | stuck hg =>
    obtain ⟨rfl, -, rfl⟩ := unique rfl hg.times_eq
    -- The cleaning up fails only if the connection does.
    cases hg with
    | cut => exact absurd rfl (hreply _ List.mem_cons_self _)
  | cut =>
    obtain ⟨-, hsame, -⟩ := unique rfl rfl
    cases hsame

/-- **A patch that is refused is rolled back exactly.** The bindings that
were created have identifiers, and the removal of one got a reply, be it a
refusal. -/
theorem refused_patch_rolled_back {patch : Json} (hop : Applies v op)
    (hcalls : (op.run w).calls =
      before ++ (.patchVpc (.str v) patch, .refused refusal) :: after)
    (hid : ∀ j, BindingCreated before v j → j.isGiven = true)
    (hreply : ∀ e ∈ after, ∀ reason, e.2 ≠ .disconnected reason) :
    RolledBack v refusal before after w.store.records (op.run w).world.store.records
      (op.run w).result := by
  have hp : PatchSent (op.run w).calls v (.refused refusal) :=
    ⟨patch, hcalls ▸ List.mem_append_right before List.mem_cons_self⟩
  cases hop with
  | create d hv =>
    subst hv
    rw [Operation.run, Operation.one_apply] at hp hcalls ⊢
    exact ((created d w).unapplied_of_refused hp).rolledBack hcalls hid hreply
  | update c =>
    rw [Operation.run, Operation.one_apply] at hp hcalls ⊢
    exact ((updated v c w).unapplied_of_refused hp).rolledBack hcalls hid hreply

/-- A VPC that is to move to another hub, of which the service takes
neither the patch nor the removal of the new binding. -/
def unmovable : World :=
  spokeWorld [.ok (.obj [("id", .str "b-2"), ("name", .str "to-hub-2")]), failing,
    .refused ⟨.int 409, "in use"⟩]

/-- The move that fails. -/
abbrev unmoved : Outcome Json := (Operation.updateDns (.str "vpc-1") toOtherHub).run unmovable

/-- What is asked for by the move. -/
def otherHub : Desired := ⟨toOtherHub, "vpc-1"⟩

theorem unmoved_calls :
    unmoved.calls =
      [(otherHub.bindingCall, .ok (.obj [("id", .str "b-2"), ("name", .str "to-hub-2")]))] ++
        (.patchVpc (.str "vpc-1") otherHub.patch, .refused ⟨.int 500, "failed"⟩) ::
        [(.deleteBinding (.str "vpc-1") (.str "b-2"), .refused ⟨.int 409, "in use"⟩)] := rfl

theorem refused_patch_rolled_back_unmoved :
    RolledBack "vpc-1" ⟨.int 500, "failed"⟩
      [(otherHub.bindingCall, .ok (.obj [("id", .str "b-2"), ("name", .str "to-hub-2")]))]
      [(.deleteBinding (.str "vpc-1") (.str "b-2"), .refused ⟨.int 409, "in use"⟩)]
      unmovable.store.records unmoved.world.store.records unmoved.result := by
  refine refused_patch_rolled_back (.update toOtherHub) unmoved_calls ?_ ?_
  · rintro j ⟨hub, name, body, hmem, hj⟩
    cases List.mem_singleton.1 hmem
    cases hj
    rfl
  · intro e he reason hcut
    cases List.mem_singleton.1 he
    cases hcut

end Dns

end NetSteward
