import NetSteward.Proofs.Dns.Record
/-!
# How the steps of an operation end

An operation on a DNS configuration is made of a few steps: a binding is
created, given up or renamed, the VPC is patched, the result is recorded
and read back. For each step a relation lists all the ways in which it
can end, with its calls and their replies, and a theorem says that there
is no other. All steps but the last two leave the records alone.
-/

namespace NetSteward

namespace Dns

open Remote (Call Exchange Listed Refusal Reply)

variable {past : List Exchange} {w : World} {d : Desired} {p s : State}

/-! ## Bindings and the patch -/

/-- The call that creates the binding that a configuration needs. -/
def Desired.bindingCall (d : Desired) : Call :=
  .createBinding (.str d.vpcId) d.resolverVpc (.ofOption d.bindingName)

/-- The call that brings the VPC into a configuration. -/
def Desired.patchCall (d : Desired) : Call := .patchVpc (.str d.vpcId) d.patch

/-- The call that gives the binding of a VPC the name that is asked
for. -/
def Desired.renamingCall (d : Desired) (bindingId : Json) : Call :=
  .patchBinding (.str d.vpcId) bindingId (.obj [("name", .ofOption d.bindingName)])

/-- **What comes of the creation of a binding.** -/
inductive Bound (d : Desired) : Except Failure NewBinding → List Exchange → Prop
  /-- The service answers with a binding. -/
  | created {body id name : Json} (hid : body.require "id" = .ok id)
      (hname : body.find "name" = .ok name) :
      Bound d (.ok ⟨id, name⟩) [(d.bindingCall, .ok body)]
  /-- The service answers with something that has no identifier. -/
  | garbled {body : Json} {m : Mismatch} (h : body.require "id" = .error m) :
      Bound d (.error (.unreadable (.shape m))) [(d.bindingCall, .ok body)]
  /-- The service does not answer. -/
  | unanswered {reply : Reply} {f : Failure} (h : reply.result d.bindingCall.purpose = .error f) :
      Bound d (.error f) [(d.bindingCall, reply)]

/-- What has required members has members. -/
theorem find_of_require {j k : Json} {name : String} (h : j.require name = .ok k)
    (other : String) : ∃ found, j.find other = .ok found := by
  cases j with
  | obj members => exact ⟨_, rfl⟩
  | null | bool | int | float | str | arr => cases h

theorem createBinding_still (d : Desired) : d.createBinding.Still (Bound d) := by
  refine .of_ends fun w => ?_
  unfold Desired.createBinding Remote.send
  simp only [Action.ends_bind]
  refine Remote.ends_sendFor (fun body v hv => ?_) (fun r v hv => ⟨.unanswered rfl, hv⟩)
    fun reason v hv => ⟨.unanswered rfl, hv⟩
  refine Action.ends_ofShape (fun id hid => ?_) fun m hm => ⟨.garbled hm, hv⟩
  obtain ⟨name, hname⟩ := find_of_require hid "name"
  simp only [Action.ofShape, hname, shaped_ok, Action.ofRead_ok, Action.ends_pure]
  exact ⟨.created hid hname, hv⟩

/-- **What comes of giving up a binding**, which a refusal does not
stop. -/
inductive GivenUp (vpcId bindingId : Json) : Except Failure Unit → List Exchange → Prop
  /-- There is none. -/
  | spared (h : bindingId.isGiven = false) : GivenUp vpcId bindingId (.ok ()) []
  | answered {body : Json} (h : bindingId.isGiven = true) :
      GivenUp vpcId bindingId (.ok ()) [(.deleteBinding vpcId bindingId, .ok body)]
  | refused {refusal : Refusal} (h : bindingId.isGiven = true) :
      GivenUp vpcId bindingId (.ok ()) [(.deleteBinding vpcId bindingId, .refused refusal)]
  | cut {reason : String} (h : bindingId.isGiven = true) :
      GivenUp vpcId bindingId (.error (.disconnected reason))
        [(.deleteBinding vpcId bindingId, .disconnected reason)]

theorem removeGivenQuietly_still (vpcId bindingId : Json) :
    (removeGivenQuietly vpcId bindingId).Still (GivenUp vpcId bindingId) := by
  refine .of_ends fun w => ?_
  unfold removeGivenQuietly removeBindingQuietly Action.onRefusal Remote.send
  by_cases h : bindingId.isGiven = true
  · rw [if_pos h]
    simp only [Action.ends_recover, Action.ends_bind]
    refine Remote.ends_sendFor (fun body v hv => ?_) (fun r v hv => ?_) fun reason v hv => ?_
    · exact Action.ends_pure.2 ⟨.answered h, hv⟩
    · exact Action.ends_pure.2 ⟨.refused h, hv⟩
    · exact ⟨.cut h, hv⟩
  · rw [if_neg h]
    exact Action.ends_pure.2 ⟨.spared (Bool.eq_false_iff.2 h), .refl w⟩

/-- **What comes of the patch of a VPC**, for which a binding may have
been created. A refusal makes that binding be given up. -/
inductive Applied (d : Desired) (created : Json) : Except Failure Unit → List Exchange → Prop
  | answered {body : Json} : Applied d created (.ok ()) [(d.patchCall, .ok body)]
  | refused {refusal : Refusal} {calls : List Exchange}
      (h : GivenUp (.str d.vpcId) created (.ok ()) calls) :
      Applied d created (.error (.refused patchPurpose refusal))
        ((d.patchCall, .refused refusal) :: calls)
  /-- The patch is refused, and the binding is not given up either. -/
  | stuck {refusal : Refusal} {f : Failure} {calls : List Exchange}
      (h : GivenUp (.str d.vpcId) created (.error f) calls) :
      Applied d created (.error f) ((d.patchCall, .refused refusal) :: calls)
  | cut {reason : String} :
      Applied d created (.error (.disconnected reason)) [(d.patchCall, .disconnected reason)]

theorem applyOrRollBack_still (d : Desired) (created : Json) :
    (d.applyOrRollBack created).Still (Applied d created) := by
  refine .of_ends fun w => ?_
  unfold Desired.applyOrRollBack Desired.apply Action.afterRefusal
  simp only [Action.ends_recover, Action.ends_bind, Action.ends_pure]
  refine Remote.ends_sendFor (fun body v hv => ⟨.answered, hv⟩) (fun r v hv => ?_)
    fun reason v hv => ⟨.cut, hv⟩
  refine Action.ends_bind.2 ((removeGivenQuietly_still _ _).ends (fun _ calls u h hu => ?_)
    fun f calls u h hu => ⟨.stuck h, hv.still hu⟩)
  exact Action.ends_fail.2 ⟨.refused h, hv.still hu⟩

/-! ## The bindings before a change -/

/-- Whether a change makes the VPC stop delegating. -/
def leaves (p : State) (d : Desired) : Bool := typeChanged p d && p.isDelegated

/-- Whether a change to a delegated resolver needs a new binding. -/
def enters (p : State) (d : Desired) : Bool := typeChanged p d || targetChanged p d

/-- A VPC that stops delegating does not go on to delegate. -/
theorem ne_delegated_of_leaves (h : leaves p d = true) : d.resolverType ≠ .delegated := by
  intro hd
  obtain ⟨hchanged, hp⟩ := Bool.and_eq_true_iff.1 h
  rw [State.isDelegated] at hp
  rw [typeChanged, hd, hp] at hchanged
  cases hchanged

/-- **How the bindings of a VPC are prepared for a change**, from the
state that is recorded. -/
inductive Prepared (p : State) (d : Desired) : Except Failure Transition → List Exchange → Prop
  /-- The VPC stops delegating, and its binding was given up. -/
  | left {calls : List Exchange} (h : leaves p d = true)
      (hcalls : GivenUp (.str d.vpcId) p.bindingId (.ok ()) calls) :
      Prepared p d (.ok ⟨.null, .null, .null, .null⟩) calls
  /-- The VPC was to stop delegating. -/
  | unleft {f : Failure} {calls : List Exchange} (h : leaves p d = true)
      (hcalls : GivenUp (.str d.vpcId) p.bindingId (.error f) calls) :
      Prepared p d (.error f) calls
  /-- What binding there is stays as it is. -/
  | kept (h : leaves p d = false)
      (hd : d.resolverType = .delegated →
        enters p d = false ∧ isRenamed d ⟨p.bindingId, p.bindingName⟩ = false) :
      Prepared p d (.ok ⟨p.bindingId, p.bindingName, .null, .null⟩) []
  /-- The VPC starts to delegate, or to another VPC, through a new
  binding. -/
  | entered {b : NewBinding} {calls : List Exchange} (hd : d.resolverType = .delegated)
      (h : enters p d = true) (hb : Bound d (.ok b) calls) :
      Prepared p d (.ok ⟨b.id, b.name, b.id, p.bindingId⟩) calls
  /-- A new binding was needed. -/
  | unentered {f : Failure} {calls : List Exchange} (hd : d.resolverType = .delegated)
      (h : enters p d = true) (hf : Bound d (.error f) calls) : Prepared p d (.error f) calls
  /-- The binding goes on under another name. -/
  | renamed {body : Json} (hd : d.resolverType = .delegated) (he : enters p d = false)
      (h : isRenamed d ⟨p.bindingId, p.bindingName⟩ = true) :
      Prepared p d (.ok ⟨p.bindingId, .ofOption d.bindingName, .null, .null⟩)
        [(d.renamingCall p.bindingId, .ok body)]
  /-- The binding was to get another name. -/
  | unrenamed {reply : Reply} {f : Failure} (hd : d.resolverType = .delegated)
      (he : enters p d = false) (h : isRenamed d ⟨p.bindingId, p.bindingName⟩ = true)
      (hf : reply.result (d.renamingCall p.bindingId).purpose = .error f) :
      Prepared p d (.error f) [(d.renamingCall p.bindingId, reply)]

/-- Only a binding that there is gets another name. -/
theorem isGiven_of_isRenamed {held : NewBinding} (h : isRenamed d held = true) :
    held.id.isGiven = true := by
  rw [isRenamed, Bool.and_assoc] at h
  exact (Bool.and_eq_true_iff.1 h).1

/-- Preparing the bindings of a VPC that goes on with the one it has. -/
theorem enter_still (h : leaves p d = false) :
    (enter p d ⟨p.bindingId, p.bindingName⟩).Still (Prepared p d) := by
  refine .of_ends fun w => ?_
  unfold enter
  by_cases hd : d.resolverType = .delegated
  · rw [if_pos hd]
    by_cases he : enters p d = true
    · rw [if_pos (show (typeChanged p d || targetChanged p d) = true from he)]
      refine Action.ends_bind.2 ((createBinding_still d).ends (fun b calls v hb hv => ?_)
        fun f calls v hf hv => ⟨.unentered hd he hf, hv⟩)
      exact Action.ends_pure.2 ⟨.entered hd he hb, hv⟩
    · have he' : enters p d = false := Bool.eq_false_iff.2 he
      rw [if_neg (show ¬(typeChanged p d || targetChanged p d) = true from he)]
      by_cases hr : isRenamed d ⟨p.bindingId, p.bindingName⟩ = true
      · rw [if_pos hr]
        refine Action.ends_bind.2 (Remote.ends_sendFor (fun body v hv => ?_)
          (fun r v hv => ⟨.unrenamed hd he' hr rfl, hv⟩)
          fun reason v hv => ⟨.unrenamed hd he' hr rfl, hv⟩)
        exact Action.ends_pure.2 ⟨.renamed hd he' hr, hv⟩
      · rw [if_neg hr]
        exact Action.ends_pure.2 ⟨.kept h fun _ => ⟨he', Bool.eq_false_iff.2 hr⟩, .refl w⟩
  · rw [if_neg hd]
    exact Action.ends_pure.2 ⟨.kept h fun hd' => absurd hd' hd, .refl w⟩

theorem prepare_still (p : State) (d : Desired) :
    (leave p d >>= enter p d).Still (Prepared p d) := by
  refine .of_ends fun w => ?_
  unfold leave
  by_cases h : leaves p d = true
  · rw [if_pos (show (typeChanged p d && p.isDelegated) = true from h)]
    simp only [Action.ends_bind]
    refine (removeGivenQuietly_still _ _).ends (fun _ calls v hcalls hv => ?_)
      fun f calls v hcalls hv => ⟨.unleft h hcalls, hv⟩
    -- A VPC that stops delegating prepares nothing else.
    rw [Action.ends_pure, enter, if_neg (ne_delegated_of_leaves h)]
    exact Action.ends_pure.2 ⟨.left h hcalls, hv⟩
  · rw [if_neg (show ¬(typeChanged p d && p.isDelegated) = true from h), pure_bind]
    exact (enter_still (Bool.eq_false_iff.2 h)).ends (fun t calls v ht hv => ⟨ht, hv⟩)
      fun f calls v hf hv => ⟨hf, hv⟩

/-! ## Reading back -/

/-- A state overlaid with what the service says of its VPC. -/
def State.overlaid (s : State) (body : Json) : Read State := do
  let dns ← shaped (body.find "dns")
  s.project dns.orEmpty

/-- What a state is overlaid with leaves its VPC and its binding alone. -/
theorem State.kept_of_overlaid {body : Json} (h : p.overlaid body = .ok s) :
    s.id = p.id ∧ s.vpcId = p.vpcId ∧ s.bindingName = p.bindingName ∧
      s.bindingId = p.bindingId := by
  obtain ⟨dns, -, h⟩ := bind_eq_ok_iff.1 h
  simp only [State.project, bind_eq_ok_iff] at h
  obtain ⟨resolver, -, type, -, given, -, listed, -, servers, -, h⟩ := h
  obtain ⟨vpc, -, hub, -, count, -, vpcId, -, vpcCrn, -, h⟩ := h
  cases h
  exact ⟨rfl, rfl, rfl, rfl⟩

/-- **How the name of a binding is looked up** for a state. -/
inductive Named (s : State) : Except Failure State → List Exchange → Prop
  /-- The state does not delegate through a binding. -/
  | unasked (h : (s.isDelegated && s.hasBinding) = false) : Named s (.ok s) []
  /-- The bindings were listed. -/
  | listed {bindings : List Json} {name : Json} {calls : List Exchange}
      (h : (s.isDelegated && s.hasBinding) = true)
      (hcalls : ∀ e ∈ calls, e.1.Lists (.bindings (.str s.vpcId)))
      (hlisted : Listed (.bindings (.str s.vpcId)) calls bindings)
      (hname : nameOfBinding s.bindingId bindings = .ok name) :
      Named s (.ok (if name.isGiven then { s with bindingName := name } else s)) calls
  /-- The bindings could not be listed, for which there is no name. -/
  | unlisted {calls : List Exchange} (h : (s.isDelegated && s.hasBinding) = true)
      (hcalls : ∀ e ∈ calls, e.1.Lists (.bindings (.str s.vpcId))) : Named s (.ok s) calls
  | broken {f : Failure} {calls : List Exchange} (h : (s.isDelegated && s.hasBinding) = true)
      (hcalls : ∀ e ∈ calls, e.1.Lists (.bindings (.str s.vpcId))) (hf : f.isOfExchange = true) :
      Named s (.error f) calls

theorem withBindingName_still (s : State) : s.withBindingName.Still (Named s) := by
  refine .of_ends fun w => ?_
  unfold State.withBindingName lookUpBindingName Action.onRefusal
  by_cases h : (s.isDelegated && s.hasBinding) = true
  · rw [if_pos h]
    simp only [Action.ends_bind, Action.ends_recover, Action.ends_map, Action.ends_pure]
    refine Remote.ends_listAll (fun bindings calls v hcalls hlisted hv => ?_)
      fun f calls v hf hcalls hv => ?_
    · exact Action.ends_ofShape (fun name hname => ⟨.listed h hcalls hlisted hname, hv⟩)
        fun m hm => ⟨.broken h hcalls rfl, hv⟩
    · cases f with
      | refused purpose refusal =>
        exact Action.ends_pure.2 (Action.ends_pure.2 ⟨.unlisted h hcalls, hv⟩)
      | disconnected | unreadable => exact ⟨.broken h hcalls rfl, hv⟩
      | violation | unlinked | gone | store => cases hf
  · rw [if_neg h]
    exact Action.ends_pure.2 ⟨.unasked (Bool.eq_false_iff.2 h), .refl w⟩

end Dns

end NetSteward
