import NetSteward.Operation
import NetSteward.Proofs.Dns.Step
import NetSteward.Proofs.Schema.Field
/-!
# How operations on DNS configurations end

For each operation a relation lists all the ways in which it can end:
with its result, with its calls and their replies in order, and with the
records that it leaves. A theorem for each says that there is no other.
What is claimed of an operation is then read off the list, whatever the
service and the state table do.
-/

namespace NetSteward

/-- An operation with one value ends as its action does. -/
theorem Operation.one_apply {α : Type} (toJson : α → Json) (x : Action α) (w : World) :
    Operation.one toJson x w = ⟨(x w).result.map toJson, (x w).events, (x w).world⟩ :=
  Action.map_apply toJson x w

/-- So does one that yields nothing. -/
theorem Operation.nothing_apply (x : Action Unit) (w : World) :
    Operation.nothing x w = ⟨(x w).result.map fun _ => .null, (x w).events, (x w).world⟩ :=
  Action.map_apply _ x w

namespace Dns

open Remote (Call Exchange Listed Refusal Reply Walked)

variable {past : List Exchange} {w : World} {d : Desired} {p s : State}

/-! ## Reading back -/

/-- **What reading a VPC back comes to**, starting from a state. -/
inductive Refreshed (p : State) (w : World) :
    Except Failure State → List Exchange → World → Prop
  /-- What the VPC shows was recorded. -/
  | shown {body : Json} {read s : State} {calls : List Exchange} {written : Time.Instant}
      {v : World} (hread : p.overlaid body = .ok read) (hs : Named read (.ok s) calls)
      (hv : w.Leads (w.store.records.insert (keyOf s.vpcId)
        (Memory.record .dnsConfig (.str s.vpcId) s.attributes written)) v) :
      Refreshed p w (.ok s) ((.getVpc (.str p.vpcId), .ok body) :: calls) v
  /-- What the VPC shows could not be recorded. -/
  | unrecorded {body : Json} {read s : State} {calls : List Exchange} {f : Failure} {v : World}
      (hread : p.overlaid body = .ok read) (hs : Named read (.ok s) calls)
      (hf : Memory.Unwritten w s.attributes f) (hv : w.Leads w.store.records v) :
      Refreshed p w (.error f) ((.getVpc (.str p.vpcId), .ok body) :: calls) v
  /-- The name of the binding could not be looked up. -/
  | unnamed {body : Json} {read : State} {calls : List Exchange} {f : Failure} {v : World}
      (hread : p.overlaid body = .ok read) (hf : Named read (.error f) calls)
      (hv : w.Leads w.store.records v) :
      Refreshed p w (.error f) ((.getVpc (.str p.vpcId), .ok body) :: calls) v
  /-- The VPC shows nothing that can be read. -/
  | garbled {body : Json} {cause : Unreadable} {v : World}
      (hread : p.overlaid body = .error cause) (hv : w.Leads w.store.records v) :
      Refreshed p w (.error (.unreadable cause)) [(.getVpc (.str p.vpcId), .ok body)] v
  | refused {refusal : Refusal} {v : World} (h : refusal.isNotFound = false)
      (hv : w.Leads w.store.records v) :
      Refreshed p w (.error (.refused (Call.getVpc (.str p.vpcId)).purpose refusal))
        [(.getVpc (.str p.vpcId), .refused refusal)] v
  | cut {reason : String} {v : World} (hv : w.Leads w.store.records v) :
      Refreshed p w (.error (.disconnected reason))
        [(.getVpc (.str p.vpcId), .disconnected reason)] v
  /-- The VPC no longer exists, and its record was dropped. -/
  | missing {refusal : Refusal} {v : World} (h : refusal.isNotFound = true)
      (hv : w.Leads (w.store.records.erase (keyOf p.vpcId)) v) :
      Refreshed p w (.error (.gone .dnsConfig (.str p.vpcId)))
        [(.getVpc (.str p.vpcId), .refused refusal)] v
  /-- The VPC no longer exists, but its record could not be dropped. -/
  | undropped {refusal : Refusal} {e : Store.TableError} {v : World}
      (h : refusal.isNotFound = true) (hf : w.store.faults ≠ [])
      (hv : w.Leads w.store.records v) :
      Refreshed p w (.error (.store e)) [(.getVpc (.str p.vpcId), .refused refusal)] v

/-- What is read of an answer in two steps is what its state is overlaid
with. -/
theorem ends_overlaid {α : Type} {f : State → Action α}
    {done : α → List Exchange → World → Prop} {failed : Failure → List Exchange → World → Prop}
    {body : Json} (read : ∀ s, p.overlaid body = .ok s → (f s).Ends past w done failed)
    (garbled : ∀ cause, p.overlaid body = .error cause → failed (.unreadable cause) past w) :
    (do
      let dns ← Action.ofShape (body.find "dns")
      let state ← Action.ofRead (p.project dns.orEmpty)
      f state).Ends past w done failed := by
  refine Action.ends_bind.2 (Action.ends_ofShape (fun dns hdns => ?_) fun m hm => ?_)
  · have heq : p.overlaid body = p.project dns.orEmpty := by rw [State.overlaid, hdns]; rfl
    rw [heq] at read garbled
    exact Action.ends_bind.2 (Action.ends_ofRead read garbled)
  · refine garbled _ ?_
    rw [State.overlaid, hm]
    rfl

theorem refreshed (p : State) (w : World) :
    Refreshed p w (refresh p w).result (refresh p w).calls (refresh p w).world := by
  refine (Action.ends_nil_iff (Refreshed p w)).1 ?_
  unfold refresh Action.ifMissing Memory.dropGone Memory.gone Remote.send
  refine Action.ends_bind.2 (Action.ends_recover.2 (Remote.ends_sendFor (fun body v hv => ?_)
    (fun r v hv => ?_) fun reason v hv => .cut hv))
  · refine ends_overlaid (fun read hread => ?_) fun cause hc => .garbled hc hv
    refine Action.ends_bind.2 ((withBindingName_still read).ends (fun s calls u hs hu => ?_)
      fun f calls u hf hu => .unnamed hread hf (hv.still hu))
    refine Action.ends_bind.2 (Memory.ends_remember (fun written t ht => ?_) fun f t hf ht => ?_)
    · have hl := (hv.still hu).trans ht
      rw [(hv.still hu).records_eq] at hl
      exact Action.ends_pure.2 (.shown hread hs hl)
    · exact .unrecorded hread hs (hf.before (hv.still hu)) ((hv.still hu).still ht)
  · by_cases hr : r.isNotFound = true
    · simp only [if_pos hr, Action.ends_bind]
      refine Memory.ends_forget (fun u hu => ?_) fun e u hf hu => ?_
      · have hl := hv.trans hu
        rw [hv.records_eq] at hl
        exact Action.ends_fail.2 (.missing hr hl)
      · exact .undropped hr (hv.faults_eq ▸ hf) (hv.still hu)
    · simp only [if_neg hr]
      exact .refused (Bool.eq_false_iff.2 hr) hv

/-- **How a state is recorded and read back.** -/
inductive Settled (v : String) (s : State) (w : World) :
    Except Failure State → List Exchange → World → Prop
  | unrecorded {f : Failure} {u : World} (hf : Memory.Unwritten w s.attributes f)
      (hu : w.Leads w.store.records u) : Settled v s w (.error f) [] u
  /-- The record was written, whatever the service says of the VPC. -/
  | recorded {result : Except Failure State} {calls : List Exchange} {written : Time.Instant}
      {u t : World} (hu : w.Leads (w.store.records.insert (keyOf v)
        (Memory.record .dnsConfig (.str v) s.attributes written)) u)
      (h : Refreshed s u result calls t) : Settled v s w result calls t

theorem settled (v : String) (s : State) (w : World) :
    let x := do
      Memory.remember .dnsConfig (.str v) s.attributes
      refresh s
    Settled v s w (x w).result (x w).calls (x w).world := by
  refine (Action.ends_nil_iff (Settled v s w)).1 (Action.ends_bind.2 ?_)
  refine Memory.ends_remember (fun written u hu => ?_) fun f u hf hu => .unrecorded hf hu
  exact Action.Ends.of_outcome (Refreshed s u) (refreshed s u)
    (fun _ _ _ h => .recorded hu h) fun _ _ _ h => .recorded hu h

/-- Why the state of a VPC cannot be loaded. -/
inductive Unloaded (v : String) (w : World) : Failure → Prop
  | unmanaged (h : w.store.records.get? (keyOf v) = none) :
      Unloaded v w (.gone .dnsConfig (.str v))
  | unread {f : Failure} (h : Memory.Unread (State.check .data) w (keyOf v) f) : Unloaded v w f

theorem ends_retrieveManaged {v : String} {done : State → List Exchange → World → Prop}
    {failed : Failure → List Exchange → World → Prop}
    (loaded : ∀ p u, Loads w.store.records v p → w.Leads w.store.records u → done p past u)
    (unloaded : ∀ f u, Unloaded v w f → w.Leads w.store.records u → failed f past u) :
    (Memory.retrieveManaged .dnsConfig (.str v) (State.check .data)).Ends past w done failed := by
  unfold Memory.retrieveManaged Memory.gone
  refine Action.ends_bind.2 (Memory.ends_retrieve (fun u habsent hu => ?_)
    (fun record p u hrecord hp hu => ?_) fun f u hf hu => unloaded f u (.unread hf) hu)
  · exact Action.ends_fail.2 (unloaded _ u (.unmanaged habsent) hu)
  · exact Action.ends_pure.2 (loaded p u ⟨record, hrecord, hp⟩ hu)

/-- **What reading a configuration back comes to.** -/
inductive ReadBack (v : String) (w : World) : Except Failure State → List Exchange → World → Prop
  | unloaded {f : Failure} {u : World} (hf : Unloaded v w f) (hu : w.Leads w.store.records u) :
      ReadBack v w (.error f) [] u
  | loaded {p : State} {result : Except Failure State} {calls : List Exchange} {u t : World}
      (hp : Loads w.store.records v p) (hu : w.Leads w.store.records u)
      (h : Refreshed p u result calls t) : ReadBack v w result calls t

theorem readBack (v : String) (w : World) :
    ReadBack v w (read (.str v) w).result (read (.str v) w).calls (read (.str v) w).world := by
  refine (Action.ends_nil_iff (ReadBack v w)).1 ?_
  unfold read
  refine Action.ends_bind.2 (ends_retrieveManaged (fun p u hp hu => ?_)
    fun f u hf hu => .unloaded hf hu)
  exact Action.Ends.of_outcome (Refreshed p u) (refreshed p u)
    (fun _ _ _ h => .loaded hp hu h) fun _ _ _ h => .loaded hp hu h

/-! ## Creating -/

/-- The binding through which a configuration that is created
delegates. -/
inductive Opened (d : Desired) : Except Failure NewBinding → List Exchange → Prop
  | unneeded (h : d.resolverType ≠ .delegated) : Opened d (.ok ⟨.null, .null⟩) []
  | needed {result : Except Failure NewBinding} {calls : List Exchange}
      (h : d.resolverType = .delegated) (hb : Bound d result calls) : Opened d result calls

/-- **What creating a configuration comes to.** -/
inductive Created (d : Desired) (w : World) :
    Except Failure State → List Exchange → World → Prop
  | violating {violation : Violation} (h : d.violation? = some violation) :
      Created d w (.error (.violation violation)) [] w
  /-- The binding that it needs was not created. -/
  | unopened {f : Failure} {calls : List Exchange} {u : World} (hvalid : d.violation? = none)
      (hf : Opened d (.error f) calls) (hu : w.Leads w.store.records u) :
      Created d w (.error f) calls u
  /-- The patch was not answered. -/
  | unapplied {b : NewBinding} {f : Failure} {before calls : List Exchange} {u : World}
      (hvalid : d.violation? = none) (hb : Opened d (.ok b) before)
      (hf : Applied d b.id (.error f) calls) (hu : w.Leads w.store.records u) :
      Created d w (.error f) (before ++ calls) u
  /-- The binding is none that can be recorded. -/
  | unrealized {b : NewBinding} {issues : List Issue} {before calls : List Exchange} {u : World}
      (hvalid : d.violation? = none) (hb : Opened d (.ok b) before)
      (ha : Applied d b.id (.ok ()) calls) (hf : d.realized b = .failed issues)
      (hu : w.Leads w.store.records u) :
      Created d w (.error (.unreadable (.invalid issues))) (before ++ calls) u
  /-- The patch was answered, and the configuration is recorded. -/
  | applied {b : NewBinding} {s : State} {result : Except Failure State}
      {before calls more : List Exchange} {u t : World} (hvalid : d.violation? = none)
      (hb : Opened d (.ok b) before) (ha : Applied d b.id (.ok ()) calls)
      (hs : d.realized b = .ok s) (hu : w.Leads w.store.records u)
      (h : Settled d.vpcId s u result more t) : Created d w result (before ++ calls ++ more) t

theorem created (d : Desired) (w : World) :
    Created d w (create d w).result (create d w).calls (create d w).world := by
  refine (Action.ends_nil_iff (Created d w)).1 ?_
  unfold create Desired.demandValid
  refine Action.ends_bind.2 ?_
  cases hvalid : d.violation? with
  | some violation => exact Action.ends_fail.2 (.violating hvalid)
  | none =>
    -- With a binding or without one, the rest is the same.
    have rest : ∀ b before u, Opened d (.ok b) before → w.Leads w.store.records u →
        Action.Ends (do
          d.applyOrRollBack b.id
          let interim ← Action.ofChecked (d.realized b)
          Memory.remember .dnsConfig (.str d.vpcId) interim.attributes
          refresh interim) before u (fun s => Created d w (.ok s))
          fun f => Created d w (.error f) := by
      intro b before u hb hu
      refine Action.ends_bind.2 ((applyOrRollBack_still d b.id).ends (fun _ calls t ha ht => ?_)
        fun f calls t hf ht => .unapplied hvalid hb hf (hu.still ht))
      have hl := hu.still ht
      refine Action.ends_bind.2 (Action.ends_ofChecked (fun s hs => ?_)
        fun issues hf => .unrealized hvalid hb ha hf hl)
      exact Action.Ends.of_outcome (Settled d.vpcId s t) (settled d.vpcId s t)
        (fun _ _ _ h => .applied hvalid hb ha hs hl h)
        fun _ _ _ h => .applied hvalid hb ha hs hl h
    refine Action.ends_pure.2 ?_
    by_cases h : d.resolverType = .delegated
    · simp only [if_pos h]
      refine Action.ends_bind.2 ((createBinding_still d).ends (fun b calls u hb hu => ?_)
        fun f calls u hf hu => .unopened hvalid (.needed h hf) hu)
      exact rest b _ u (.needed h hb) hu
    · simp only [if_neg h, pure_bind]
      exact rest _ _ w (.unneeded h) (.refl w)

/-! ## Changing -/

/-- What a change asks for is the change, for the VPC. -/
theorem Desired.eq_of_ofChanges {v : String} {c : Changes}
    (h : Desired.ofChanges (.str v) c = .ok d) : d = ⟨c, v⟩ := by
  obtain ⟨id, hid, rfl⟩ := Checked.map_eq_ok_iff.1 h
  cases Schema.eq_str_of_boundedText (Checked.within_eq_ok_iff.1 hid)
  rfl

/-- A change of a VPC that is admissible and starts from a recorded
state. -/
structure Started (v : String) (c : Changes) (w : World) (d : Desired) (p : State) : Prop where
  admitted : Desired.ofChanges (.str v) c = .ok d
  valid : d.violation? = none
  loads : Loads w.store.records v p

/-- **What changing a configuration comes to.** -/
inductive Updated (v : String) (c : Changes) (w : World) :
    Except Failure State → List Exchange → World → Prop
  | unfit {issues : List Issue} (h : Desired.ofChanges (.str v) c = .failed issues) :
      Updated v c w (.error (.unreadable (.invalid issues))) [] w
  | violating {d : Desired} {violation : Violation} (hd : Desired.ofChanges (.str v) c = .ok d)
      (h : d.violation? = some violation) : Updated v c w (.error (.violation violation)) [] w
  | unloaded {d : Desired} {f : Failure} {u : World} (hd : Desired.ofChanges (.str v) c = .ok d)
      (hvalid : d.violation? = none) (hf : Unloaded v w f) (hu : w.Leads w.store.records u) :
      Updated v c w (.error f) [] u
  /-- The bindings could not be prepared. -/
  | unprepared {d : Desired} {p : State} {f : Failure} {calls : List Exchange} {u : World}
      (hs : Started v c w d p) (hf : Prepared p d (.error f) calls)
      (hu : w.Leads w.store.records u) : Updated v c w (.error f) calls u
  /-- The patch was not answered. -/
  | unapplied {d : Desired} {p : State} {t : Transition} {f : Failure}
      {before calls : List Exchange} {u : World} (hs : Started v c w d p)
      (ht : Prepared p d (.ok t) before) (hf : Applied d t.created (.error f) calls)
      (hu : w.Leads w.store.records u) : Updated v c w (.error f) (before ++ calls) u
  /-- The patch was answered, but the binding that was replaced could not
  be given up. -/
  | unreplaced {d : Desired} {p : State} {t : Transition} {f : Failure}
      {before calls after : List Exchange} {u : World} (hs : Started v c w d p)
      (ht : Prepared p d (.ok t) before) (ha : Applied d t.created (.ok ()) calls)
      (hf : GivenUp (.str v) t.replaced (.error f) after) (hu : w.Leads w.store.records u) :
      Updated v c w (.error f) (before ++ calls ++ after) u
  /-- The change is complete, and is recorded. -/
  | applied {d : Desired} {p : State} {t : Transition} {result : Except Failure State}
      {before calls after more : List Exchange} {u x : World} (hs : Started v c w d p)
      (ht : Prepared p d (.ok t) before) (ha : Applied d t.created (.ok ()) calls)
      (hr : GivenUp (.str v) t.replaced (.ok ()) after) (hu : w.Leads w.store.records u)
      (h : Settled v (p.changed c t) u result more x) :
      Updated v c w result (before ++ calls ++ after ++ more) x

theorem updated (v : String) (c : Changes) (w : World) :
    Updated v c w (update (.str v) c w).result (update (.str v) c w).calls
      (update (.str v) c w).world := by
  refine (Action.ends_nil_iff (Updated v c w)).1 ?_
  unfold update Desired.demandValid
  refine Action.ends_bind.2 (Action.ends_ofChecked (fun d hd => Action.ends_bind.2 ?_)
    fun issues hi => .unfit hi)
  cases hvalid : d.violation? with
  | some violation => exact Action.ends_fail.2 (.violating hd hvalid)
  | none =>
    refine Action.ends_pure.2 (Action.ends_bind.2 (ends_retrieveManaged (fun p u hp hu => ?_)
      fun f u hf hu => .unloaded hd hvalid hf hu))
    have hs : Started v c w d p := ⟨hd, hvalid, hp⟩
    -- Leaving and entering are one step, since what was left is not entered.
    rw [← bind_assoc]
    refine Action.ends_bind.2 ((prepare_still p d).ends (fun t before x ht hx => ?_)
      fun f calls x hf hx => .unprepared hs hf (hu.still hx))
    have hx := hu.still hx
    refine Action.ends_bind.2 ((applyOrRollBack_still d t.created).ends (fun _ calls y ha hy => ?_)
      fun f calls y hf hy => .unapplied hs ht hf (hx.still hy))
    have hy := hx.still hy
    refine Action.ends_bind.2 ((removeGivenQuietly_still (.str v) t.replaced).ends
      (fun _ after z hr hz => ?_) fun f after z hf hz => .unreplaced hs ht ha hf (hy.still hz))
    have hz := hy.still hz
    exact Action.Ends.of_outcome (Settled v (p.changed c t) z) (settled v (p.changed c t) z)
      (fun _ _ _ h => .applied hs ht ha hr hz h) fun _ _ _ h => .applied hs ht ha hr hz h

/-! ## Deleting -/

/-- **How a call ends for which it does no harm that there is nothing
left.** -/
inductive Settles (purpose : String) (call : Call) : Except Failure Unit → List Exchange → Prop
  | answered {body : Json} : Settles purpose call (.ok ()) [(call, .ok body)]
  | missing {refusal : Refusal} (h : refusal.isNotFound = true) :
      Settles purpose call (.ok ()) [(call, .refused refusal)]
  | refused {refusal : Refusal} (h : refusal.isNotFound = false) :
      Settles purpose call (.error (.refused purpose refusal)) [(call, .refused refusal)]
  | cut {reason : String} :
      Settles purpose call (.error (.disconnected reason)) [(call, .disconnected reason)]

theorem settles_still (purpose : String) (call : Call) :
    ((do let _ ← Remote.sendFor purpose call).ifMissing (pure ())).Still
      (Settles purpose call) := by
  refine .of_ends fun w => ?_
  unfold Action.ifMissing
  simp only [Action.ends_recover, Action.ends_bind, Action.ends_pure]
  refine Remote.ends_sendFor (fun body v hv => ⟨.answered, hv⟩) (fun r v hv => ?_)
    fun reason v hv => ⟨.cut, hv⟩
  by_cases hr : r.isNotFound = true
  · simp only [if_pos hr, Action.ends_pure]
    exact ⟨.missing hr, hv⟩
  · simp only [if_neg hr]
    exact ⟨.refused (Bool.eq_false_iff.2 hr), hv⟩

/-- How a recorded binding is removed, if there is one. -/
inductive Removed (v : String) (bindingId : Json) : Except Failure Unit → List Exchange → Prop
  | spared (h : bindingId.isGiven = false) : Removed v bindingId (.ok ()) []
  | sent {result : Except Failure Unit} {calls : List Exchange} (h : bindingId.isGiven = true)
      (hs : Settles (Call.deleteBinding (.str v) bindingId).purpose
        (.deleteBinding (.str v) bindingId) result calls) : Removed v bindingId result calls

theorem removeBinding_still (v : String) (bindingId : Json) :
    (removeBinding (.str v) bindingId).Still (Removed v bindingId) := by
  refine .of_ends fun w => ?_
  unfold removeBinding
  by_cases h : bindingId.isGiven = true
  · rw [if_pos h]
    exact (settles_still _ _).ends (fun _ calls u hs hu => ⟨.sent h hs, hu⟩)
      fun f calls u hs hu => ⟨.sent h hs, hu⟩
  · rw [if_neg h]
    exact Action.ends_pure.2 ⟨.spared (Bool.eq_false_iff.2 h), .refl w⟩

/-- How a VPC is reset to the system's resolver. -/
abbrev Reset (v : String) : Except Failure Unit → List Exchange → Prop :=
  Settles resetPurpose (.patchVpc (.str v) systemPatch)

/-- **What deleting a configuration comes to.** -/
inductive Deleted (v : String) (w : World) : Except Failure Bool → List Exchange → World → Prop
  | unmanaged {u : World} (h : w.store.records.get? (keyOf v) = none)
      (hu : w.Leads w.store.records u) : Deleted v w (.ok false) [] u
  | unread {f : Failure} {u : World} (hf : Memory.Unread (State.check .data) w (keyOf v) f)
      (hu : w.Leads w.store.records u) : Deleted v w (.error f) [] u
  | unremoved {p : State} {f : Failure} {calls : List Exchange} {u : World}
      (hp : Loads w.store.records v p) (hf : Removed v p.bindingId (.error f) calls)
      (hu : w.Leads w.store.records u) : Deleted v w (.error f) calls u
  | unreset {p : State} {f : Failure} {calls more : List Exchange} {u : World}
      (hp : Loads w.store.records v p) (hr : Removed v p.bindingId (.ok ()) calls)
      (hf : Reset v (.error f) more) (hu : w.Leads w.store.records u) :
      Deleted v w (.error f) (calls ++ more) u
  /-- Only the record is left. -/
  | unforgotten {p : State} {e : Store.TableError} {calls more : List Exchange} {u : World}
      (hp : Loads w.store.records v p) (hr : Removed v p.bindingId (.ok ()) calls)
      (hreset : Reset v (.ok ()) more) (hf : w.store.faults ≠ [])
      (hu : w.Leads w.store.records u) : Deleted v w (.error (.store e)) (calls ++ more) u
  | forgotten {p : State} {calls more : List Exchange} {u : World}
      (hp : Loads w.store.records v p) (hr : Removed v p.bindingId (.ok ()) calls)
      (hreset : Reset v (.ok ()) more) (hu : w.Leads (w.store.records.erase (keyOf v)) u) :
      Deleted v w (.ok true) (calls ++ more) u

theorem deleted (v : String) (w : World) :
    Deleted v w (delete (.str v) w).result (delete (.str v) w).calls
      (delete (.str v) w).world := by
  refine (Action.ends_nil_iff (Deleted v w)).1 ?_
  unfold delete
  refine Action.ends_bind.2 (Memory.ends_retrieve (fun u habsent hu => ?_)
    (fun record p u hrecord hp hu => ?_) fun f u hf hu => .unread hf hu)
  · exact Action.ends_pure.2 (.unmanaged habsent hu)
  · have hp : Loads w.store.records v p := ⟨record, hrecord, hp⟩
    refine Action.ends_bind.2 ((removeBinding_still v p.bindingId).ends (fun _ calls x hr hx => ?_)
      fun f calls x hf hx => .unremoved hp hf (hu.still hx))
    have hx := hu.still hx
    refine Action.ends_bind.2 ((settles_still resetPurpose (.patchVpc (.str v) systemPatch)).ends
      (fun _ more y hreset hy => ?_) fun f more y hf hy => .unreset hp hr hf (hx.still hy))
    have hy := hx.still hy
    refine Action.ends_bind.2 (Memory.ends_forget (fun z hz => ?_) fun e z hf hz => ?_)
    · have hl := hy.trans hz
      rw [hy.records_eq] at hl
      exact Action.ends_pure.2 (.forgotten hp hr hreset hl)
    · exact .unforgotten hp hr hreset (hy.faults_eq ▸ hf) (hy.still hz)

/-! ## Adopting -/

/-- The collection of the bindings of a VPC. -/
abbrev bindingsOf (v : String) : Remote.Collection := .bindings (.str v)

/-- **How the binding is found through which a VPC delegates**: its bindings
are listed, and the one that leads to the other VPC is recorded. -/
inductive Matched (v : String) (s : State) (w : World) :
    Except Failure State → List Exchange → World → Prop
  | unlisted {f : Failure} {calls : List Exchange} {x : World}
      (h : Walked (bindingsOf v) none (.error f) calls) (hx : w.Leads w.store.records x) :
      Matched v s w (.error f) calls x
  /-- A binding that was listed cannot be read. -/
  | unmatched {bindings : List Json} {m : Mismatch} {calls : List Exchange} {x : World}
      (h : Walked (bindingsOf v) none (.ok bindings) calls) (hf : s.adoptFrom bindings = .error m)
      (hx : w.Leads w.store.records x) : Matched v s w (.error (.unreadable (.shape m))) calls x
  | unrecorded {t : State} {bindings : List Json} {f : Failure} {calls : List Exchange} {x : World}
      (h : Walked (bindingsOf v) none (.ok bindings) calls) (ht : s.adoptFrom bindings = .ok t)
      (hf : Memory.Unwritten w t.attributes f) (hx : w.Leads w.store.records x) :
      Matched v s w (.error f) calls x
  | recorded {t : State} {bindings : List Json} {calls : List Exchange} {written : Time.Instant}
      {x : World} (h : Walked (bindingsOf v) none (.ok bindings) calls)
      (ht : s.adoptFrom bindings = .ok t)
      (hx : w.Leads (w.store.records.insert (keyOf v)
        (Memory.record .dnsConfig (.str v) t.attributes written)) x) :
      Matched v s w (.ok t) calls x

theorem matched (v : String) (s : State) (w : World) :
    let x := do
      let bindings ← Remote.listAll (bindingsOf v)
      let t ← Action.ofShape (s.adoptFrom bindings)
      Memory.remember .dnsConfig (.str v) t.attributes
      return t
    Matched v s w (x w).result (x w).calls (x w).world := by
  refine (Action.ends_nil_iff (Matched v s w)).1 (Action.ends_bind.2 ?_)
  refine (Remote.listAll_still _).ends (fun bindings calls u h hu => ?_)
    fun f calls u h hu => .unlisted h hu
  refine Action.ends_bind.2 (Action.ends_ofShape (fun t ht => ?_) fun m hm => .unmatched h hm hu)
  refine Action.ends_bind.2 (Memory.ends_remember (fun written x hx => ?_) fun f x hf hx => ?_)
  · have hl := hu.trans hx
    rw [hu.records_eq] at hl
    exact Action.ends_pure.2 (.recorded h ht hl)
  · exact .unrecorded h ht (hf.before hu) (hu.still hx)

/-- **The two steps of an adoption.** The VPC is read back from a state of
which nothing is known, and if it delegates its binding is looked for. -/
inductive Adopts (v : String) (w : World) : Except Failure State → List Exchange → World → Prop
  | unread {f : Failure} {calls : List Exchange} {u : World}
      (h : Refreshed (State.ofText v) w (.error f) calls u) : Adopts v w (.error f) calls u
  /-- The VPC does not delegate. -/
  | plain {s : State} {calls : List Exchange} {u : World}
      (h : Refreshed (State.ofText v) w (.ok s) calls u) (hs : s.isDelegated = false) :
      Adopts v w (.ok s) calls u
  | matching {s : State} {result : Except Failure State} {calls more : List Exchange}
      {u x : World} (h : Refreshed (State.ofText v) w (.ok s) calls u)
      (hs : s.isDelegated = true) (hm : Matched v s u result more x) :
      Adopts v w result (calls ++ more) x

theorem adopts (v : String) (w : World) :
    Adopts v w (adopt (.str v) w).result (adopt (.str v) w).calls (adopt (.str v) w).world := by
  refine (Action.ends_nil_iff (Adopts v w)).1 ?_
  unfold adopt
  -- A text is always the identifier of some VPC.
  refine Action.ends_bind.2 (Action.ends_pure.2 (Action.ends_bind.2 ?_))
  refine Action.Ends.of_outcome (Refreshed (State.ofText v) w) (refreshed (State.ofText v) w)
    (fun s calls u h => ?_) fun f calls u h => .unread h
  cases hs : s.isDelegated with
  | false => exact Action.ends_pure.2 (.plain h hs)
  | true =>
    exact Action.Ends.of_outcome (Matched v s u) (matched v s u)
      (fun _ _ _ hm => .matching h hs hm) fun _ _ _ hm => .matching h hs hm

/-- **What adopting a configuration comes to.** What the VPC shows is
recorded before its bindings are listed. -/
inductive Adopted (v : String) (w : World) : Except Failure State → List Exchange → World → Prop
  | unread {f : Failure} {calls : List Exchange} {u : World}
      (h : Refreshed (State.ofText v) w (.error f) calls u) : Adopted v w (.error f) calls u
  /-- The VPC does not delegate. -/
  | plain {s : State} {calls : List Exchange} {u : World}
      (h : Refreshed (State.ofText v) w (.ok s) calls u) (hs : s.isDelegated = false) :
      Adopted v w (.ok s) calls u
  | unlisted {s : State} {f : Failure} {calls more : List Exchange} {u x : World}
      (h : Refreshed (State.ofText v) w (.ok s) calls u) (hs : s.isDelegated = true)
      (hmore : ∀ e ∈ more, e.1.Lists (bindingsOf v)) (hf : f.isOfExchange = true)
      (hx : u.Leads u.store.records x) : Adopted v w (.error f) (calls ++ more) x
  /-- A binding that was listed cannot be read. -/
  | unmatched {s : State} {bindings : List Json} {m : Mismatch} {calls more : List Exchange}
      {u x : World} (h : Refreshed (State.ofText v) w (.ok s) calls u)
      (hs : s.isDelegated = true) (hmore : ∀ e ∈ more, e.1.Lists (bindingsOf v))
      (hlisted : Listed (bindingsOf v) more bindings) (hf : s.adoptFrom bindings = .error m)
      (hx : u.Leads u.store.records x) :
      Adopted v w (.error (.unreadable (.shape m))) (calls ++ more) x
  | unrecorded {s t : State} {bindings : List Json} {f : Failure} {calls more : List Exchange}
      {u x : World} (h : Refreshed (State.ofText v) w (.ok s) calls u)
      (hs : s.isDelegated = true) (hmore : ∀ e ∈ more, e.1.Lists (bindingsOf v))
      (hlisted : Listed (bindingsOf v) more bindings) (ht : s.adoptFrom bindings = .ok t)
      (hf : Memory.Unwritten u t.attributes f) (hx : u.Leads u.store.records x) :
      Adopted v w (.error f) (calls ++ more) x
  /-- The binding that leads to the other VPC, if there is one, is recorded
  as well. -/
  | matched {s t : State} {bindings : List Json} {calls more : List Exchange}
      {written : Time.Instant} {u x : World} (h : Refreshed (State.ofText v) w (.ok s) calls u)
      (hs : s.isDelegated = true) (hmore : ∀ e ∈ more, e.1.Lists (bindingsOf v))
      (hlisted : Listed (bindingsOf v) more bindings) (ht : s.adoptFrom bindings = .ok t)
      (hx : u.Leads (u.store.records.insert (keyOf v)
        (Memory.record .dnsConfig (.str v) t.attributes written)) x) :
      Adopted v w (.ok t) (calls ++ more) x

theorem Adopts.adopted {v : String} {result : Except Failure State} {calls : List Exchange}
    {x : World} (h : Adopts v w result calls x) : Adopted v w result calls x := by
  cases h with
  | unread h => exact .unread h
  | plain h hs => exact .plain h hs
  | matching h hs hm =>
    cases hm with
    | unlisted hl hx => exact .unlisted h hs hl.lists (hl.isOfExchange _ rfl) hx
    | unmatched hl hf hx => exact .unmatched h hs hl.lists (hl.listed _ rfl) hf hx
    | unrecorded hl ht hf hx => exact .unrecorded h hs hl.lists (hl.listed _ rfl) ht hf hx
    | recorded hl ht hx => exact .matched h hs hl.lists (hl.listed _ rfl) ht hx

theorem adopted (v : String) (w : World) :
    Adopted v w (adopt (.str v) w).result (adopt (.str v) w).calls (adopt (.str v) w).world :=
  (adopts v w).adopted

end Dns

end NetSteward
