import NetSteward.Proofs.Dns.Agreement
import NetSteward.Proofs.Dns.Answered
import NetSteward.Proofs.Dns.Projection
import NetSteward.Proofs.Remote.Replies
/-!
# What a VPC shows, observed again

Reading a VPC back observes it and then records what was observed. The
observation depends on the replies alone: on the block that the VPC shows
and, if it delegates, on the listing of its bindings. So a state that the
same block overlays to the same thing leads to the same observation, in any
world in which the calls are answered as before. This is what makes reading
a VPC back stable, and repeating a change harmless.
-/

namespace NetSteward

namespace Dns

open Remote (Call Exchange Reply listAll)

variable {u v w : World} {p q read s : State} {body : Json} {b : Block} {events : List Event}

/-! ## Overlays -/

/-- Reads the DNS block of a VPC. -/
def Block.ofVpc (body : Json) : Read Block := do
  let dns ← shaped (body.find "dns")
  Block.read dns.orEmpty

/-- A state is overlaid with the block of its VPC. -/
theorem State.overlaid_eq_ok_iff :
    p.overlaid body = .ok read ↔ ∃ b, Block.ofVpc body = .ok b ∧ p.showing b = read := by
  unfold overlaid Block.ofVpc
  simp only [bind_eq_ok_iff, project_eq]
  constructor
  · rintro ⟨dns, hdns, h⟩
    obtain ⟨b, hb, hread⟩ := map_eq_ok_iff.1 h
    exact ⟨b, ⟨dns, hdns, hb⟩, hread⟩
  · rintro ⟨b, ⟨dns, hdns, hb⟩, hread⟩
    exact ⟨dns, hdns, map_eq_ok_iff.2 ⟨b, hb, hread⟩⟩

/-- **The same block overlays two states to the same**, but for their names, if
they are of the same VPC and binding and agree in what the block may leave
open. -/
theorem State.overlaid_again (h : p.overlaid body = .ok read) (hid : q.id = p.id)
    (hvpc : q.vpcId = p.vpcId) (hbinding : q.bindingId = p.bindingId)
    (hhub : q.enableHub = p.enableHub ∨ q.enableHub = read.enableHub)
    (htype : q.resolverType = p.resolverType ∨ q.resolverType = read.resolverType) :
    q.overlaid body = .ok { read with bindingName := q.bindingName } := by
  obtain ⟨b, hb, rfl⟩ := overlaid_eq_ok_iff.1 h
  refine overlaid_eq_ok_iff.2 ⟨b, hb, ?_⟩
  have hhub' : b.hub = none → q.enableHub = p.enableHub := by
    intro hnone
    rcases hhub with heq | heq
    · exact heq
    · rw [heq, showing, hnone]
  have htype' : b.type.isGiven = false → q.resolverType = p.resolverType := by
    intro hnone
    rcases htype with heq | heq
    · exact heq
    · rw [heq, showing, hnone]
      rfl
  unfold showing
  rw [hid, hvpc, hbinding]
  cases hshown : b.hub with
  | none =>
    rw [hhub' hshown]
    cases hgiven : b.type.isGiven with
    | true => rfl
    | false => rw [htype' hgiven]
  | some j =>
    cases hgiven : b.type.isGiven with
    | true => rfl
    | false => rw [htype' hgiven]

/-! ## The name of a binding -/

/-- The name that a listing gives a binding: none if the listing was
refused. -/
def listedName (bindingId : Json) : Except Failure (List Json) → Except Failure Json
  | .ok bindings => match nameOfBinding bindingId bindings with
    | .ok name => .ok name
    | .error m => .error (.unreadable (.shape m))
  | .error (.refused _ _) => .ok .null
  | .error f => .error f

/-- A name is looked up in a listing, and nowhere else. -/
theorem lookUpBindingName_apply (vpcId : String) (bindingId : Json) (w : World) :
    lookUpBindingName vpcId bindingId w =
      ⟨listedName bindingId (listAll (bindingsOf vpcId) w).result,
        (listAll (bindingsOf vpcId) w).events, (listAll (bindingsOf vpcId) w).world⟩ := by
  unfold lookUpBindingName Action.onRefusal
  rw [Action.bind_apply, Action.recover, Action.map_apply]
  rcases listAll (bindingsOf vpcId) w with ⟨f | bindings, events, u⟩
  · cases f <;> simp [Except.map, Outcome.andThen, Outcome.preceded, listedName]
  · cases hname : nameOfBinding bindingId bindings <;>
      simp [Except.map, Outcome.andThen, Outcome.preceded, listedName, Action.ofShape, shaped, hname]

/-- A state with a name for its binding, if there is one. -/
def State.named (s : State) (name : Json) : State :=
  if name.isGiven then { s with bindingName := name } else s

/-- The VPC delegates, through a binding that is recorded. -/
def State.IsBound (s : State) : Prop := s.isDelegated = true ∧ s.hasBinding = true

/-- **The name of a binding is looked up by listing the bindings**, if there
is one. -/
theorem State.withBindingName_of_isBound (h : s.IsBound) (w : World) :
    s.withBindingName w =
      ⟨(listedName s.bindingId (listAll (bindingsOf s.vpcId) w).result).map s.named,
        (listAll (bindingsOf s.vpcId) w).events, (listAll (bindingsOf s.vpcId) w).world⟩ := by
  have hasked : (s.isDelegated && s.hasBinding) = true := Bool.and_eq_true_iff.2 h
  unfold withBindingName
  rw [if_pos hasked, bind_pure_comp, Action.map_apply, lookUpBindingName_apply]
  rfl

theorem State.withBindingName_of_not_isBound (h : ¬ s.IsBound) (w : World) :
    s.withBindingName w = ⟨.ok s, [], w⟩ := by
  unfold withBindingName
  rw [if_neg fun hasked => h (Bool.and_eq_true_iff.1 hasked)]
  rfl

/-- A name changes nothing but the name. -/
theorem State.named_eq (s : State) (name : Json) :
    s.named name = { s with bindingName := (s.named name).bindingName } := by
  unfold named
  split <;> rfl

/-- A name that is given comes of the listing, whatever name the state had
before. -/
theorem State.named_again {name other : Json}
    (h : (s.named name).bindingName = s.bindingName → other = s.bindingName) :
    State.named { s with bindingName := other } name = s.named name := by
  unfold named at h ⊢
  split at h
  next hgiven => rw [if_pos hgiven, if_pos hgiven]
  next hgiven => rw [if_neg hgiven, if_neg hgiven, h rfl]

/-- A state that is named is the state but for the name. -/
theorem State.withBindingName_eq {more : List Event}
    (h : read.withBindingName w = ⟨.ok s, more, u⟩) :
    s = { read with bindingName := s.bindingName } := by
  by_cases hbound : read.IsBound
  · rw [withBindingName_of_isBound hbound] at h
    obtain ⟨name, -, hs⟩ := map_eq_ok_iff.1 (congrArg Outcome.result h)
    rw [← hs]
    exact named_eq read name
  · rw [withBindingName_of_not_isBound hbound] at h
    cases h
    rfl

/-- **A state that was named is named the same again**, from any name if the
listing gave one. -/
theorem State.withBindingName_again {more : List Event} {name : Json}
    (h : read.withBindingName w = ⟨.ok s, more, u⟩)
    (hname : s.bindingName = read.bindingName → name = read.bindingName) :
    State.withBindingName { read with bindingName := name } w = ⟨.ok s, more, u⟩ := by
  by_cases hbound : read.IsBound
  · have hbound' : State.IsBound { read with bindingName := name } := hbound
    rw [withBindingName_of_isBound hbound] at h
    rw [withBindingName_of_isBound hbound', ← h]
    obtain ⟨found, hfound, hnamed⟩ := map_eq_ok_iff.1 (congrArg Outcome.result h)
    rw [← hnamed] at hname
    rw [hfound, Except.map, Except.map, named_again hname]
  · have hbound' : ¬ State.IsBound { read with bindingName := name } := hbound
    rw [withBindingName_of_not_isBound hbound] at h
    rw [withBindingName_of_not_isBound hbound']
    cases h
    rw [hname rfl]

/-- **A name that is looked up again is the same**, if the calls are answered
as before. -/
theorem State.withBindingName_repeats {more : List Event}
    (h : read.withBindingName w = ⟨.ok s, more, u⟩)
    (hv : v.Repeats (more.filterMap Event.exchange?)) :
    ∃ again x, read.withBindingName v = ⟨.ok s, again, x⟩ ∧
      (v.pageLimit = w.pageLimit → again = more) ∧ v.Leads v.store.records x := by
  have hleads := (withBindingName_still read v).2
  by_cases hbound : read.IsBound
  · rw [withBindingName_of_isBound hbound] at h hleads ⊢
    obtain ⟨hresult, hevents, -⟩ := Outcome.mk.inj h
    rw [← hevents] at hv
    obtain ⟨hagain, hcalls⟩ := Remote.listAll_again hv
    rw [← hagain] at hresult
    rw [hresult]
    exact ⟨_, _, rfl, fun hlimit => (hcalls hlimit).trans hevents, hleads⟩
  · rw [withBindingName_of_not_isBound hbound] at h hleads ⊢
    cases h
    exact ⟨_, _, rfl, fun _ => rfl, hleads⟩

/-! ## Observations -/

/-- Observes the VPC of a state, without a record of it. -/
def State.observed (p : State) : Action State := do
  let body ← Remote.send (.getVpc (.str p.vpcId))
  let read ← Action.ofRead (p.overlaid body)
  read.withBindingName

/-- An observation, given what the VPC shows. -/
theorem State.observed_of_answer (hreply : w.nextReply.1 = .ok body)
    (hread : p.overlaid body = .ok read) :
    p.observed w = (read.withBindingName w.nextReply.2).preceded
      [.exchange (.getVpc (.str p.vpcId)) (.ok body)] := by
  have hsend : Remote.send (.getVpc (.str p.vpcId)) w =
      ⟨.ok body, [.exchange (.getVpc (.str p.vpcId)) (.ok body)], w.nextReply.2⟩ :=
    Remote.sendFor_of_ok hreply _ _
  unfold observed
  rw [Action.bind_of_ok hsend, hread]
  rfl

/-- **An observation that succeeds**, step by step. -/
theorem State.observed_of_ok (h : p.observed w = ⟨.ok s, events, u⟩) :
    ∃ body read more, w.nextReply.1 = .ok body ∧ p.overlaid body = .ok read ∧
      read.withBindingName w.nextReply.2 = ⟨.ok s, more, u⟩ ∧
      events = .exchange (.getVpc (.str p.vpcId)) (.ok body) :: more := by
  obtain ⟨body, sent, x, hsend, hrest, -⟩ := Action.of_bind_ok (congrArg Outcome.result h)
  obtain ⟨read, none, y, hread, -, -⟩ := Action.of_bind_ok hrest
  have hreply : w.nextReply.1 = .ok body :=
    Remote.Reply.result_eq_ok_iff.1 (congrArg Outcome.result hsend)
  have hread : p.overlaid body = .ok read := by
    cases hover : p.overlaid body with
    | ok found => rw [hover] at hread; cases hread; rfl
    | error cause => rw [hover] at hread; cases hread
  rw [observed_of_answer hreply hread] at h
  rcases hname : read.withBindingName w.nextReply.2 with ⟨result, more, z⟩
  rw [hname] at h
  obtain ⟨hresult, hevents, hworld⟩ := Outcome.mk.inj h
  have hresult : result = .ok s := hresult
  have hworld : z = u := hworld
  subst hresult hworld
  exact ⟨body, read, more, hreply, hread, hname, hevents.symm⟩

/-- **The same is observed again** from a state that the same block overlays
to the same, but for a name that the listing gives. -/
theorem State.observed_again (h : p.observed w = ⟨.ok s, events, u⟩) (hvpc : q.vpcId = p.vpcId)
    (hname : s.bindingName = p.bindingName → q.bindingName = p.bindingName)
    (hq : ∀ body read, p.overlaid body = .ok read →
      s = { read with bindingName := s.bindingName } →
      q.overlaid body = .ok { read with bindingName := q.bindingName }) :
    q.observed w = ⟨.ok s, events, u⟩ := by
  obtain ⟨body, read, more, hreply, hread, hnamed, rfl⟩ := observed_of_ok h
  have hover := hq body read hread (withBindingName_eq hnamed)
  -- An overlay keeps the name, so the one to compare with is that of `p`.
  have hkept : read.bindingName = p.bindingName := (State.kept_of_overlaid hread).2.2.1
  rw [← hkept] at hname
  rw [observed_of_answer hreply hover, withBindingName_again hnamed hname, hvpc]
  rfl

/-- **What is observed depends on the replies alone.** -/
theorem State.observed_repeats (h : p.observed w = ⟨.ok s, events, u⟩)
    (hv : v.Repeats (events.filterMap Event.exchange?)) :
    ∃ again x, p.observed v = ⟨.ok s, again, x⟩ ∧
      (v.pageLimit = w.pageLimit → again = events) ∧ v.Leads v.store.records x := by
  obtain ⟨body, read, more, hreply, hread, hnamed, rfl⟩ := observed_of_ok h
  obtain ⟨hreply', hmore⟩ := hv
  obtain ⟨again, x, hagain, hcalls, hleads⟩ := withBindingName_repeats hnamed hmore
  refine ⟨.exchange (.getVpc (.str p.vpcId)) (.ok body) :: again, x, ?_, fun hlimit => ?_, ?_⟩
  · rw [observed_of_answer hreply' hread, hagain]
    rfl
  · have hlimit' : v.nextReply.2.pageLimit = w.nextReply.2.pageLimit := by
      rw [(Remote.nextReply_kept v).1, (Remote.nextReply_kept w).1, hlimit]
    rw [hcalls hlimit']
  · exact (Remote.leads_nextReply v).still hleads

/-- An observation is answered by the replies to come. -/
theorem State.repeats_observed (h : p.observed w = ⟨.ok s, events, u⟩) :
    w.Repeats (events.filterMap Event.exchange?) := by
  obtain ⟨body, read, more, hreply, hread, hnamed, rfl⟩ := observed_of_ok h
  refine ⟨hreply, ?_⟩
  by_cases hbound : read.IsBound
  · rw [withBindingName_of_isBound hbound] at hnamed
    rw [← (Outcome.mk.inj hnamed).2.1]
    exact Remote.repeats_listAll _ _
  · rw [withBindingName_of_not_isBound hbound] at hnamed
    cases hnamed
    trivial

/-! ## Reading back is observing and recording -/

/-- What is read of an answer in two steps is what its state is overlaid
with. -/
theorem bind_overlaid {α : Type} (f : State → Action α) :
    (do
      let dns ← Action.ofShape (body.find "dns")
      let state ← Action.ofRead (p.project dns.orEmpty)
      f state) = Action.ofRead (p.overlaid body) >>= f := by
  unfold State.overlaid Action.ofShape
  cases body.find "dns" <;> rfl

/-- A call that is not answered yields nothing, if its handler does not. -/
theorem send_of_ifMissing {call : Call} {handler : Action Json}
    (hhandler : ∀ v found, (handler v).result ≠ .ok found)
    (h : (Remote.send call).ifMissing handler w = ⟨.ok body, events, u⟩) :
    Remote.send call w = ⟨.ok body, events, u⟩ := by
  unfold Action.ifMissing Action.recover at h
  rcases hsend : Remote.send call w with ⟨f | found, sent, x⟩
  · rw [hsend] at h
    cases f with
    | refused purpose refusal =>
      by_cases hmissing : refusal.isNotFound = true
      · simp only [if_pos hmissing] at h
        exact absurd (congrArg Outcome.result h) (hhandler x body)
      · simp only [if_neg hmissing] at h
        cases h
    | violation | unlinked | disconnected | gone | unreadable | store => cases h
  · rw [hsend] at h
    exact h

/-- Dropping a record yields nothing. -/
theorem dropGone_ne_ok {α : Type} {kind : ResourceKind} {id : Json} (v : World) (a : α) :
    (Memory.dropGone kind id v).result ≠ .ok a := by
  intro h
  obtain ⟨_, _, _, -, hgone, -⟩ := Action.of_bind_ok h
  cases hgone

/-- What follows an observation. -/
def State.recorded (s : State) : Action State := do
  Memory.remember .dnsConfig (.str s.vpcId) s.attributes
  return s

theorem refresh_of_answer (hreply : w.nextReply.1 = .ok body) :
    refresh p w = (p.observed >>= State.recorded) w := by
  have hsend : Remote.send (.getVpc (.str p.vpcId)) w =
      ⟨.ok body, [.exchange (.getVpc (.str p.vpcId)) (.ok body)], w.nextReply.2⟩ :=
    Remote.sendFor_of_ok hreply _ _
  have hfound : (Remote.send (.getVpc (.str p.vpcId))).ifMissing
      (Memory.dropGone .dnsConfig (.str p.vpcId)) w =
        ⟨.ok body, [.exchange (.getVpc (.str p.vpcId)) (.ok body)], w.nextReply.2⟩ := by
    unfold Action.ifMissing Action.recover
    rw [hsend]
  unfold refresh State.observed
  rw [bind_assoc, Action.bind_of_ok hfound, Action.bind_of_ok hsend, bind_overlaid, bind_assoc]
  rfl

/-- **A VPC that was read back** was observed, and then what was observed was
recorded. -/
theorem refresh_of_ok (h : (refresh p w).result = .ok s) :
    ∃ events u more x, p.observed w = ⟨.ok s, events, u⟩ ∧
      Memory.remember .dnsConfig (.str s.vpcId) s.attributes u = ⟨.ok (), more, x⟩ ∧
      refresh p w = ⟨.ok s, events ++ more, x⟩ := by
  obtain ⟨body, sent, y, hsent, -, -⟩ := Action.of_bind_ok h
  have hsend := send_of_ifMissing (fun v found => dropGone_ne_ok v found) hsent
  have hreply : w.nextReply.1 = .ok body :=
    Remote.Reply.result_eq_ok_iff.1 (congrArg Outcome.result hsend)
  rw [refresh_of_answer hreply] at h ⊢
  obtain ⟨t, events, u, hobserved, hrecorded, heq⟩ := Action.of_bind_ok h
  obtain ⟨_, more, x, hremember, hdone, heq'⟩ := Action.of_bind_ok hrecorded
  cases hdone
  have hdone : s.recorded u = ⟨.ok s, more, x⟩ := by
    refine heq'.trans ?_
    simp [Outcome.preceded]
  rw [heq, hdone]
  exact ⟨events, u, more, x, hobserved, hremember, rfl⟩

theorem refresh_of_observed {more : List Event} {x : World}
    (h : p.observed w = ⟨.ok s, events, u⟩)
    (hremember : Memory.remember .dnsConfig (.str s.vpcId) s.attributes u = ⟨.ok (), more, x⟩) :
    refresh p w = ⟨.ok s, events ++ more, x⟩ := by
  obtain ⟨body, read, rest, hreply, -, -, -⟩ := State.observed_of_ok h
  rw [refresh_of_answer hreply, Action.bind_of_ok h, State.recorded, Action.bind_of_ok hremember]
  simp [Outcome.preceded]

/-- A state that can be loaded again is recorded. -/
theorem Recordable.remembers {v : String} (hw : Recordable w) (hs : s.settled.Typed) :
    ∃ more x written, Memory.remember .dnsConfig (.str v) s.attributes w = ⟨.ok (), more, x⟩ ∧
      w.Leads (w.store.records.insert (keyOf v)
        (Memory.record .dnsConfig (.str v) s.attributes written)) x := by
  have hends : (Memory.remember .dnsConfig (.str v) s.attributes).Ends [] w
      (fun _ _ x => ∃ written, w.Leads (w.store.records.insert (keyOf v)
        (Memory.record .dnsConfig (.str v) s.attributes written)) x) fun _ _ _ => False := by
    refine Memory.ends_remember (fun written x hx => ⟨written, hx⟩) fun f x hf hx => ?_
    cases hf with
    | tooDeep hdeep =>
      exact absurd (Nat.le_trans hs.depth_toJson_le (by decide)) (Nat.not_le.2 hdeep)
    | untimed hclock =>
      obtain ⟨now, hnow⟩ := hw.dated
      cases hnow.symm.trans hclock
    | faulty hfaults => exact hfaults hw.faultless
  obtain ⟨_, more, x, hx, written, hleads⟩ := hends.exists_ok
  exact ⟨more, x, written, hx, hleads⟩

/-- A record that loads is not retrieved only if the table has a fault. -/
theorem Unloaded.faults_ne_nil {v : String} {f : Failure} (h : Unloaded v w f)
    (hp : Loads w.store.records v p) : w.store.faults ≠ [] := by
  obtain ⟨record, hrecord, hload⟩ := hp
  cases h with
  | unmanaged habsent => cases hrecord.symm.trans habsent
  | unread hf =>
    cases hf with
    | unfit hfound hc =>
      cases hrecord.symm.trans hfound
      cases hload.symm.trans hc
    | faulty hfaults => exact hfaults

/-- A record that loads is retrieved. -/
theorem retrieveManaged_of_loads {v : String} (hw : w.store.faults = [])
    (hp : Loads w.store.records v p) :
    ∃ events u, Memory.retrieveManaged .dnsConfig (.str v) (State.check .data) w =
      ⟨.ok p, events, u⟩ ∧ w.Leads w.store.records u := by
  have hends : (Memory.retrieveManaged .dnsConfig (.str v) (State.check .data)).Ends [] w
      (fun q _ u => q = p ∧ w.Leads w.store.records u) fun _ _ _ => False :=
    ends_retrieveManaged (fun q u hq hu => ⟨hq.unique hp, hu⟩)
      fun f u hf hu => hf.faults_ne_nil hp hw
  obtain ⟨_, events, u, hu, rfl, hleads⟩ := hends.exists_ok
  exact ⟨events, u, hu, hleads⟩

/-- Attributes that pass their checks are loaded from the record that holds
them. -/
theorem loads_of_attributes {records : Keyed (Keyed Json)} {v : String} {attributes : Json}
    (h : recordedAttributes? records v = some attributes)
    (hq : State.check .data attributes = .ok q) : Loads records v q := by
  obtain ⟨record, hrecord, hattributes⟩ := Option.bind_eq_some_iff.1 h
  refine ⟨record, hrecord, ?_⟩
  have hrequire : (Json.obj record).require Store.attributesAttribute = .ok attributes := by
    unfold Json.require
    simp only [hattributes]
  unfold Memory.ofRecord
  rw [hrequire]
  exact checked_eq_ok_iff.2 hq

end Dns

end NetSteward
