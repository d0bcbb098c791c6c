import NetSteward.Proofs.Dns.Loading
import NetSteward.Proofs.Survival
/-!
# Changes that the service answers well

What a change needs of the service is little: every call is answered, the
bindings and the VPC that are shown can be read, and what is read of them is
of the expected types. The main result is that nothing else stands in the way
of a change: one that is admissible, starts from a record that loads and is
answered well at every call returns, if the state table has no fault and the
clock shows a date.
-/

namespace NetSteward

/-- A path is followed one member at a time. -/
theorem Json.along_cons_eq_ok_iff {j k : Json} {name : String} {rest : List String} :
    j.along (name :: rest) = .ok k ↔ ∃ m, j.orEmpty.find name = .ok m ∧ m.along rest = .ok k :=
  bind_eq_ok_iff

theorem Json.along_singleton {j : Json} {name : String} : j.along [name] = j.orEmpty.find name := by
  rw [along]
  cases j.orEmpty.find name <;> rfl

namespace Dns

open Remote (Call Exchange Reply)

variable {past calls more : List Exchange} {w x : World} {d : Desired} {p s : State}
variable {j k body : Json}

/-! ## What is answered well -/

/-- The members of a VPC that are read. -/
def vpcPaths : List (List String) :=
  [["dns", "resolver", "type"], ["dns", "resolver", "manual_servers"],
    ["dns", "resolver", "vpc", "id"], ["dns", "resolver", "vpc", "crn"],
    ["dns", "resolution_binding_count"]]

/-- A server has an address and perhaps the name of a zone. -/
def WellTypedServer (server : Json) : Prop :=
  ∃ address name, server.require "address" = .ok (.str address) ∧
    server.along ["zone_affinity", "name"] = .ok name ∧ name.IsOptionalText

/-- **A VPC is well typed** if it is typed, there are objects wherever a
member is read, and its servers have addresses. -/
structure WellTypedVpc (body : Json) : Prop extends TypedVpc body where
  object : ∃ dns, body.find "dns" = .ok dns
  reached : ∀ path ∈ vpcPaths, ∃ j, body.along path = .ok j
  servers : ∀ j, body.along ["dns", "resolver", "manual_servers"] = .ok j → j.isGiven = true →
    ∃ items, j = .arr items ∧ ∀ server ∈ items, WellTypedServer server

/-- **A binding is well typed** if it is typed and an object. -/
structure WellTypedBinding (body : Json) : Prop extends TypedBinding body where
  object : ∃ members, body = .obj members

/-- **A call that is answered well.** -/
inductive WellAnswered : Exchange → Prop
  /-- The binding that was created has an identifier. -/
  | bound {vpcId hub name body id : Json} (hid : body.require "id" = .ok id)
      (h : WellTypedBinding body) : WellAnswered (.createBinding vpcId hub name, .ok body)
  | patched {vpcId patch body : Json} : WellAnswered (.patchVpc vpcId patch, .ok body)
  | renamed {vpcId bindingId patch body : Json} :
      WellAnswered (.patchBinding vpcId bindingId patch, .ok body)
  | removed {vpcId bindingId body : Json} : WellAnswered (.deleteBinding vpcId bindingId, .ok body)
  | shown {vpcId body : Json} (h : WellTypedVpc body) : WellAnswered (.getVpc vpcId, .ok body)
  /-- The page holds bindings, and the address of the next page, if it
  names one, can be read. -/
  | listed {vpcId limit page : Json} {start : Option String} {bindings : List Json}
      {next : Option String} (hpage : Remote.readPage (.bindings vpcId) page = .ok (bindings, next))
      (h : ∀ binding ∈ bindings, WellTypedBinding binding) :
      WellAnswered (.list (.bindings vpcId) start limit, .ok page)

/-- Every call is answered well. -/
def AllAnswered (calls : List Exchange) : Prop := ∀ e ∈ calls, WellAnswered e

theorem allAnswered_append : AllAnswered (calls ++ more) ↔ AllAnswered calls ∧ AllAnswered more :=
  List.forall_mem_append

theorem WellAnswered.result_eq {call : Call} {reply : Reply} {purpose : String} {f : Failure}
    (h : WellAnswered (call, reply)) : reply.result purpose ≠ .error f := by
  cases h <;> exact fun hf => by cases hf

theorem AllAnswered.head {e : Exchange} (h : AllAnswered (e :: calls)) : WellAnswered e :=
  (List.forall_mem_cons.1 h).1

/-! ## Reading what is shown -/

/-- A server that is well typed can be read. -/
theorem WellTypedServer.read {server : Json} (h : WellTypedServer server) :
    ∃ read, ManualServer.ofBlock server = .ok read := by
  obtain ⟨address, name, haddress, hname, ⟨zone, rfl⟩⟩ := h
  obtain ⟨affinity, haffinity⟩ := find_of_require haddress "zone_affinity"
  obtain ⟨found, hfound, hname⟩ := Json.along_cons_eq_ok_iff.1 hname
  cases hfound.symm.trans (Json.find_orEmpty haffinity)
  obtain ⟨found, hfound, hname⟩ := Json.along_cons_eq_ok_iff.1 hname
  cases hname
  refine ⟨⟨address, zone⟩, ?_⟩
  simp only [ManualServer.ofBlock, bind_eq_ok_iff, shaped_eq_ok_iff]
  refine ⟨_, haddress, _, haffinity, _, hfound, ?_⟩
  exact checked_eq_ok_iff.2 (ManualServer.check_toJson ⟨address, zone⟩)

theorem readEach_of_forall {α : Type} {read : Json → Read α} {items : List Json}
    (h : ∀ item ∈ items, ∃ a, read item = .ok a) : ∃ as, readEach read items = .ok as := by
  induction items with
  | nil => exact ⟨[], rfl⟩
  | cons item rest ih =>
    obtain ⟨⟨a, ha⟩, hrest⟩ := List.forall_mem_cons.1 h
    obtain ⟨as, has⟩ := ih hrest
    exact ⟨a :: as, by rw [readEach, ha, has]; rfl⟩

/-- What has one member has any. -/
theorem find?_of_find {name : String} (h : j.find name = .ok k) (other : String) :
    ∃ found, j.find? other = .ok found := by
  obtain ⟨members, rfl⟩ := Json.exists_obj_of_find h
  exact ⟨_, rfl⟩

theorem find_of_find {name : String} (h : j.find name = .ok k) (other : String) :
    ∃ found, j.find other = .ok found := by
  obtain ⟨members, rfl⟩ := Json.exists_obj_of_find h
  exact ⟨_, rfl⟩

/-- The servers of a VPC that is well typed can be read. -/
theorem WellTypedVpc.readServers (h : WellTypedVpc body)
    (hj : body.along ["dns", "resolver", "manual_servers"] = .ok j) :
    ∃ items servers, j.iterateGiven = .ok items ∧
      readEach ManualServer.ofBlock items = .ok servers := by
  unfold Json.iterateGiven
  by_cases hgiven : j.isGiven = true
  · obtain ⟨items, rfl, hitems⟩ := h.servers j hj hgiven
    rw [if_pos hgiven]
    obtain ⟨servers, hservers⟩ := readEach_of_forall fun item hmem => (hitems item hmem).read
    exact ⟨items, servers, rfl, hservers⟩
  · rw [if_neg hgiven]
    exact ⟨[], [], rfl, rfl⟩

/-- **What is well typed can be laid over any state.** -/
theorem WellTypedVpc.overlaid (h : WellTypedVpc body) (p : State) :
    ∃ s, p.overlaid body = .ok s := by
  obtain ⟨dns, hdns⟩ := h.object
  have hwithin := Json.along_cons (Json.find_orEmpty hdns)
  -- All paths go through the block, and all but one through its resolver.
  have reached : ∀ rest, "dns" :: rest ∈ vpcPaths → ∃ j, dns.along rest = .ok j :=
    fun rest hmem => (h.reached _ hmem).imp fun _ hj => (hwithin rest).symm.trans hj
  obtain ⟨type, htype⟩ := reached ["resolver", "type"] (by decide)
  obtain ⟨given, hgiven⟩ := reached ["resolver", "manual_servers"] (by decide)
  obtain ⟨hubId, hhubId⟩ := reached ["resolver", "vpc", "id"] (by decide)
  obtain ⟨hubCrn, hhubCrn⟩ := reached ["resolver", "vpc", "crn"] (by decide)
  obtain ⟨count, hcount⟩ := reached ["resolution_binding_count"] (by decide)
  obtain ⟨items, servers, hitems, hservers⟩ :=
    h.readServers ((hwithin ["resolver", "manual_servers"]).trans hgiven)
  obtain ⟨resolver, hresolver, htype⟩ := Json.along_cons_eq_ok_iff.1 htype
  have hthrough := Json.along_cons hresolver
  rw [hthrough] at hgiven hhubId hhubCrn
  obtain ⟨vpc, hvpc, hhubId⟩ := Json.along_cons_eq_ok_iff.1 hhubId
  rw [Json.along_cons hvpc] at hhubCrn
  rw [Json.along_singleton] at htype hgiven hcount hhubId hhubCrn
  obtain ⟨hub, hhub⟩ := find?_of_find hresolver "enable_hub"
  simp only [State.overlaid, State.project, bind_eq_ok_iff, shaped_eq_ok_iff]
  exact ⟨_, dns, hdns, resolver, hresolver, type, htype, given, hgiven, items, hitems, servers,
    hservers, vpc, hvpc, hub, hhub, count, hcount, hubId, hhubId, hubCrn, hhubCrn, rfl⟩

/-! ## Looking a name up -/

/-- A walk through bindings whose pages are all answered well goes to its
end. -/
theorem exists_of_walked {vpcId : Json} {start : Option String}
    {result : Except Failure (List Json)}
    (h : Remote.Walked (.bindings vpcId) start result calls) (hall : AllAnswered calls) :
    ∃ bindings, result = .ok bindings ∧ ∀ binding ∈ bindings, WellTypedBinding binding := by
  have typed : ∀ {start limit page bindings next},
      Remote.readPage (.bindings vpcId) page = .ok (bindings, next) →
      WellAnswered (.list (.bindings vpcId) start limit, .ok page) →
        ∀ binding ∈ bindings, WellTypedBinding binding := by
    intro start limit page bindings next hread hanswered
    cases hanswered with
    | listed hpage htyped =>
      cases hread.symm.trans hpage
      exact htyped
  induction h with
  | unanswered hreply => exact absurd hreply hall.head.result_eq
  | garbled hread =>
    cases hall.head with
    | listed hpage => cases hread.symm.trans hpage
  | last hread => exact ⟨_, rfl, typed hread hall.head⟩
  | next hread _ ih =>
    obtain ⟨hhead, hrest⟩ := List.forall_mem_cons.1 hall
    obtain ⟨others, rfl, hmore⟩ := ih hrest
    exact ⟨_, rfl, List.forall_mem_append.2 ⟨typed hread hhead, hmore⟩⟩

/-- Bindings are listed in full if all is answered well. -/
theorem ends_listBindings {vpcId : Json} {done : List Json → List Exchange → World → Prop}
    {failed : Failure → List Exchange → World → Prop}
    (listed : ∀ bindings calls v, (AllAnswered calls → ∀ b ∈ bindings, WellTypedBinding b) →
      w.Leads w.store.records v → done bindings (past ++ calls) v)
    (broken : ∀ f calls v, ¬ AllAnswered calls → w.Leads w.store.records v →
      failed f (past ++ calls) v) :
    (Remote.listAll (.bindings vpcId)).Ends past w done failed := by
  refine (Remote.listAll_still _).ends (fun bindings calls v h hv => ?_) fun f calls v h hv => ?_
  · refine listed bindings calls v (fun hall => ?_) hv
    obtain ⟨found, hfound, htyped⟩ := exists_of_walked h hall
    cases hfound
    exact htyped
  · refine broken f calls v (fun hall => ?_) hv
    obtain ⟨found, hfound, -⟩ := exists_of_walked h hall
    cases hfound

theorem WellTypedBinding.find (h : WellTypedBinding body) (name : String) :
    ∃ j, body.find name = .ok j := by
  obtain ⟨members, rfl⟩ := h.object
  exact ⟨_, rfl⟩

/-- Among bindings that are well typed a name is found, if only null. -/
theorem nameOfBinding_of_wellTyped {bindings : List Json}
    (h : ∀ b ∈ bindings, WellTypedBinding b) :
    ∃ name, nameOfBinding j bindings = .ok name ∧ name.IsOptionalText := by
  induction bindings with
  | nil => exact ⟨.null, rfl, Json.isOptionalText_null⟩
  | cons binding rest ih =>
    obtain ⟨hbinding, hrest⟩ := List.forall_mem_cons.1 h
    obtain ⟨id, hid⟩ := hbinding.find "id"
    obtain ⟨name, hname⟩ := hbinding.find "name"
    rw [nameOfBinding, hid]
    by_cases hsame : id.same j = true
    · exact ⟨name, by simp only [bind, Except.bind, if_pos hsame, hname], hbinding.name name hname⟩
    · obtain ⟨other, hother, htyped⟩ := ih hrest
      exact ⟨other, by simp only [bind, Except.bind, if_neg hsame, hother], htyped⟩

/-- **The name of a binding is looked up without harm**: a state stays
typed. -/
theorem ends_withBindingName {done : State → List Exchange → World → Prop}
    {failed : Failure → List Exchange → World → Prop}
    (named : ∀ t calls v, (AllAnswered calls → s.Typed → t.Typed) → w.Leads w.store.records v →
      done t (past ++ calls) v)
    (fails : ∀ f calls v, ¬ AllAnswered calls → w.Leads w.store.records v →
      failed f (past ++ calls) v) : s.withBindingName.Ends past w done failed := by
  have asItIs : ∀ calls v, w.Leads w.store.records v → done s (past ++ calls) v :=
    fun calls v hv => named s calls v (fun _ hs => hs) hv
  unfold State.withBindingName lookUpBindingName Action.onRefusal
  by_cases h : (s.isDelegated && s.hasBinding) = true
  · rw [if_pos h]
    simp only [Action.ends_bind, Action.ends_recover, Action.ends_map, Action.ends_pure]
    refine ends_listBindings (fun bindings calls v htyped hv => ?_) fun f calls v hf hv => ?_
    · refine Action.ends_ofShape (fun name hname => ?_) fun m hm => ?_
      · refine named _ calls v (fun hall hs => ?_) hv
        split
        next =>
          obtain ⟨found, hfound, hoptional⟩ := nameOfBinding_of_wellTyped (htyped hall)
          cases hname.symm.trans hfound
          exact { hs with name := hoptional }
        next => exact hs
      · refine fails _ calls v (fun hall => ?_) hv
        obtain ⟨found, hfound, -⟩ := nameOfBinding_of_wellTyped (htyped hall)
        cases hm.symm.trans hfound
    · cases f with
      | refused => exact Action.ends_pure.2 (Action.ends_pure.2 (asItIs calls v hv))
      | violation | unlinked | disconnected | gone | unreadable | store =>
        exact fails _ calls v hf hv
  · rw [if_neg h]
    have hnone := asItIs [] w (.refl w)
    rw [List.append_nil] at hnone
    exact Action.ends_pure.2 hnone

/-! ## Changing -/

/-- The state table has no fault and the clock shows a date. -/
structure Recordable (w : World) : Prop where
  faultless : w.store.faults = []
  dated : ∃ now, w.clock.read = .ok now

theorem Recordable.of_leads {records : Keyed (Keyed Json)} (h : Recordable w)
    (hx : w.Leads records x) : Recordable x :=
  ⟨hx.faults_eq.trans h.faultless, hx.clock_eq ▸ h.dated⟩

/-- A typed state is recorded. -/
theorem Recordable.not_unwritten {f : Failure} (h : Recordable w) (hs : s.Typed) :
    ¬ Memory.Unwritten w s.attributes f := by
  intro hf
  cases hf with
  | tooDeep hdeep =>
    exact absurd (Nat.le_trans hs.settled.depth_toJson_le (by decide)) (Nat.not_le.2 hdeep)
  | untimed hclock =>
    obtain ⟨now, hnow⟩ := h.dated
    cases hnow.symm.trans hclock
  | faulty hfaults => exact hfaults h.faultless

/-- **A VPC that is answered well is read back.** -/
theorem ends_refresh (hw : Recordable w) (hp : AllAnswered past → p.Typed) :
    (refresh p).Ends past w (fun _ _ _ => True) fun _ calls _ => ¬ AllAnswered calls := by
  have unanswered : ∀ {call reply}, ¬ WellAnswered (call, reply) →
      ¬ AllAnswered (past ++ [(call, reply)]) :=
    fun hreply hall => hreply (allAnswered_append.1 hall).2.head
  unfold refresh Action.ifMissing Memory.dropGone Memory.gone Remote.send
  refine Action.ends_bind.2 (Action.ends_recover.2 (Remote.ends_sendFor (fun body v hv => ?_)
    (fun r v hv => ?_) fun reason v hv => unanswered fun h => by cases h))
  · refine ends_overlaid (fun read hread => ?_) fun cause hc => unanswered fun h => ?_
    · refine Action.ends_bind.2 (ends_withBindingName (fun t calls u ht hu => ?_)
        fun f calls u hf hu hall => hf (allAnswered_append.1 hall).2)
      refine Action.ends_bind.2 (Memory.ends_remember (fun written x hx => ?_)
        fun f x hf hx hall => ?_)
      · exact Action.ends_pure.2 trivial
      · obtain ⟨hbefore, hcalls⟩ := allAnswered_append.1 hall
        obtain ⟨hpast, hbody⟩ := allAnswered_append.1 hbefore
        cases hbody.head with
        | shown hbody =>
          have hread := (hp hpast).overlaid hbody.toTypedVpc hread
          exact ((hw.of_leads hv).of_leads hu).not_unwritten (ht hcalls hread) hf
    · cases h with
      | shown hbody =>
        obtain ⟨s, hs⟩ := hbody.overlaid p
        cases hs.symm.trans hc
  · by_cases hr : r.isNotFound = true
    · simp only [if_pos hr, Action.ends_bind]
      refine Memory.ends_forget (fun u hu => ?_) fun e u hf hu => unanswered fun h => by cases h
      exact Action.ends_fail.2 (unanswered fun h => by cases h)
    · simp only [if_neg hr]
      exact unanswered fun h => by cases h

/-- A binding is not created only if that is not answered well. -/
theorem Bound.not_allAnswered {f : Failure} (h : Bound d (.error f) calls) :
    ¬ AllAnswered calls := by
  intro hall
  cases h with
  | garbled hm =>
    cases hall.head with
    | bound hid => cases hm.symm.trans hid
  | unanswered hr => exact hall.head.result_eq hr

theorem GivenUp.not_allAnswered {f : Failure} (h : GivenUp j k (.error f) calls) :
    ¬ AllAnswered calls := by
  intro hall
  cases h with
  | cut => cases hall.head

theorem Applied.not_allAnswered {f : Failure} (h : Applied d j (.error f) calls) :
    ¬ AllAnswered calls := by
  intro hall
  cases h with
  | refused | stuck | cut => cases hall.head

theorem Prepared.not_allAnswered {f : Failure} (h : Prepared p d (.error f) calls) :
    ¬ AllAnswered calls := by
  cases h with
  | unleft _ hcalls => exact hcalls.not_allAnswered
  | unentered _ _ hf => exact hf.not_allAnswered
  | unrenamed _ _ _ hf => exact fun hall => hall.head.result_eq hf

/-- What is answered well is typed. -/
theorem AllAnswered.typedReplies (h : AllAnswered calls) : TypedReplies calls := by
  refine ⟨fun vpcId body hmem => ?_, fun body hshown => ?_⟩
  · cases h _ hmem with
    | shown hbody => exact hbody.toTypedVpc
  · cases hshown with
    | created hmem =>
      cases h _ hmem with
      | bound _ hbody => exact hbody.toTypedBinding
    | listed hmem hitems hon =>
      cases h _ hmem with
      | listed hpage htyped =>
        cases hitems.symm.trans (Remote.pageItems_of_readPage hpage)
        exact (htyped _ hon).toTypedBinding

/-- What is prepared can be recorded, if a binding that is created for it is
typed. -/
theorem Prepared.typed_of_creations {t : Transition} (h : Prepared p d (.ok t) calls)
    (hcreated : TypedCreations calls) (hp : p.Typed) :
    t.id.IsOptionalText ∧ t.name.IsOptionalText := by
  cases h with
  | left => exact ⟨Json.isOptionalText_null, Json.isOptionalText_null⟩
  | kept => exact ⟨hp.binding, hp.name⟩
  | entered _ _ hb => exact hb.typed hcreated
  | renamed => exact ⟨hp.binding, Json.isOptionalText_ofOption _⟩

theorem Prepared.typed {t : Transition} (h : Prepared p d (.ok t) calls) (hall : AllAnswered calls)
    (hp : p.Typed) : t.id.IsOptionalText ∧ t.name.IsOptionalText :=
  h.typed_of_creations hall.typedReplies.creations hp

/-- A record that loads is one of a typed state. -/
theorem Loads.typed {records : Keyed (Keyed Json)} {v : String} (h : Loads records v p) :
    p.Typed := by
  obtain ⟨record, members, -, -, hp⟩ := h.attributes_eq
  exact (State.typed_of_check hp).1

/-- **A change that is answered well at every call returns.** -/
theorem update_returns {v : String} {c : Changes} (hs : Started v c w d p) (hw : Recordable w)
    (hall : AllAnswered (update (.str v) c w).calls) :
    ∃ s, (update (.str v) c w).result = .ok s := by
  have hends : (update (.str v) c).Ends [] w (fun _ _ _ => True)
      fun _ calls _ => ¬ AllAnswered calls := by
    unfold update Desired.demandValid
    simp only [hs.admitted, Action.ofChecked, checked_ok, Action.ofRead_ok, pure_bind, hs.valid]
    refine Action.ends_bind.2 (ends_retrieveManaged (fun q u hq hu => ?_) fun f u hf hu => ?_)
    · cases hq.unique hs.loads
      have hu := hw.of_leads hu
      rw [← bind_assoc]
      refine Action.ends_bind.2 ((prepare_still p d).ends (fun t before x ht hx => ?_)
        fun f calls x hf hx => hf.not_allAnswered)
      have hx := hu.of_leads hx
      refine Action.ends_bind.2 ((applyOrRollBack_still d t.created).ends
        (fun _ calls y ha hy => ?_)
        fun f calls y hf hy hall => hf.not_allAnswered (allAnswered_append.1 hall).2)
      have hy := hx.of_leads hy
      refine Action.ends_bind.2 ((removeGivenQuietly_still (.str v) t.replaced).ends
        (fun _ after z hr hz => ?_)
        fun f after z hf hz hall => hf.not_allAnswered (allAnswered_append.1 hall).2)
      have hz := hy.of_leads hz
      have htyped : AllAnswered ([] ++ before ++ calls ++ after) → (p.changed c t).Typed := by
        intro hall
        rw [List.nil_append, allAnswered_append, allAnswered_append] at hall
        obtain ⟨hid, hname⟩ := ht.typed hall.1.1 hs.loads.typed
        exact hs.loads.typed.changed hid hname
      refine Action.ends_bind.2 (Memory.ends_remember (fun written r hr => ?_)
        fun f r hf hr hall => hz.not_unwritten (htyped hall) hf)
      exact ends_refresh (hz.of_leads hr) htyped
    · exfalso
      obtain ⟨record, hrecord, hread⟩ := hs.loads
      cases hf with
      | unmanaged habsent => cases hrecord.symm.trans habsent
      | unread hf =>
        cases hf with
        | unfit hfound hc =>
          cases hrecord.symm.trans hfound
          cases hread.symm.trans hc
        | faulty hfaults => exact hfaults hw.faultless
  cases hr : (update (.str v) c w).result with
  | ok s => exact ⟨s, rfl⟩
  | error f =>
    rw [Action.Ends, hr] at hends
    exact absurd hall hends

end Dns

end NetSteward
