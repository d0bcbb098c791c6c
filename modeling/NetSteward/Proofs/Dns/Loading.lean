import NetSteward.Proofs.Dns.Provenance
import NetSteward.Proofs.Dns.Stale
/-!
# Records that can be loaded again

Loading a record checks every field of its state, but recording it does
not: what the service answers is recorded as it is. So a record can be
written that is never loaded again, which blocks every later operation on
its VPC and every listing. The main result is that this takes an answer
that is not of the expected types: as long as the VPCs and bindings that
the service shows are typed, every recorded configuration loads.
-/

namespace NetSteward

/-- The value at the end of a path of members, where a value that is not
given counts as an empty object. -/
def Json.along (j : Json) : List String → Except Mismatch Json
  | [] => .ok j
  | name :: rest => do (← j.orEmpty.find name).along rest

theorem Json.along_cons {j k : Json} {name : String} (h : j.orEmpty.find name = .ok k)
    (rest : List String) : j.along (name :: rest) = k.along rest := by
  rw [along, h]
  rfl

/-- What has a member is an object. -/
theorem Json.exists_obj_of_find {j k : Json} {name : String} (h : j.find name = .ok k) :
    ∃ members, j = .obj members := by
  cases j with
  | obj members => exact ⟨members, rfl⟩
  | null | bool | int | float | str | arr => cases h

/-- An object is given, unless it is empty. -/
theorem Json.find_orEmpty {j k : Json} {name : String} (h : j.find name = .ok k) :
    j.orEmpty.find name = .ok k := by
  obtain ⟨members, rfl⟩ := exists_obj_of_find h
  cases members with
  | nil => exact h
  | cons => exact h

namespace Dns

open Remote (Call Exchange Reply)

variable {all calls : List Exchange} {records : Keyed (Keyed Json)}
variable {w : World} {p s : State} {body : Json}

/-! ## What the service shows -/

/-- **A VPC is typed** if what it shows of its DNS configuration is of the
types that are recorded: a type of resolver, a reference to a hub and a
number of bindings. -/
structure TypedVpc (body : Json) : Prop where
  type : ∀ j, body.along ["dns", "resolver", "type"] = .ok j → j.isGiven = true →
    ∃ t : ResolverType, j = t.toJson
  hubId : ∀ j, body.along ["dns", "resolver", "vpc", "id"] = .ok j → j.IsOptionalText
  hubCrn : ∀ j, body.along ["dns", "resolver", "vpc", "crn"] = .ok j → j.IsOptionalText
  count : ∀ j, body.along ["dns", "resolution_binding_count"] = .ok j → j.isGiven = true →
    ∃ n, Schema.integer j = .ok n

/-- **A binding is typed** if its identifier and its name are texts, or
null. -/
structure TypedBinding (body : Json) : Prop where
  id : ∀ j, body.find "id" = .ok j → j.IsOptionalText
  name : ∀ j, body.find "name" = .ok j → j.IsOptionalText

/-- Calls in which every VPC and every binding that is shown is typed. -/
structure TypedReplies (calls : List Exchange) : Prop where
  vpc : ∀ vpcId body, (Call.getVpc vpcId, Reply.ok body) ∈ calls → TypedVpc body
  binding : ∀ body, Shown calls body → TypedBinding body

theorem TypedReplies.append {more : List Exchange} (h : TypedReplies calls)
    (h' : TypedReplies more) : TypedReplies (calls ++ more) where
  vpc id body hmem := (List.mem_append.1 hmem).elim (h.vpc id body) (h'.vpc id body)
  binding body hshown := hshown.of_append.elim (h.binding body) (h'.binding body)

theorem TypedReplies.of_showing {id name : Json} (h : TypedReplies calls)
    (hs : Showing calls id name) : id.IsOptionalText ∧ name.IsOptionalText := by
  obtain ⟨body, hshown, hid, hname⟩ := hs
  exact ⟨(h.binding body hshown).id id hid, (h.binding body hshown).name name hname⟩

/-- Calls in which every binding that is created is typed. -/
def TypedCreations (calls : List Exchange) : Prop :=
  ∀ vpcId hub name body, (Call.createBinding vpcId hub name, Reply.ok body) ∈ calls →
    TypedBinding body

theorem TypedReplies.creations (h : TypedReplies calls) : TypedCreations calls :=
  fun _ _ _ body hmem => h.binding body (.created hmem)

theorem TypedCreations.of_append {more : List Exchange} (h : TypedCreations (calls ++ more)) :
    TypedCreations calls :=
  fun vpcId hub name body hmem => h vpcId hub name body (List.mem_append_left more hmem)

theorem Bound.typed {d : Desired} {b : NewBinding} (h : Bound d (.ok b) calls)
    (hcreated : TypedCreations calls) : b.id.IsOptionalText ∧ b.name.IsOptionalText := by
  cases h with
  | created hid hname =>
    have hbody := hcreated _ _ _ _ List.mem_cons_self
    exact ⟨hbody.id _ (Json.find_eq_of_require hid), hbody.name _ hname⟩

/-! ## What is recorded of it -/

/-- **Where the open fields of a state come from** that was read back. -/
theorem State.read_of_overlaid (h : p.overlaid body = .ok s) :
    (∃ j, body.along ["dns", "resolver", "type"] = .ok j ∧
      s.resolverType = if j.isGiven then j else p.resolverType) ∧
    body.along ["dns", "resolver", "vpc", "id"] = .ok s.resolverVpcId ∧
    body.along ["dns", "resolver", "vpc", "crn"] = .ok s.resolverVpcCrn ∧
    (∃ j, body.along ["dns", "resolution_binding_count"] = .ok j ∧
      s.bindingCount = if j.isGiven then j else .int 0) ∧
    s.bindingName = p.bindingName ∧ s.bindingId = p.bindingId := by
  obtain ⟨dns, hdns, h⟩ := bind_eq_ok_iff.1 h
  simp only [State.project, bind_eq_ok_iff, shaped_eq_ok_iff] at h hdns
  obtain ⟨resolver, hresolver, type, htype, given, -, listed, -, servers, -, h⟩ := h
  obtain ⟨vpc, hvpc, hub, -, count, hcount, vpcId, hvpcId, vpcCrn, hvpcCrn, h⟩ := h
  cases h
  have hdns := Json.along_cons (Json.find_orEmpty hdns)
  refine ⟨⟨type, ?_, rfl⟩, ?_, ?_, ⟨count, ?_, rfl⟩, rfl, rfl⟩
  · rw [hdns, Json.along_cons hresolver, Json.along_cons htype]; rfl
  · rw [hdns, Json.along_cons hresolver, Json.along_cons hvpc, Json.along_cons hvpcId]; rfl
  · rw [hdns, Json.along_cons hresolver, Json.along_cons hvpc, Json.along_cons hvpcCrn]; rfl
  · rw [hdns, Json.along_cons hcount]; rfl

theorem State.typed_ofText (v : String) : (State.ofText v).Typed where
  type := ⟨.system, rfl⟩
  hubId := Json.isOptionalText_null
  hubCrn := Json.isOptionalText_null
  name := Json.isOptionalText_null
  count := ⟨0, rfl⟩
  binding := Json.isOptionalText_null

theorem Desired.typed_of_realized {d : Desired} {b : NewBinding} (h : d.realized b = .ok s) :
    s.Typed := by
  obtain ⟨f, id, hf, -, rfl⟩ := Checked.seq_eq_ok_iff.1 h
  obtain ⟨name, -, rfl⟩ := Checked.map_eq_ok_iff.1 hf
  exact ⟨⟨d.resolverType, rfl⟩, ⟨_, rfl⟩, ⟨_, rfl⟩, ⟨_, rfl⟩, ⟨0, rfl⟩, ⟨_, rfl⟩⟩

namespace State.Typed

variable (h : p.Typed)

include h

theorem changed {c : Changes} {t : Transition} (hid : t.id.IsOptionalText)
    (hname : t.name.IsOptionalText) : (p.changed c t).Typed :=
  ⟨⟨c.resolverType, rfl⟩, ⟨_, rfl⟩, ⟨_, rfl⟩, hname, h.count, hid⟩

theorem overlaid (hbody : TypedVpc body) (hs : p.overlaid body = .ok s) : s.Typed := by
  obtain ⟨⟨type, htype, hstype⟩, hhubId, hhubCrn, ⟨count, hcount, hscount⟩, hname, hbinding⟩ :=
    State.read_of_overlaid hs
  refine ⟨?_, hbody.hubId _ hhubId, hbody.hubCrn _ hhubCrn, hname ▸ h.name, ?_,
    hbinding ▸ h.binding⟩
  · rw [hstype]
    split
    next hgiven => exact hbody.type type htype hgiven
    next => exact h.type
  · rw [hscount]
    split
    next hgiven => exact hbody.count count hcount hgiven
    next => exact ⟨0, rfl⟩

theorem loaded (hs : State.check .data p.toJson = .ok s) : s.Typed := by
  obtain ⟨-, n, -, rfl⟩ := State.check_toJson_eq_ok_iff.1 hs
  exact ⟨h.type, h.hubId, h.hubCrn, h.name, ⟨n, rfl⟩, h.binding⟩

/-- What is typed can be sent as it is. -/
theorem settled : p.settled.Typed := by
  obtain ⟨⟨type, htype⟩, ⟨hubId, hhubId⟩, ⟨hubCrn, hhubCrn⟩, ⟨name, hname⟩, ⟨n, hn⟩,
    ⟨binding, hbinding⟩⟩ := h
  refine ⟨⟨type, ?_⟩, ⟨hubId, ?_⟩, ⟨hubCrn, ?_⟩, ⟨name, ?_⟩, ⟨n, ?_⟩, ⟨binding, ?_⟩⟩
  · rw [State.settled, htype]; rfl
  · rw [State.settled, hhubId]; exact Json.finite_ofOption hubId
  · rw [State.settled, hhubCrn]; exact Json.finite_ofOption hubCrn
  · rw [State.settled, hname]; exact Json.finite_ofOption name
  · rw [State.settled]
    -- A number that is read as an integer is finite.
    cases hc : p.bindingCount with
    | float x =>
      rw [hc] at hn
      cases hx : x.isFinite with
      | true => simpa only [Json.finite, hx, if_true] using hn
      | false => rw [Schema.integer, hx] at hn; cases hn
    | bool | int | str => rw [hc] at hn; exact hn
    | null | arr | obj => rw [hc] at hn; cases hn
  · rw [State.settled, hbinding]; exact Json.finite_ofOption binding

end State.Typed

/-- **States are typed** if the replies are that they were formed from. -/
theorem Formed.typed (h : Formed all s) (hall : TypedReplies all) : s.Typed := by
  induction h with
  | blank v => exact State.typed_ofText v
  | realized _ _ hs => exact Desired.typed_of_realized hs
  | @changed p c v t calls _ ht hsub ih =>
    rcases ht.binding_cases hsub with ⟨hid, hname⟩ | ⟨hid, hname | ⟨-, hname⟩⟩ | hshown
    · exact ih.changed (hid ▸ Json.isOptionalText_null) (hname ▸ Json.isOptionalText_null)
    · exact ih.changed (hid ▸ ih.binding) (hname ▸ ih.name)
    · exact ih.changed (hid ▸ ih.binding) (hname ▸ Json.isOptionalText_ofOption _)
    · obtain ⟨hid, hname⟩ := hall.of_showing hshown
      exact ih.changed hid hname
  | overlaid _ hmem hs ih => exact ih.overlaid (hall.vpc _ _ hmem) hs
  | named _ hs hsub ih =>
    rcases hs.eq_or_showing hsub with rfl | ⟨-, body, name, hshown, hname, rfl⟩
    · exact ih
    · exact { ih with name := (hall.binding body hshown).name name hname }
  | adopted _ hlisted hsub hs ih =>
    rcases State.eq_of_adoptFrom hs with rfl | ⟨binding, hmem, id, name, hid, hname, rfl⟩
    · exact ih
    · have hbinding := hall.binding binding (shown_of_listed hlisted hsub hmem)
      exact { ih with binding := hbinding.id id hid, name := hbinding.name name hname }
  | loaded _ hp ih => exact ih.settled.loaded hp

/-! ## Loading -/

/-- Everything that is recorded of DNS configurations can be loaded, so
that retrieving it fails only through a fault of the state table. -/
structure Loadable (w : World) : Prop where
  loads : ∀ record, Store.Found (.str ResourceKind.dnsConfig.name) w.store.records record →
    ∃ p, Memory.ofRecord (State.check .data) record = .ok p
  retrieved : ∀ id f, Memory.Unread (State.check .data) w (keyOf id) f → ∃ e, f = .store e
  listed : ∀ f, Memory.Unlisted (State.check .data) w .dnsConfig f → ∃ e, f = .store e

/-- **A recorded configuration loads exactly if what was recorded is
typed.** -/
theorem record_loads_iff {id : Json} {written : Time.Instant} :
    (∃ p, Memory.ofRecord (State.check .data) (Memory.record .dnsConfig id s.attributes written) =
      .ok p) ↔ s.settled.Typed := by
  have hread : ∀ p, Memory.ofRecord (State.check .data)
      (Memory.record .dnsConfig id s.attributes written) = .ok p ↔
      State.check .data s.settled.toJson = .ok p := fun p => checked_eq_ok_iff
  simp only [hread, State.check_toJson_eq_ok_iff]
  constructor
  · rintro ⟨p, htyped, -⟩
    exact htyped
  · intro htyped
    obtain ⟨n, hn⟩ := htyped.count
    exact ⟨_, htyped, n, hn, rfl⟩

theorem AllFormed.loadable (h : AllFormed all w.store.records) (hall : TypedReplies all) :
    Loadable w := by
  have loads : ∀ id attributes written, RecordsFormed all .dnsConfig id attributes →
      ∃ p, Memory.ofRecord (State.check .data) (Memory.record .dnsConfig id attributes written) =
        .ok p := by
    intro id attributes written hformed
    obtain ⟨s, hs, -, rfl⟩ := hformed rfl
    exact record_loads_iff.2 (hs.typed hall).settled
  have found : ∀ record, Store.Found (.str ResourceKind.dnsConfig.name) w.store.records record →
      ∃ p, Memory.ofRecord (State.check .data) record = .ok p := by
    rintro record ⟨hkind, key, hmem⟩
    obtain ⟨kind, id, attributes, written, heq, hadmitted⟩ := h _ hmem
    cases heq
    have hname : kind.name = ResourceKind.dnsConfig.name := (Json.same_str _ _).1 hkind
    cases ResourceKind.name_injective hname
    exact loads _ _ _ hadmitted
  refine ⟨found, fun id f hf => ?_, fun f hf => ?_⟩
  · cases hf with
    | unfit hr hc =>
      obtain ⟨id, attributes, written, -, rfl, hadmitted⟩ := h.of_get? hr
      obtain ⟨p, hp⟩ := loads _ _ written hadmitted
      cases hc.symm.trans hp
    | faulty => exact ⟨_, rfl⟩
  · cases hf with
    | unfit hr hc =>
      obtain ⟨p, hp⟩ := found _ hr
      cases hc.symm.trans hp
    | faulty => exact ⟨_, rfl⟩

/-- **Every configuration that was recorded can be loaded again**, after any
history of any operations that starts without records and in which the
service shows typed VPCs and bindings. -/
theorem recorded_configs_load {turns : List Turn} (hstart : w.store.records = [])
    (hall : TypedReplies (callsOf (visits w turns))) : Loadable (worldAfter w turns) := by
  refine AllFormed.loadable (formed_worldAfter (List.Subset.refl _) ?_) hall
  rw [hstart]
  exact .nil

theorem started_calls :
    callsOf (visits (calm [] []) [starting]) =
      [(delegating.bindingCall, .ok boundBody), (delegating.patchCall, .ok .null),
        (.getVpc (.str "vpc-1"), .ok spokeVpc),
        (.list (bindingsOf "vpc-1") none (.int 50), .ok (bindingsPage [boundBody]))] := rfl

theorem spokeVpc_typed : TypedVpc spokeVpc where
  type _ hj _ := by cases hj; exact ⟨.delegated, rfl⟩
  hubId _ hj := by cases hj; exact ⟨some "hub-1", rfl⟩
  hubCrn _ hj := by cases hj; exact ⟨none, rfl⟩
  count _ hj hgiven := by cases hj; cases hgiven

theorem boundBody_typed : TypedBinding boundBody where
  id _ hj := by cases hj; exact ⟨some "b-1", rfl⟩
  name _ hj := by cases hj; exact ⟨some "to-hub", rfl⟩

theorem plainVpc_typed : TypedVpc plainVpc where
  type _ hj _ := by cases hj; exact ⟨.system, rfl⟩
  hubId _ hj := by cases hj; exact ⟨none, rfl⟩
  hubCrn _ hj := by cases hj; exact ⟨none, rfl⟩
  count _ hj hgiven := by cases hj; cases hgiven

/-- The one binding that is shown in the first turn. -/
theorem eq_of_started_shown {body : Json}
    (h : Shown (callsOf (visits (calm [] []) [starting])) body) : body = boundBody := by
  rw [started_calls] at h
  cases h with
  | created hmem =>
    simp [Desired.bindingCall, Desired.patchCall] at hmem
    exact hmem.2
  | listed hmem hitems hon =>
    simp [Desired.bindingCall, Desired.patchCall] at hmem
    obtain ⟨-, -, -, rfl⟩ := hmem
    cases hitems
    exact List.mem_singleton.1 hon

theorem started_typed : TypedReplies (callsOf (visits (calm [] []) [starting])) := by
  refine ⟨fun vpcId body hmem => ?_, fun body hshown => ?_⟩
  · rw [started_calls] at hmem
    simp [Desired.bindingCall, Desired.patchCall] at hmem
    exact hmem.2 ▸ spokeVpc_typed
  · exact eq_of_started_shown hshown ▸ boundBody_typed

theorem recorded_configs_load_started : Loadable (worldAfter (calm [] []) [starting]) :=
  recorded_configs_load rfl started_typed

/-- What the service shows of a VPC with a resolver of a type of its
own. -/
def strangeVpc : Json :=
  .obj [("dns", .obj [("enable_hub", .bool false), ("resolver", .obj [("type", .str "private")])])]

/-- A VPC gets the system's resolver, but shows another one. -/
def strange : Turn := calmTurn (.createDns plain) [.ok .null, .ok strangeVpc]

/-- The VPC is read back, when it shows the system's resolver. -/
def rereading : Turn := calmTurn (.readDns (.str "vpc-1")) [.ok plainVpc]

/-- What is recorded of the VPC. -/
def strangeState : State := { State.ofText "vpc-1" with resolverType := .str "private" }

/-- **A record can be written that is never loaded again**: the operation
that writes it succeeds, and any later one fails, as it finds a type of
resolver that it does not know. -/
theorem recorded_config_unloadable_strange :
    (strange.visit (calm [] [])).outcome.result = .ok strangeState.toJson ∧
      ¬ Loadable (worldAfter (calm [] []) [strange]) ∧
      (rereading.visit (worldAfter (calm [] []) [strange])).outcome.result =
        .error (.unreadable (.invalid
          [⟨.notAmong ["system", "manual", "delegated"], [.member "resolver_type"]⟩])) := by
  refine ⟨rfl, fun h => ?_, rfl⟩
  obtain ⟨⟨type, htype⟩, -⟩ :=
    record_loads_iff.1 (h.loads _ ⟨rfl, keyOf "vpc-1", List.mem_singleton.2 rfl⟩)
  have hname : "private" = type.name := Json.str.inj htype
  cases type <;> exact absurd hname (by decide)

end Dns

end NetSteward
