import NetSteward.Proofs.Dns.Typed
import NetSteward.Proofs.Schema.Field
import NetSteward.Schema.Catalogue
/-!
# Records that are read again

What is written of a record is not what the record was read from: members
that are not known are gone, defaults are filled in, and numbers and truth
values have one form. The main result is that nothing more is lost: every
published record that was read is read again, as the same, from how it is
written. Most records are read again whatever they hold. The others hold
texts in a form or values of a kind, and are read again because they were
read before.
-/

namespace NetSteward

variable {origin other : Schema.Origin} {j : Json} {members : Keyed Json}

/-! ## Bindings -/

theorem Reference.check_toJson (title : String) (r : Reference) :
    check origin title r.toJson = .ok r := by
  simp [check, toJson]

namespace Binding

theorem check_toJson (b : Binding) : check origin b.toJson = .ok b := by
  have hgateways : ∀ gateways, Schema.list (Reference.check origin Reference.gatewayTitle)
      (.arr (gateways.map Reference.toJson)) = .ok gateways :=
    fun gateways => Schema.list_map fun r _ => r.check_toJson _
  have hhub : ∀ r : Reference,
      Schema.nullable (Reference.check origin Reference.hubTitle) r.toJson = .ok (some r) :=
    fun r => congrArg (some <$> ·) (r.check_toJson Reference.hubTitle)
  obtain ⟨id, vpcId, name, createdAt, health, href, lifecycle, type, hub, gateways⟩ := b
  cases hub with
  | none => simp [check, fields, toJson, hgateways]
  | some r => simp [check, fields, toJson, hgateways, hhub]

theorem Listing.check_toJson (l : Listing) : check origin l.toJson = .ok l := by
  have hbindings : Schema.list (Binding.check origin) (.arr (l.bindings.map Binding.toJson)) =
      .ok l.bindings := Schema.list_map fun b _ => b.check_toJson
  simp [check, toJson, hbindings]

theorem Request.check_toJson {r : Request} (h : check origin j = .ok r) :
    check other r.toJson = .ok r := by
  obtain ⟨members, h⟩ := Schema.exists_of_record h
  rw [Checked.andThen_eq_ok_iff] at h
  obtain ⟨read, hread, h⟩ := h
  split at h
  next htarget =>
    cases h
    simp only [Checked.seq_eq_ok_iff] at hread
    obtain ⟨_, href, ⟨_, crn, ⟨_, id, hfirst, -, rfl⟩, -, rfl⟩, -, rfl⟩ := hread
    obtain ⟨name, hname, rfl⟩ := Checked.map_eq_ok_iff.1 hfirst
    have hname := Schema.nullable_boundedText_of_defaulted hname
    have hread : check other (toJson ⟨name, id, crn, href⟩) =
        if isGiven id || isGiven crn || isGiven href then .ok ⟨name, id, crn, href⟩
        else .issue .noTarget := by
      simp [check, toJson, Schema.name, hname, Checked.andThen]
    exact hread.trans (if_pos htarget)
  next => cases h

theorem Renaming.check_toJson {r : Renaming} (h : check origin j = .ok r) :
    check other r.toJson = .ok r := by
  obtain ⟨members, h⟩ := Schema.exists_of_record h
  obtain ⟨name, hname, rfl⟩ := Checked.map_eq_ok_iff.1 h
  simp [check, toJson, Schema.name, Schema.boundedText_of_required hname]

end Binding

/-! ## Placement groups -/

namespace PlacementGroup

theorem Strategy.check_toJson (s : Strategy) : check s.toJson = .ok s := by
  cases s <;> rfl

theorem check_toJson (g : PlacementGroup) : check origin g.toJson = .ok g := by
  simp [check, fields, toJson, Strategy.check_toJson]

theorem Listing.check_toJson (l : Listing) : check origin l.toJson = .ok l := by
  have hgroups : Schema.list (PlacementGroup.check origin)
      (.arr (l.groups.map PlacementGroup.toJson)) = .ok l.groups :=
    Schema.list_map fun g _ => g.check_toJson
  simp [check, toJson, hgroups]

theorem Request.check_toJson {r : Request} (h : check origin j = .ok r) :
    check other r.toJson = .ok r := by
  obtain ⟨members, h⟩ := Schema.exists_of_record h
  simp only [Checked.seq_eq_ok_iff] at h
  obtain ⟨f, resourceGroup, ⟨g, name, hstrategy, hname, rfl⟩, -, rfl⟩ := h
  obtain ⟨strategy, -, rfl⟩ := Checked.map_eq_ok_iff.1 hstrategy
  have hname := Schema.nullable_boundedText_of_defaulted hname
  simp [check, toJson, Schema.name, hname, Strategy.check_toJson]

theorem Renaming.check_toJson {r : Renaming} (h : check origin j = .ok r) :
    check other r.toJson = .ok r := by
  obtain ⟨members, h⟩ := Schema.exists_of_record h
  obtain ⟨name, hname, rfl⟩ := Checked.map_eq_ok_iff.1 h
  simp [check, toJson, Schema.name, Schema.boundedText_of_required hname]

end PlacementGroup

/-! ## Routes -/

namespace Route

theorem Deleted.check_toJson (d : Deleted) : check origin d.toJson = .ok d := by
  simp [check, toJson]

/-- An optional mark is read as it was written. -/
theorem Deleted.nullable_optionJson (d : Option Deleted) :
    Schema.nullable (check origin) (optionJson d) = .ok d := by
  cases d with
  | none => rfl
  | some d => exact congrArg (some <$> ·) d.check_toJson

namespace NextHop

theorem checkIp_toJson (address : String) :
    checkIp origin (ip address).toJson = .ok (ip address) := by
  have hkind : Schema.choice [(ipKind, ())] (.str ipKind) = .ok () := rfl
  simp [checkIp, toJson, Schema.kindField, hkind]

theorem checkConnection_toJson (c : Connection) :
    checkConnection origin (vpnConnection c).toJson = .ok (vpnConnection c) := by
  have hkind : Schema.choice [(connectionKind, ())] (.str connectionKind) = .ok () := rfl
  simp [checkConnection, toJson, Schema.kindField, hkind, Deleted.field,
    Deleted.nullable_optionJson]

theorem check_toJson (n : NextHop) : check origin n.toJson = .ok n := by
  cases n with
  | ip address =>
    have hread : (checkIp origin (ip address).toJson).within (.member ipKind) =
        .ok (ip address) := by rw [checkIp_toJson, Checked.within_ok]
    exact hread
  | vpnConnection c =>
    have hread : (checkConnection origin (vpnConnection c).toJson).within
        (.member connectionKind) = .ok (vpnConnection c) := by
      rw [checkConnection_toJson, Checked.within_ok]
    exact hread

/-- What is read as an address is one. -/
theorem eq_ip_of_checkIp {n : NextHop} (h : checkIp origin j = .ok n) :
    ∃ address, n = ip address := by
  obtain ⟨members, h⟩ := Schema.exists_of_record h
  obtain ⟨f, address, hf, -, rfl⟩ := Checked.seq_eq_ok_iff.1 h
  obtain ⟨u, -, rfl⟩ := Checked.map_eq_ok_iff.1 hf
  exact ⟨address, rfl⟩

theorem eq_vpnConnection_of_checkConnection {n : NextHop} (h : checkConnection origin j = .ok n) :
    ∃ c, n = vpnConnection c := by
  obtain ⟨members, h⟩ := Schema.exists_of_record h
  simp only [Checked.seq_eq_ok_iff, Checked.map_eq_ok_iff] at h
  obtain ⟨_, deleted, ⟨_, type, ⟨_, name, ⟨_, href, ⟨_, id, ⟨_, -, rfl⟩, -, rfl⟩, -, rfl⟩, -, rfl⟩,
    -, rfl⟩, -, rfl⟩ := h
  exact ⟨_, rfl⟩

end NextHop

/-- The members of a reference are read among others behind them. -/
theorem CreatorReference.fields_members (r : CreatorReference) (more : Keyed Json) :
    fields origin (r.members ++ more) = .ok r := by
  simp [fields, members, Deleted.field, Deleted.nullable_optionJson]

theorem CreatorReference.check_toJson (r : CreatorReference) : check origin r.toJson = .ok r := by
  have h : fields origin (r.members ++ []) = .ok r := r.fields_members []
  rwa [List.append_nil] at h

namespace Creator

theorem checkKind_toJson (c : Creator) : checkKind origin c.kind c.toJson = .ok c := by
  have hkind : Schema.kindField c.kind.name (c.members ++ [("kind", .str c.kind.name)]) =
      .ok () := by
    have hchoice : ∀ kind : CreatorKind,
        Schema.choice [(kind.name, ())] (.str kind.name) = .ok () := by
      intro kind
      cases kind <;> rfl
    simp [Schema.kindField, CreatorReference.members, hchoice]
  rw [checkKind, toJson, Schema.record_obj, CreatorReference.fields_members, hkind]
  rfl

/-- What is read as a creator of a kind is of this kind. -/
theorem kind_of_checkKind {kind : CreatorKind} {c : Creator}
    (h : checkKind origin kind j = .ok c) : c.kind = kind := by
  obtain ⟨members, h⟩ := Schema.exists_of_record h
  obtain ⟨f, u, hf, -, rfl⟩ := Checked.seq_eq_ok_iff.1 h
  obtain ⟨reference, -, rfl⟩ := Checked.map_eq_ok_iff.1 hf
  rfl

theorem check_toJson (c : Creator) : check origin c.toJson = .ok c := by
  have hread : (checkKind origin c.kind c.toJson).within (.member c.kind.name) = .ok c := by
    rw [checkKind_toJson, Checked.within_ok]
  obtain ⟨reference, kind⟩ := c
  cases kind with
  | vpnGateway | vpnServer => exact hread

end Creator

theorem check_toJson (r : Route) : check origin r.toJson = .ok r := by
  have hnextHop : ∀ n : NextHop,
      Schema.nullable (NextHop.check origin) n.toJson = .ok (some n) := by
    intro n
    cases n with
    | ip address => exact congrArg (some <$> ·) (NextHop.check_toJson (.ip address))
    | vpnConnection c => exact congrArg (some <$> ·) (NextHop.check_toJson (.vpnConnection c))
  have hcreator : ∀ c : Creator, Schema.nullable (Creator.check origin) c.toJson = .ok (some c) :=
    fun c => congrArg (some <$> ·) c.check_toJson
  obtain ⟨id, href, name, createdAt, action, destination, lifecycle, from', zone, short, nextHop,
    creator⟩ := r
  cases nextHop with
  | none => cases creator with
    | none => simp [check, fields, toJson, plainMembers]
    | some c => simp [check, fields, toJson, plainMembers, hcreator]
  | some n => cases creator with
    | none => simp [check, fields, toJson, plainMembers, hnextHop]
    | some c => simp [check, fields, toJson, plainMembers, hnextHop, hcreator]

theorem Listing.check_toJson (l : Listing) : check origin l.toJson = .ok l := by
  have hroutes : Schema.list Schema.object (.arr (l.routes.map Json.obj)) = .ok l.routes :=
    Schema.list_map fun _ _ => rfl
  simp [check, toJson, hroutes]

end Route

/-! ## Configurations -/

namespace Dns

/-- The members of a change that was read are read again, among others
behind them. -/
theorem Changes.fields_members {c : Changes} (h : fields origin members = .ok c)
    (more : Keyed Json) : fields other (c.members ++ more) = .ok c := by
  simp only [fields, Checked.seq_eq_ok_iff] at h
  obtain ⟨_, servers, ⟨_, name, ⟨_, crn, ⟨_, hub, htype, hhub, rfl⟩, -, rfl⟩, -, rfl⟩, -, rfl⟩ := h
  obtain ⟨_, type, henabled, -, rfl⟩ := htype
  obtain ⟨enabled, -, rfl⟩ := Checked.map_eq_ok_iff.1 henabled
  have hhub := Schema.nullable_boundedText_of_defaulted hhub
  have htype : ResolverType.check type.toJson = .ok type := ResolverType.check_eq_ok_iff.2 rfl
  simp [fields, Changes.members, serversField, Schema.identifier, hhub, htype, list_serversJson]

theorem Changes.check_toJson {c : Changes} (h : check origin j = .ok c) :
    check other c.toJson = .ok c := by
  obtain ⟨members, h⟩ := Schema.exists_of_record h
  have hread : fields other (c.members ++ []) = .ok c := fields_members h []
  rwa [List.append_nil] at hread

theorem Desired.check_toJson {d : Desired} (h : check origin j = .ok d) :
    check other d.toJson = .ok d := by
  obtain ⟨members, h⟩ := Schema.exists_of_record h
  obtain ⟨_, vpcId, hchanges, hvpc, rfl⟩ := Checked.seq_eq_ok_iff.1 h
  obtain ⟨c, hc, rfl⟩ := Checked.map_eq_ok_iff.1 hchanges
  have hvpc : Schema.required "vpc_id" Schema.identifier
      (c.members ++ [("vpc_id", .str vpcId)]) = .ok vpcId := by
    simp [Changes.members, Schema.identifier, Schema.boundedText_of_required hvpc]
  rw [check, toJson, Schema.record_obj, Changes.fields_members hc, hvpc]
  rfl

/-- A state that was read is typed, and its number of bindings is a
number. -/
theorem State.typed_of_check {s : State} (h : check origin j = .ok s) :
    s.Typed ∧ ∃ n, s.bindingCount = .int n := by
  obtain ⟨members, h⟩ := Schema.exists_of_record h
  simp only [Checked.seq_eq_ok_iff] at h
  obtain ⟨_, binding, ⟨_, count, ⟨_, servers, ⟨_, name, hhubs, hname, rfl⟩, -, rfl⟩, hcount,
    rfl⟩, hbinding, rfl⟩ := h
  obtain ⟨_, crn, ⟨_, hub, ⟨_, type, henabled, htype, rfl⟩, hhub, rfl⟩, hcrn, rfl⟩ := hhubs
  obtain ⟨_, enabled, ⟨_, vpcId, hid, -, rfl⟩, -, rfl⟩ := henabled
  obtain ⟨id, -, rfl⟩ := Checked.map_eq_ok_iff.1 hid
  have text : ∀ {field : String} {k : Json},
      Json.ofOption <$> Schema.optionalText field members = .ok k → k.IsOptionalText := by
    intro field k hk
    obtain ⟨o, -, rfl⟩ := Checked.map_eq_ok_iff.1 hk
    exact ⟨o, rfl⟩
  have hcount : ∃ n, count = .int n := by
    obtain rfl | ⟨k, hk⟩ := Schema.of_defaulted hcount
    · exact ⟨0, rfl⟩
    · obtain ⟨n, -, rfl⟩ := Checked.map_eq_ok_iff.1 hk
      exact ⟨n, rfl⟩
  have htype : ∃ t : ResolverType, type = t.toJson := by
    obtain rfl | ⟨k, hk⟩ := Schema.of_defaulted htype
    · exact ⟨.system, rfl⟩
    · obtain ⟨t, -, rfl⟩ := Checked.map_eq_ok_iff.1 hk
      exact ⟨t, rfl⟩
  obtain ⟨n, rfl⟩ := hcount
  exact ⟨⟨htype, text hhub, text hcrn, text hname, ⟨n, rfl⟩, text hbinding⟩, n, rfl⟩

theorem State.check_toJson_of_check {s : State} (h : check origin j = .ok s) :
    check other s.toJson = .ok s := by
  obtain ⟨htyped, n, hn⟩ := typed_of_check h
  refine check_toJson_eq_ok_iff.2 ⟨htyped, n, by rw [hn]; rfl, ?_⟩
  rw [← hn]

/-- The states of a listing that was read passed their checks. -/
theorem Listing.passed_of_check {l : Listing} (h : check origin j = .ok l) :
    ∀ s ∈ l.configs, ∃ k, State.check origin k = .ok s := by
  obtain ⟨members, h⟩ := Schema.exists_of_record h
  obtain ⟨_, configs, hcount, hconfigs, rfl⟩ := Checked.seq_eq_ok_iff.1 h
  obtain ⟨count, -, rfl⟩ := Checked.map_eq_ok_iff.1 hcount
  obtain ⟨k, hk⟩ := Schema.of_required hconfigs
  exact Schema.of_list hk

theorem Listing.check_toJson {l : Listing} (h : check origin j = .ok l) :
    check other l.toJson = .ok l := by
  have hread : Schema.list (State.check other) (.arr (l.configs.map State.toJson)) =
      .ok l.configs := by
    refine Schema.list_map fun s hs => ?_
    obtain ⟨k, hk⟩ := passed_of_check h s hs
    exact State.check_toJson_of_check hk
  simp [check, toJson, hread]

end Dns

/-! ## Every published record -/

/-- **A record that was read is read again**, as the same, from how it is
written, wherever it comes from. -/
theorem Published.check_toJson {p : Published} {a : p.Carrier} (h : p.check origin j = .ok a) :
    p.check other (p.toJson a) = .ok a := by
  cases p with
  | manualServer => exact Dns.ManualServer.check_toJson a
  | dnsChanges => exact Dns.Changes.check_toJson h
  | dnsDesired => exact Dns.Desired.check_toJson h
  | dnsState => exact Dns.State.check_toJson_of_check h
  | dnsListing => exact Dns.Listing.check_toJson h
  | bindingRequest => exact Binding.Request.check_toJson h
  | bindingRenaming => exact Binding.Renaming.check_toJson h
  | hubReference | gatewayReference => exact Reference.check_toJson _ a
  | binding => exact Binding.check_toJson a
  | bindingListing => exact Binding.Listing.check_toJson a
  | groupRequest => exact PlacementGroup.Request.check_toJson h
  | groupRenaming => exact PlacementGroup.Renaming.check_toJson h
  | group => exact PlacementGroup.check_toJson a
  | groupListing => exact PlacementGroup.Listing.check_toJson a
  | deleted => exact Route.Deleted.check_toJson a
  | ipNextHop =>
    obtain ⟨address, rfl⟩ := Route.NextHop.eq_ip_of_checkIp h
    exact Route.NextHop.checkIp_toJson address
  | connectionNextHop =>
    obtain ⟨c, rfl⟩ := Route.NextHop.eq_vpnConnection_of_checkConnection h
    exact Route.NextHop.checkConnection_toJson c
  | creatorReference => exact Route.CreatorReference.check_toJson a
  | gatewayCreator | serverCreator =>
    have hread : Route.Creator.checkKind other a.kind a.toJson = .ok a :=
      Route.Creator.checkKind_toJson a
    rwa [Route.Creator.kind_of_checkKind h] at hread
  | route => exact Route.check_toJson a
  | routeListing => exact Route.Listing.check_toJson a

end NetSteward
