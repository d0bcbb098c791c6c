import NetSteward.Dns.Config
import NetSteward.Proofs.Schema.Field
/-!
# States that pass their checks

The open fields of a state hold whatever the service answered. A state is
typed if each of them holds what the checks of a state ask of it. The main
result is that the typed states are those that pass the checks when they
are read again, and that they are read as they are, but for the number of
bindings, which is read as a number.
-/

namespace NetSteward

/-- A text, or null for none. -/
def Json.IsOptionalText (j : Json) : Prop := ∃ o, j = .ofOption o

namespace Json

@[simp] theorem isOptionalText_ofOption (o : Option String) : (ofOption o).IsOptionalText :=
  ⟨o, rfl⟩

@[simp] theorem isOptionalText_str (s : String) : (str s).IsOptionalText := ⟨some s, rfl⟩

/-- Optional texts are told apart by their values. -/
theorem ofOption_inj {o p : Option String} : ofOption o = ofOption p ↔ o = p := by
  cases o <;> cases p <;> simp [ofOption]

@[simp] theorem isOptionalText_null : null.IsOptionalText := ⟨none, rfl⟩

end Json

namespace Schema

/-- A text is read from itself, and from nothing else. -/
theorem text_eq_ok_iff {j : Json} {s : String} : text j = .ok s ↔ j = .str s := by
  cases j with
  | str t => exact ⟨fun h => by cases h; rfl, fun h => by cases h; rfl⟩
  | null | bool | int | float | arr | obj => exact ⟨fun h => (by cases h), fun h => (by cases h)⟩

/-- A text that is required is there as it is. -/
theorem required_text_eq_ok_iff {field s : String} {members : Keyed Json} :
    required field text members = .ok s ↔ members.get? field = some (.str s) := by
  unfold required
  cases members.get? field with
  | none => exact ⟨fun h => (by cases h), fun h => (by cases h)⟩
  | some j => rw [Checked.within_eq_ok_iff, text_eq_ok_iff, Option.some.injEq]

/-- A value that may be null or a text is checked to be one. -/
theorem nullable_text_eq_ok_iff {j : Json} {o : Option String} :
    nullable text j = .ok o ↔ j = .ofOption o := by
  constructor
  · intro h
    cases j with
    | null => cases h; rfl
    | str t => cases h; rfl
    | bool | int | float | arr | obj =>
      obtain ⟨a, ha, -⟩ := Checked.map_eq_ok_iff.1 h
      cases ha
  · rintro rfl
    cases o <;> rfl

end Schema

namespace Dns

variable {s p : State} {origin : Schema.Origin}

/-- A resolver type is read from its name, and from nothing else. -/
theorem ResolverType.check_eq_ok_iff {j : Json} {t : ResolverType} :
    ResolverType.check j = .ok t ↔ j = t.toJson := by
  constructor
  · intro h
    cases j with
    | str name =>
      rw [ResolverType.check, Schema.choice] at h
      cases hc : Schema.characters name with
      | failed issues => rw [hc] at h; cases h
      | ok cs =>
        simp only [hc, Checked.andThen, named, Keyed.get?_cons, Keyed.get?_nil] at h
        split at h
        next found hfound =>
          cases h
          split at hfound
          next hn => cases hfound; rw [toJson, hn]
          split at hfound
          next hn => cases hfound; rw [toJson, hn]
          split at hfound
          next hn => cases hfound; rw [toJson, hn]
          cases hfound
        next => cases h
    | null | bool | int | float | arr | obj => cases h
  · rintro rfl
    cases t <;> rfl

theorem ManualServer.check_toJson (server : ManualServer) :
    check origin server.toJson = .ok server := by
  simp [check, toJson, members]

/-- Servers are read as they were written. -/
theorem list_serversJson (servers : List ManualServer) :
    Schema.list (ManualServer.check origin) (serversJson servers) = .ok servers :=
  Schema.list_map fun server _ => server.check_toJson

/-- **A state whose open fields hold what they should.** -/
structure State.Typed (s : State) : Prop where
  type : ∃ t : ResolverType, s.resolverType = t.toJson
  hubId : s.resolverVpcId.IsOptionalText
  hubCrn : s.resolverVpcCrn.IsOptionalText
  name : s.bindingName.IsOptionalText
  count : ∃ n, Schema.integer s.bindingCount = .ok n
  binding : s.bindingId.IsOptionalText

/-- The checks of a state that was written are those of its open
fields. -/
theorem State.check_toJson (s : State) :
    State.check origin s.toJson =
      .ok (State.mk s.id s.vpcId s.enableHub) <*>
        (ResolverType.toJson <$> ResolverType.check s.resolverType).within
          (.member "resolver_type") <*>
        (Json.ofOption <$> (Schema.nullable Schema.text s.resolverVpcId).within
          (.member "resolver_vpc_id")) <*>
        (Json.ofOption <$> (Schema.nullable Schema.text s.resolverVpcCrn).within
          (.member "resolver_vpc_crn")) <*>
        (Json.ofOption <$> (Schema.nullable Schema.text s.bindingName).within
          (.member "dns_binding_name")) <*>
        .ok s.manualServers <*>
        (Json.int <$> Schema.integer s.bindingCount).within
          (.member "resolution_binding_count") <*>
        (Json.ofOption <$> (Schema.nullable Schema.text s.bindingId).within
          (.member "dns_resolution_binding_id")) := by
  have hservers : serversField origin [("manual_servers", serversJson s.manualServers)] =
      .ok s.manualServers := by
    change (Schema.list (ManualServer.check origin) (serversJson s.manualServers)).within _ = _
    rw [list_serversJson, Checked.within_ok]
  rw [← hservers]
  rfl

/-- **Exactly the typed states pass the checks again**, and they are read
as they are, with the number of bindings as a number. -/
theorem State.check_toJson_eq_ok_iff :
    State.check origin s.toJson = .ok p ↔
      s.Typed ∧ ∃ n, Schema.integer s.bindingCount = .ok n ∧
        p = { s with bindingCount := .int n } := by
  rw [State.check_toJson]
  simp only [Checked.seq_eq_ok_iff, Checked.map_eq_ok_iff, Checked.within_eq_ok_iff,
    Schema.nullable_text_eq_ok_iff, ResolverType.check_eq_ok_iff]
  constructor
  · rintro ⟨_, _, ⟨_, _, ⟨_, _, ⟨_, _, ⟨_, _, ⟨_, _, ⟨_, _, hs, ⟨type, htype, rfl⟩, rfl⟩,
      ⟨hubId, hhubId, rfl⟩, rfl⟩, ⟨hubCrn, hhubCrn, rfl⟩, rfl⟩, ⟨name, hname, rfl⟩, rfl⟩,
      hservers, rfl⟩, ⟨n, hn, rfl⟩, rfl⟩, ⟨binding, hbinding, rfl⟩, rfl⟩
    cases hs
    cases hservers
    refine ⟨⟨⟨type, htype⟩, ⟨hubId, hhubId⟩, ⟨hubCrn, hhubCrn⟩, ⟨name, hname⟩, ⟨n, hn⟩,
      ⟨binding, hbinding⟩⟩, n, hn, ?_⟩
    rw [htype, hhubId, hhubCrn, hname, hbinding]
  · rintro ⟨⟨⟨type, htype⟩, ⟨hubId, hhubId⟩, ⟨hubCrn, hhubCrn⟩, ⟨name, hname⟩, -,
      ⟨binding, hbinding⟩⟩, n, hn, rfl⟩
    exact ⟨_, _, ⟨_, _, ⟨_, _, ⟨_, _, ⟨_, _, ⟨_, _, ⟨_, _, rfl, ⟨type, htype, htype.symm⟩, rfl⟩,
      ⟨hubId, hhubId, hhubId.symm⟩, rfl⟩, ⟨hubCrn, hhubCrn, hhubCrn.symm⟩, rfl⟩,
      ⟨name, hname, hname.symm⟩, rfl⟩, rfl, rfl⟩, ⟨n, hn, rfl⟩, rfl⟩,
      ⟨binding, hbinding, hbinding.symm⟩, rfl⟩

end Dns

end NetSteward
