import NetSteward.Dns.Patch
import NetSteward.Proofs.Ending
import NetSteward.Proofs.Schema.Field
/-!
# Patches that are read back

A patch is written in one form and the DNS block of a VPC is read in
another: a zone is written as an object with a name and read as a text, a
member that does not apply is left out, and what is not given is read as
null. The main result is that the two forms agree. A VPC that shows exactly
what it was patched with is read back as what was asked for, whatever was
known of it before.
-/

namespace NetSteward

/-- An optional text, none unless it is given. -/
def whenGiven (o : Option String) : Option String := o.filter (· ≠ "")

theorem whenGiven_of_isGiven {o : Option String} (h : isGiven o = true) : whenGiven o = o := by
  cases o with
  | none => rfl
  | some s =>
    have hs : s ≠ "" := of_decide_eq_true h
    simp [whenGiven, hs]

theorem whenGiven_of_not_isGiven {o : Option String} (h : isGiven o = false) :
    whenGiven o = none := by
  cases o with
  | none => rfl
  | some s =>
    have hs : s = "" := by simpa [isGiven] using h
    simp [whenGiven, hs]

namespace Dns

/-! ## Servers -/

/-- A server as it is read back: an empty zone is no zone. -/
def ManualServer.trimmed (s : ManualServer) : ManualServer :=
  { s with zoneAffinity := whenGiven s.zoneAffinity }

/-- **A server is read back from its patch.** -/
theorem ManualServer.ofBlock_patch (s : ManualServer) : ofBlock s.patch = .ok s.trimmed := by
  cases h : isGiven s.zoneAffinity with
  | true =>
    have hzone : s.trimmed = s := by rw [trimmed, whenGiven_of_isGiven h]
    have hblock : ofBlock s.patch = checked (check .data s.toJson) := by
      simp only [patch, h, if_true]
      rfl
    rw [hblock, hzone, check, toJson, members]
    simp
  | false =>
    have hzone : s.trimmed = ⟨s.address, none⟩ := by
      rw [trimmed, whenGiven_of_not_isGiven h]
    have hblock : ofBlock s.patch = checked (check .data (toJson ⟨s.address, none⟩)) := by
      simp only [patch, h]
      rfl
    rw [hblock, hzone, check, toJson, members]
    simp

/-- Servers are read back from their patches, one by one and in order. -/
theorem readEach_patch (servers : List ManualServer) :
    readEach ManualServer.ofBlock (servers.map ManualServer.patch) =
      .ok (servers.map ManualServer.trimmed) := by
  induction servers with
  | nil => rfl
  | cons server rest ih =>
    rw [List.map_cons, readEach, ManualServer.ofBlock_patch, ih]
    rfl

/-! ## Blocks -/

/-- What a DNS block shows: null, or nothing, where a member is absent. -/
structure Block where
  hub : Option Json
  type : Json
  servers : List ManualServer
  vpcId : Json
  vpcCrn : Json
  count : Json

/-- Reads a DNS block. -/
def Block.read (dns : Json) : Read Block := do
  let resolver := (← shaped (dns.find "resolver")).orEmpty
  let type ← shaped (resolver.find "type")
  let listed ← shaped (resolver.find "manual_servers")
  let items ← shaped listed.iterateGiven
  let servers ← readEach ManualServer.ofBlock items
  let vpc := (← shaped (resolver.find "vpc")).orEmpty
  let hub ← shaped (dns.find? "enable_hub")
  let count ← shaped (dns.find "resolution_binding_count")
  let vpcId ← shaped (vpc.find "id")
  let vpcCrn ← shaped (vpc.find "crn")
  return ⟨hub, type, servers, vpcId, vpcCrn, count⟩

/-- **What a block shows, on top of a state.** The type and whether the VPC is
a hub stay if the block does not say; what else it does not say is reset. -/
def State.showing (p : State) (b : Block) : State :=
  { p with
    enableHub := match b.hub with
      | some j => j.isGiven
      | none => p.enableHub
    bindingCount := if b.count.isGiven then b.count else .int 0
    resolverType := if b.type.isGiven then b.type else p.resolverType
    manualServers := b.servers
    resolverVpcId := b.vpcId
    resolverVpcCrn := b.vpcCrn }

/-- **A state is overlaid with what a block shows**, which does not depend on
the state. -/
theorem State.project_eq (p : State) (dns : Json) : p.project dns = p.showing <$> Block.read dns := by
  simp only [project, Block.read, map_bind, map_pure]
  rfl

/-! ## Blocks that were asked for -/

/-- The part of a resolver that depends on its type. -/
def Desired.resolverParts (d : Desired) : Keyed Json :=
  match d.resolverType with
  | .system => []
  | .manual => [("manual_servers", .arr (d.manualServers.map ManualServer.patch))]
  | .delegated => [("vpc", d.resolverVpc)]

/-- The DNS block of a patch. -/
def Desired.block (d : Desired) : Json :=
  .obj [("enable_hub", .bool d.enableHub),
    ("resolver", .obj (("type", d.resolverType.toJson) :: d.resolverParts))]

theorem Desired.require_patch (d : Desired) : d.patch.require "dns" = .ok d.block := rfl

/-- A valid delegated resolver names its VPC in exactly one way. -/
theorem Desired.isGiven_of_valid {d : Desired} (hd : d.resolverType = .delegated)
    (h : d.violation? = none) : isGiven d.resolverVpcCrn = !isGiven d.resolverVpcId := by
  simp only [violation?, hd] at h
  cases hid : isGiven d.resolverVpcId <;> cases hcrn : isGiven d.resolverVpcCrn <;> simp_all

/-- The VPC of a valid delegated resolver is read back from its patch, by
the one name that it has. -/
theorem Desired.find_resolverVpc {d : Desired} (hd : d.resolverType = .delegated)
    (h : d.violation? = none) :
    d.resolverVpc.orEmpty.find "id" = .ok (.ofOption (whenGiven d.resolverVpcId)) ∧
      d.resolverVpc.orEmpty.find "crn" = .ok (.ofOption (whenGiven d.resolverVpcCrn)) := by
  have hone := isGiven_of_valid hd h
  cases hid : isGiven d.resolverVpcId with
  | true =>
    rw [hid] at hone
    have hvpc : d.resolverVpc = .obj [("id", .ofOption d.resolverVpcId)] := by
      rw [resolverVpc, if_pos hid]
    rw [hvpc, whenGiven_of_isGiven hid, whenGiven_of_not_isGiven hone]
    exact ⟨rfl, rfl⟩
  | false =>
    rw [hid] at hone
    have hvpc : d.resolverVpc = .obj [("crn", .ofOption d.resolverVpcCrn)] := by
      rw [resolverVpc, if_neg (Bool.eq_false_iff.1 hid)]
    rw [hvpc, whenGiven_of_not_isGiven hid, whenGiven_of_isGiven hone]
    exact ⟨rfl, rfl⟩

/-- What is listed is its items, also if there are none. -/
theorem iterateGiven_arr (items : List Json) : (Json.arr items).iterateGiven = .ok items := by
  cases items <;> rfl

/-- **What the block of a patch shows**: the servers of a manual resolver and
the VPC of a delegated one, and those of no other resolver. -/
def Desired.shown (d : Desired) : Block where
  hub := some (.bool d.enableHub)
  type := d.resolverType.toJson
  servers := if d.resolverType = .manual then d.manualServers.map ManualServer.trimmed else []
  vpcId := if d.resolverType = .delegated then .ofOption (whenGiven d.resolverVpcId) else .null
  vpcCrn := if d.resolverType = .delegated then .ofOption (whenGiven d.resolverVpcCrn) else .null
  count := .null

theorem Desired.read_block {d : Desired} (hvalid : d.violation? = none) :
    Block.read d.block = .ok d.shown := by
  unfold Block.read block resolverParts shown
  simp only [bind_eq_ok_iff, shaped_eq_ok_iff]
  cases hd : d.resolverType with
  | system =>
    exact ⟨_, rfl, _, rfl, _, rfl, _, rfl, _, rfl, _, rfl, _, rfl, _, rfl, _, rfl, _, rfl, rfl⟩
  | manual =>
    exact ⟨_, rfl, _, rfl, _, rfl, _, iterateGiven_arr _, _, readEach_patch d.manualServers,
      _, rfl, _, rfl, _, rfl, _, rfl, _, rfl, rfl⟩
  | delegated =>
    obtain ⟨hid, hcrn⟩ := find_resolverVpc hd hvalid
    exact ⟨_, rfl, _, rfl, _, rfl, _, rfl, _, rfl, _, rfl, _, rfl, _, rfl, _, hid, _, hcrn, rfl⟩

/-- **A state that shows what is asked for.** Its own are the identifiers
and the binding; everything else is as it is asked for. -/
def State.asked (p : State) (d : Desired) : State where
  id := p.id
  vpcId := p.vpcId
  enableHub := d.enableHub
  resolverType := d.resolverType.toJson
  resolverVpcId := if d.resolverType = .delegated then .ofOption (whenGiven d.resolverVpcId)
    else .null
  resolverVpcCrn := if d.resolverType = .delegated then .ofOption (whenGiven d.resolverVpcCrn)
    else .null
  bindingName := p.bindingName
  manualServers := if d.resolverType = .manual then d.manualServers.map ManualServer.trimmed
    else []
  bindingCount := .int 0
  bindingId := p.bindingId

/-- The type of a resolver is always given. -/
theorem ResolverType.isGiven_toJson (t : ResolverType) : t.toJson.isGiven = true := by
  cases t <;> rfl

theorem State.showing_shown (p : State) (d : Desired) : p.showing d.shown = p.asked d := by
  unfold showing asked Desired.shown
  rw [ResolverType.isGiven_toJson, if_pos rfl]
  rfl

/-- **A VPC that shows exactly what it was patched with is read back as what
was asked for.** -/
theorem State.project_patch (p : State) {d : Desired} (hvalid : d.violation? = none) :
    ∃ dns, d.patch.require "dns" = .ok dns ∧ p.project dns = .ok (p.asked d) := by
  have hread : p.project d.block = .ok (p.showing d.shown) := by
    rw [project_eq, Desired.read_block hvalid]
    rfl
  exact ⟨d.block, d.require_patch, p.showing_shown d ▸ hread⟩

/-- Servers of which one is in a zone and another one names an empty
zone. -/
def zoned : Desired where
  enableHub := true
  resolverType := .manual
  resolverVpcId := some "hub-1"
  resolverVpcCrn := none
  bindingName := none
  manualServers := [⟨"10.0.0.2", some "zone-1"⟩, ⟨"10.0.0.3", some ""⟩]
  vpcId := "vpc-1"

theorem project_patch_zoned :
    ∃ dns, zoned.patch.require "dns" = .ok dns ∧
      (State.ofText "vpc-1").project dns = .ok { State.ofText "vpc-1" with
        enableHub := true
        resolverType := .str "manual"
        manualServers := [⟨"10.0.0.2", some "zone-1"⟩, ⟨"10.0.0.3", none⟩] } :=
  State.project_patch (State.ofText "vpc-1") (d := zoned) rfl

end Dns

end NetSteward
