import NetSteward.Proofs.Ending
import NetSteward.Proofs.Schema.Reread
import NetSteward.Route.Map
/-!
# Attribute maps of routes and back

The map of a route leaves out what is not set, at the top and in its
parts. The main result is that nothing is lost with it: the map holds no
null at any depth, and read as a route it gives the route again. What
carries it is that an absent member and a null one are found to be the
same, so that a reading does not see what was left out.
-/

namespace NetSteward

variable {origin : Schema.Origin} {members rest : Keyed Json} {j : Json} {field : String}

/-! ## Null at any depth -/

/-- A value is within another: it is this value itself, or it is within an
item or a member of it. -/
inductive Json.Within (part : Json) : Json → Prop
  | itself : Within part part
  | item {items : List Json} {j : Json} (hj : j ∈ items) (h : Within part j) :
      Within part (.arr items)
  | member {members : Keyed Json} {e : String × Json} (he : e ∈ members)
      (h : Within part e.2) : Within part (.obj members)

/-- A value without null, at whatever depth. -/
def Json.WithoutNull (j : Json) : Prop := ¬ Json.null.Within j

namespace Json.WithoutNull

theorem str (s : String) : WithoutNull (.str s) := fun h => by cases h

theorem obj (h : ∀ e ∈ members, WithoutNull e.2) : WithoutNull (.obj members) := by
  intro hnull
  cases hnull with
  | member he hin => exact h _ he hin

/-- An optional text that is not null is a text. -/
theorem of_isOptionalText (h : j.IsOptionalText) (hj : j.isNull = false) : WithoutNull j := by
  obtain ⟨o, rfl⟩ := h
  cases o with
  | none => cases hj
  | some s => exact str s

end Json.WithoutNull

/-! ## What is found in an object -/

namespace Schema

/-- An absent field and one that is null are read alike. -/
theorem defaulted_of_find {α : Type} {check : Json → Checked α}
    (h : (Json.obj members).find field = .ok j) :
    defaulted field none (nullable check) members = (nullable check j).within (.member field) := by
  rw [Json.find_obj, Except.ok.injEq] at h
  unfold defaulted
  cases hfound : Keyed.get? members field with
  | none =>
    rw [hfound, Option.getD_none] at h
    rw [← h]
    rfl
  | some k =>
    rw [hfound, Option.getD_some] at h
    rw [← h]

/-- A part that may be left out is read if it is read where it stands. -/
theorem defaulted_of_part {α : Type} {check : Json → Checked α} {part : α → Keyed Json}
    {o : Option α} (h : (Json.obj members).find field = .ok (o.elim .null fun a => .obj (part a)))
    (hread : ∀ a, check (.obj (part a)) = .ok a) :
    defaulted field none (nullable check) members = .ok o := by
  rw [defaulted_of_find h]
  cases o with
  | none => rfl
  | some a =>
    rw [Option.elim_some, nullable_obj, hread]
    rfl

/-- An optional text is read exactly as it is found. -/
theorem optionalText_eq_ok_iff_find {o : Option String} :
    optionalText field members = .ok o ↔ (Json.obj members).find field = .ok (.ofOption o) := by
  rw [optionalText, defaulted_of_find rfl, Checked.within_eq_ok_iff, nullable_text_eq_ok_iff,
    Json.find_obj, Except.ok.injEq]

/-- A text that is required is read exactly as it is found. -/
theorem required_text_eq_ok_iff_find {s : String} :
    required field text members = .ok s ↔ (Json.obj members).find field = .ok (.str s) := by
  rw [required_text_eq_ok_iff, Json.find_obj, Except.ok.injEq]
  cases Keyed.get? members field with
  | none => exact ⟨fun h => (by cases h), fun h => (by cases h)⟩
  | some j => rw [Option.getD_some, Option.some.injEq]

end Schema

namespace Route

/-- **What is left out is not missed**: where names are distinct, the
same is found with the members that are null as without them. -/
theorem find_present_append (h : (Keyed.keys (members ++ rest)).Nodup) (field : String) :
    (Json.obj (present members ++ rest)).find field = (Json.obj (members ++ rest)).find field := by
  induction members with
  | nil => rfl
  | cons e more ih =>
    obtain ⟨key, j⟩ := e
    obtain ⟨hkey, hmore⟩ := List.nodup_cons.1 h
    have ih := ih hmore
    simp only [Json.find_obj, Except.ok.injEq, List.cons_append, Keyed.get?_cons] at ih ⊢
    by_cases hnull : j.isNull = true
    · have hleft : present ((key, j) :: more) = present more :=
        List.filter_cons_of_neg (by simp [hnull])
      rw [hleft, ih, (Json.isNull_iff j).1 hnull]
      split
      next heq =>
        -- A name that was left out does not come again.
        have habsent : Keyed.get? (more ++ rest) field = none := by
          rw [← heq, ← Option.not_isSome_iff_eq_none, ← Keyed.mem_keys_iff]
          exact hkey
        rw [habsent]
        rfl
      next => rfl
    · have hkept : present ((key, j) :: more) = (key, j) :: present more :=
        List.filter_cons_of_pos (by simp [hnull])
      rw [hkept, List.cons_append, Keyed.get?_cons]
      split
      next => rfl
      next => exact ih

/-- Texts that may be null are kept if they are not. -/
theorem withoutNull_present (h : ∀ e ∈ members, e.2.IsOptionalText) :
    ∀ e ∈ present members, e.2.WithoutNull := by
  intro e he
  obtain ⟨hmem, hnull⟩ := List.mem_filter.1 he
  exact .of_isOptionalText (h e hmem) (by simpa using hnull)

/-! ## Maps of the parts -/

theorem Deleted.withoutNull_entries (d : Option Deleted) :
    ∀ e ∈ Deleted.entries d, e.2.WithoutNull := by
  cases d with
  | none => exact fun _ he => by cases he
  | some d => exact List.forall_mem_singleton.2 (.obj (List.forall_mem_singleton.2 (.str _)))

theorem NextHop.withoutNull_toMap (n : NextHop) : ∀ e ∈ n.toMap, e.2.WithoutNull := by
  cases n with
  | ip address => exact List.forall_mem_singleton.2 (.str address)
  | vpnConnection c =>
    exact List.forall_mem_append.2
      ⟨withoutNull_present (by simp), Deleted.withoutNull_entries c.deleted⟩

theorem Creator.withoutNull_toMap (c : Creator) : ∀ e ∈ c.toMap, e.2.WithoutNull :=
  List.forall_mem_append.2 ⟨withoutNull_present (by simp), Deleted.withoutNull_entries c.deleted⟩

/-- An object mentions a resource: a member that is absent says as much
as one that is null. -/
structure Mentions (members : Keyed Json) (id : String) (href name resourceType : Option String) :
    Prop where
  id : (Json.obj members).find "id" = .ok (.str id)
  href : (Json.obj members).find "href" = .ok (.ofOption href)
  name : (Json.obj members).find "name" = .ok (.ofOption name)
  resourceType : (Json.obj members).find "resource_type" = .ok (.ofOption resourceType)

/-- **What an object tells of a resource** that a route refers to, and of
its deletion. -/
structure Tells (members : Keyed Json) (id : String) (href name resourceType : Option String)
    (deleted : Option Deleted) : Prop extends Mentions members id href name resourceType where
  deleted : (Json.obj members).find "deleted" = .ok (Deleted.optionJson deleted)

variable {id : String} {href name resourceType : Option String} {deleted : Option Deleted}

namespace Tells

/-- A kind in front is not among what is told. -/
theorem of_kind (h : Tells members id href name resourceType deleted) (j : Json) :
    Tells (("kind", j) :: members) id href name resourceType deleted where
  id := h.id
  href := h.href
  name := h.name
  resourceType := h.resourceType
  deleted := h.deleted

/-- What is told is told without the members that are null. -/
theorem of_present (hnodup : (Keyed.keys (members ++ rest)).Nodup)
    (h : Tells (members ++ rest) id href name resourceType deleted) :
    Tells (present members ++ rest) id href name resourceType deleted where
  id := (find_present_append hnodup _).trans h.id
  href := (find_present_append hnodup _).trans h.href
  name := (find_present_append hnodup _).trans h.name
  resourceType := (find_present_append hnodup _).trans h.resourceType
  deleted := (find_present_append hnodup _).trans h.deleted

theorem field_deleted (h : Tells members id href name resourceType deleted) :
    Deleted.field origin members = .ok deleted := by
  rw [Deleted.field, Schema.defaulted_of_find h.deleted, Deleted.nullable_optionJson,
    Checked.within_ok]

end Tells

theorem NextHop.tells_toMap (c : Connection) :
    Tells (vpnConnection c).toMap c.id c.href c.name c.resourceType c.deleted := by
  obtain ⟨id, href, name, resourceType, deleted⟩ := c
  refine .of_present (by cases deleted <;> simp [Keyed.keys, Deleted.entries]) ?_
  cases deleted with
  | none | some => exact ⟨⟨rfl, rfl, rfl, rfl⟩, rfl⟩

theorem Creator.tells_toMap (c : Creator) :
    Tells c.toMap c.id c.href c.name c.resourceType c.deleted ∧
      (Json.obj c.toMap).find "crn" = .ok (.ofOption c.crn) := by
  obtain ⟨⟨crn, href, id, name, resourceType, deleted⟩, kind⟩ := c
  have hnodup : (Keyed.keys ([("crn", Json.ofOption crn), ("href", .ofOption href),
      ("id", .str id), ("name", .ofOption name), ("resource_type", .ofOption resourceType)] ++
        Deleted.entries deleted)).Nodup := by
    cases deleted <;> simp [Keyed.keys, Deleted.entries]
  refine ⟨.of_present hnodup ?_, (find_present_append hnodup "crn").trans rfl⟩
  cases deleted with
  | none | some => exact ⟨⟨rfl, rfl, rfl, rfl⟩, rfl⟩

/-! ## Reading the maps -/

/-- What is told of a resource is read as its reference. -/
theorem Tells.fields {crn : Option String}
    (h : Tells members id href name resourceType deleted)
    (hcrn : (Json.obj members).find "crn" = .ok (.ofOption crn)) :
    CreatorReference.fields origin members =
      .ok ⟨crn, href, id, name, resourceType, deleted⟩ := by
  rw [CreatorReference.fields, Schema.optionalText_eq_ok_iff_find.2 hcrn,
    Schema.optionalText_eq_ok_iff_find.2 h.href, Schema.required_text_eq_ok_iff_find.2 h.id,
    Schema.optionalText_eq_ok_iff_find.2 h.name, Schema.optionalText_eq_ok_iff_find.2 h.resourceType,
    h.field_deleted]
  rfl

theorem Tells.checkConnection (h : Tells members id href name resourceType deleted)
    (hkind : Schema.kindField NextHop.connectionKind members = .ok ()) :
    NextHop.checkConnection origin (.obj members) =
      .ok (.vpnConnection ⟨id, href, name, resourceType, deleted⟩) := by
  rw [NextHop.checkConnection, Schema.record_obj, hkind, Schema.required_text_eq_ok_iff_find.2 h.id,
    Schema.optionalText_eq_ok_iff_find.2 h.href, Schema.optionalText_eq_ok_iff_find.2 h.name,
    Schema.optionalText_eq_ok_iff_find.2 h.resourceType, h.field_deleted]
  rfl

theorem Tells.checkKind {crn : Option String} {kind : CreatorKind}
    (h : Tells members id href name resourceType deleted)
    (hcrn : (Json.obj members).find "crn" = .ok (.ofOption crn))
    (hkind : Schema.kindField kind.name members = .ok ()) :
    Creator.checkKind origin kind (.obj members) =
      .ok ⟨⟨crn, href, id, name, resourceType, deleted⟩, kind⟩ := by
  rw [Creator.checkKind, Schema.record_obj, h.fields hcrn, hkind]
  rfl

/-- The map of a next hop under its kind is read as the next hop. -/
theorem NextHop.check_toMap (n : NextHop) :
    check origin (.obj (("kind", .str n.kind) :: n.toMap)) = .ok n := by
  cases n with
  | ip address => exact check_toJson (.ip address)
  | vpnConnection c =>
    have hread : checkConnection origin
        (.obj (("kind", .str connectionKind) :: (vpnConnection c).toMap)) =
          .ok (vpnConnection c) := ((tells_toMap c).of_kind _).checkConnection rfl
    exact congrArg (Checked.within (.member connectionKind)) hread

/-- The map of a creator under its kind is read as the creator. -/
theorem Creator.check_toMap (c : Creator) :
    check origin (.obj (("kind", .str c.kind.name) :: c.toMap)) = .ok c := by
  obtain ⟨htells, hcrn⟩ := c.tells_toMap
  have hread : ∀ kind, Schema.kindField kind.name (("kind", .str kind.name) :: c.toMap) = .ok () →
      checkKind origin kind (.obj (("kind", .str kind.name) :: c.toMap)) =
        .ok ⟨c.toCreatorReference, kind⟩ :=
    fun kind hkind => (htells.of_kind _).checkKind hcrn hkind
  obtain ⟨reference, kind⟩ := c
  cases kind with
  | vpnGateway | vpnServer =>
    exact congrArg (Checked.within (.member (CreatorKind.name _))) (hread _ rfl)

/-! ## The map of a route -/

variable (r : Route)

/-- A part of a route in its map, under its kind, if there is one. -/
def partEntries {α : Type} (name : String) (kind : α → String) (entries : α → Keyed Json) :
    Option α → Keyed Json
  | none => []
  | some a => [(name, .obj (("kind", .str (kind a)) :: entries a))]

/-- The parts of a route in its map. -/
def parts : Keyed Json :=
  partEntries "next_hop_details" NextHop.kind NextHop.toMap r.nextHop ++
    partEntries "creator" (fun c => c.kind.name) Creator.toMap r.creator

theorem toMap_eq : r.toMap = present r.plainMembers ++ r.parts := by
  rw [toMap, List.append_assoc, parts]
  cases r.nextHop <;> cases r.creator <;> rfl

/-- The names of all members of a route are distinct. -/
theorem nodup_members : (Keyed.keys (r.plainMembers ++ r.parts)).Nodup := by
  unfold parts
  cases r.nextHop <;> cases r.creator <;> simp [Keyed.keys, plainMembers, partEntries]

theorem withoutNull_partEntries {α : Type} {name : String} {kind : α → String}
    {entries : α → Keyed Json} (h : ∀ a, ∀ e ∈ entries a, e.2.WithoutNull) (o : Option α) :
    ∀ e ∈ partEntries name kind entries o, e.2.WithoutNull := by
  cases o with
  | none => exact fun _ he => by cases he
  | some a =>
    exact List.forall_mem_singleton.2 (.obj (List.forall_mem_cons.2 ⟨.str (kind a), h a⟩))

/-- **The map of a route holds no null.** -/
theorem withoutNull_toMap : (Json.obj r.toMap).WithoutNull := by
  have hplain : ∀ e ∈ present r.plainMembers, e.2.WithoutNull :=
    withoutNull_present (by simp [plainMembers])
  have hparts : ∀ e ∈ r.parts, e.2.WithoutNull :=
    List.forall_mem_append.2 ⟨withoutNull_partEntries NextHop.withoutNull_toMap _,
      withoutNull_partEntries Creator.withoutNull_toMap _⟩
  rw [toMap_eq]
  exact .obj (List.forall_mem_append.2 ⟨hplain, hparts⟩)

/-- **The map of a route is read as the route.** -/
theorem check_toMap : check origin (.obj r.toMap) = .ok r := by
  have found : ∀ field, (Json.obj r.toMap).find field =
      (Json.obj (r.plainMembers ++ r.parts)).find field := by
    rw [toMap_eq]
    exact find_present_append r.nodup_members
  have text : ∀ {field : String} {o : Option String},
      (Json.obj (r.plainMembers ++ r.parts)).find field = .ok (.ofOption o) →
        Schema.optionalText field r.toMap = .ok o :=
    fun h => Schema.optionalText_eq_ok_iff_find.2 ((found _).trans h)
  have hid : Schema.required "id" Schema.text r.toMap = .ok r.id :=
    Schema.required_text_eq_ok_iff_find.2 ((found _).trans rfl)
  have hnextHop : Schema.defaulted "next_hop_details" none
      (Schema.nullable (NextHop.check origin)) r.toMap = .ok r.nextHop := by
    refine Schema.defaulted_of_part ((found _).trans ?_) NextHop.check_toMap
    unfold parts
    cases r.nextHop <;> cases r.creator <;> rfl
  have hcreator : Schema.defaulted "creator" none
      (Schema.nullable (Creator.check origin)) r.toMap = .ok r.creator := by
    refine Schema.defaulted_of_part ((found _).trans ?_) Creator.check_toMap
    unfold parts
    cases r.nextHop <;> cases r.creator <;> rfl
  rw [check, Schema.record_obj, fields, hid, text (o := r.href) rfl, text (o := r.name) rfl,
    text (o := r.createdAt) rfl, text (o := r.action) rfl, text (o := r.destination) rfl,
    text (o := r.lifecycleState) rfl, text (o := r.origin) rfl, text (o := r.zone) rfl,
    text (o := r.nexthop) rfl, hnextHop, hcreator]
  rfl

/-- The next hop of a route that was read of an answer is repeated in
short. -/
theorem nexthop_of_ofAnswer {data : Json} (h : ofAnswer data = .ok r) :
    r.nexthop = r.nextHop.map NextHop.short := by
  simp only [ofAnswer, bind_eq_ok_iff, checked_eq_ok_iff] at h
  obtain ⟨nextHop, -, creator, -, id, -, href, -, name, -, createdAt, -, action, -, h⟩ := h
  obtain ⟨destination, -, lifecycleState, -, origin, -, place, -, zone, -, h⟩ := h
  simp only [fields, Checked.seq_eq_ok_iff] at h
  obtain ⟨_, creator, ⟨_, nextHop, ⟨_, nexthop, h, hshort, rfl⟩, hnextHop, rfl⟩, -, rfl⟩ := h
  obtain ⟨_, _, ⟨_, _, ⟨_, _, ⟨_, _, ⟨_, _, h, -, rfl⟩, -, rfl⟩, -, rfl⟩, -, rfl⟩, -, rfl⟩ := h
  obtain ⟨_, _, ⟨_, _, ⟨_, _, h, -, rfl⟩, -, rfl⟩, -, rfl⟩ := h
  obtain ⟨_, -, rfl⟩ := Checked.map_eq_ok_iff.1 h
  cases hnextHop
  have hshort := Except.ok.inj (Schema.optionalText_eq_ok_iff_find.1 hshort)
  exact (Json.ofOption_inj.1 hshort).symm

/-- **The map of a route is lossless.** It holds no null at any depth, and
wherever it comes from it is read as the very route. A route that was read
of an answer repeats its next hop in short: the address or the identifier
of the connection, and nothing exactly if no next hop is known. -/
theorem map_is_lossless :
    (∀ r : Route, (Json.obj r.toMap).WithoutNull ∧
      ∀ origin, check origin (.obj r.toMap) = .ok r) ∧
    ∀ (data : Json) (r : Route), ofAnswer data = .ok r →
      (∀ address, r.nextHop = some (.ip address) → r.nexthop = some address) ∧
      (∀ c, r.nextHop = some (.vpnConnection c) → r.nexthop = some c.id) ∧
      (r.nexthop = none ↔ r.nextHop = none) := by
  refine ⟨fun r => ⟨r.withoutNull_toMap, fun _ => r.check_toMap⟩, fun data r h => ?_⟩
  have hshort := r.nexthop_of_ofAnswer h
  refine ⟨fun address hip => ?_, fun c hconnection => ?_, ?_⟩
  · rw [hshort, hip]
    rfl
  · rw [hshort, hconnection]
    rfl
  · rw [hshort, Option.map_eq_none_iff]

/-- A route over a connection that was deleted, made by a VPN server. -/
def throughConnection : Route where
  id := "r-1"
  href := some "/routes/r-1"
  name := none
  createdAt := none
  action := some "deliver"
  destination := some "10.0.0.0/8"
  lifecycleState := none
  origin := none
  zone := some "eu-1"
  nexthop := some "c-1"
  nextHop := some (.vpnConnection ⟨"c-1", none, some "link", none, some ⟨"gone"⟩⟩)
  creator := some ⟨⟨some "crn:1", none, "s-1", none, some "vpn_server", none⟩, .vpnServer⟩

/-- An answer that tells this route, with members that are null, empty or
not known. -/
def connectionAnswer : Json :=
  .obj [("id", .str "r-1"), ("href", .str "/routes/r-1"), ("name", .null),
    ("action", .str "deliver"), ("destination", .str "10.0.0.0/8"), ("priority", .int 2),
    ("zone", .obj [("name", .str "eu-1")]),
    ("next_hop", .obj [("address", .null), ("id", .str "c-1"), ("name", .str "link"),
      ("deleted", .obj [("more_info", .str "gone")])]),
    ("creator", .obj [("crn", .str "crn:1"), ("id", .str "s-1"),
      ("resource_type", .str "vpn_server"), ("deleted", .obj [])])]

theorem map_is_lossless_through_connection :
    ofAnswer connectionAnswer = .ok throughConnection ∧
      throughConnection.nexthop = some "c-1" ∧
      (Json.obj throughConnection.toMap).WithoutNull ∧
      check .data (.obj throughConnection.toMap) = .ok throughConnection :=
  ⟨rfl, (map_is_lossless.2 connectionAnswer throughConnection rfl).2.1 _ rfl,
    (map_is_lossless.1 throughConnection).1, (map_is_lossless.1 throughConnection).2 .data⟩

end Route

end NetSteward
