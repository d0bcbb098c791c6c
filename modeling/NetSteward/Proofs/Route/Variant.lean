import NetSteward.Proofs.Route.Map
/-!
# Variants of an answer

The next hop and the creator of a route arrive as objects that only their
form tells apart. To read such an object and to write its map is to keep
some of its members. The main result says which: a next hop keeps its
address alone if it has one, and otherwise, like a creator, what it
mentions of the resource and the mark of its deletion. What is kept is
read as the same variant again, so nothing more is lost the second time;
and a next hop is of no variant exactly if neither an address nor an
identifier is given.
-/

namespace NetSteward

/-- A member is missing or null. -/
def Json.Lacks (members : Keyed Json) (name : String) : Prop :=
  Keyed.get? members name = none ∨ Keyed.get? members name = some .null

/-- What is lacked is found to be null. -/
theorem Json.lacks_iff {members : Keyed Json} {name : String} :
    Lacks members name ↔ (Json.obj members).find name = .ok .null := by
  rw [Json.find_obj, Except.ok.injEq, Lacks]
  cases Keyed.get? members name with
  | none => simp
  | some j => simp

/-- An answer was not read because it fits no variant. -/
def Unreadable.IsUnknownVariant : Unreadable → Prop
  | unknownVariant _ _ => True
  | wrongVariant _ _ => True
  | _ => False

namespace Route

variable {members : Keyed Json} {id : String} {href name resourceType : Option String}

/-! ## What is kept of an object -/

/-- The members of these names, in the order of the names and without
those that are null. -/
def restricted (names : List String) (members : Keyed Json) : Keyed Json :=
  names.filterMap fun name =>
    ((Keyed.get? members name).filter fun j => !j.isNull).map fun j => (name, j)

/-- The mark of a deleted resource, if it counts as given, restricted to
what it says. -/
def restrictedMark (members : Keyed Json) : Keyed Json :=
  match (Keyed.get? members "deleted").filter Json.isGiven with
  | some (.obj mark) => [("deleted", .obj (restricted ["more_info"] mark))]
  | _ => []

/-- What is kept is what is found, without null. -/
theorem restricted_eq (names : List String) (members : Keyed Json) :
    restricted names members =
      present (names.map fun name => (name, (Keyed.get? members name).getD .null)) := by
  induction names with
  | nil => rfl
  | cons name more ih =>
    simp only [restricted, present] at ih ⊢
    rw [List.filterMap_cons, List.map_cons, List.filter_cons, ih]
    cases Keyed.get? members name with
    | none => rfl
    | some j => cases h : j.isNull <;> simp [Option.filter, h]

theorem restricted_cons {field : String} {j : Json}
    (h : (Json.obj members).find field = .ok j) (names : List String) :
    restricted (field :: names) members = present [(field, j)] ++ restricted names members := by
  rw [restricted_eq, restricted_eq, List.map_cons, Except.ok.inj h]
  exact List.filter_append [(field, j)] _

theorem Mentions.restricted_eq (h : Mentions members id href name resourceType) :
    restricted ["href", "id", "name", "resource_type"] members =
      present [("href", .ofOption href), ("id", .str id), ("name", .ofOption name),
        ("resource_type", .ofOption resourceType)] := by
  rw [Route.restricted_eq]
  simp only [List.map_cons, List.map_nil, Except.ok.inj h.href, Except.ok.inj h.id,
    Except.ok.inj h.name, Except.ok.inj h.resourceType]

/-- The mark that was read is the one that is kept. -/
theorem Deleted.entries_of_ofAnswer {d : Option Deleted}
    (h : Deleted.ofAnswer (.obj members) = .ok d) : entries d = restrictedMark members := by
  simp only [ofAnswer, bind_eq_ok_iff, shaped_eq_ok_iff, Json.find_obj, Except.ok.injEq] at h
  obtain ⟨deleted, rfl, h⟩ := h
  unfold restrictedMark
  cases hfound : Keyed.get? members "deleted" with
  | none =>
    rw [hfound] at h
    cases h
    rfl
  | some j =>
    rw [hfound, Option.getD_some] at h
    cases hgiven : j.isGiven with
    | false =>
      rw [hgiven] at h
      cases h
      simp [Option.filter, hgiven, entries]
    | true =>
      simp only [hgiven, if_true, bind_eq_ok_iff, shaped_eq_ok_iff, checked_eq_ok_iff] at h
      obtain ⟨moreInfo, hrequired, h⟩ := h
      obtain ⟨d, hread, rfl⟩ := Checked.map_eq_ok_iff.1 h
      obtain ⟨text, htext, rfl⟩ := Checked.map_eq_ok_iff.1 hread
      have htext : moreInfo = .str text :=
        Except.ok.inj (Schema.required_text_eq_ok_iff_find.1 htext)
      cases j with
      | obj mark =>
        have hkept : restricted ["more_info"] mark = [("more_info", .str text)] := by
          rw [restricted_eq, List.map_singleton, Except.ok.inj (Json.find_eq_of_require hrequired),
            htext]
          rfl
        rw [Option.filter_some, if_pos hgiven]
        exact congrArg (fun kept => [("deleted", Json.obj kept)]) hkept.symm
      | null | bool | int | float | str | arr => cases hrequired

/-- A mark is read as it is told. -/
theorem Deleted.ofAnswer_of_find {d : Option Deleted}
    (h : (Json.obj members).find "deleted" = .ok (optionJson d)) :
    ofAnswer (.obj members) = .ok d := by
  rw [ofAnswer, h]
  cases d with
  | none | some => rfl

/-- What a map tells is required of it. -/
theorem Mentions.require_id (h : Mentions members id href name resourceType) :
    (Json.obj members).require "id" = .ok (.str id) := by
  have hid := Schema.required_text_eq_ok_iff_find.2 h.id
  rw [Schema.required_text_eq_ok_iff] at hid
  rw [Json.require, hid]

/-! ## Next hops -/

namespace NextHop

variable {n : NextHop}

/-- A connection is read of an object that mentions it. -/
theorem of_checkConnection {origin : Schema.Origin} {d : Option Deleted}
    (hd : (Json.obj members).find "deleted" = .ok (Deleted.optionJson d))
    (h : checkConnection origin (.obj members) = .ok n) :
    ∃ c, n = vpnConnection c ∧ Mentions members c.id c.href c.name c.resourceType ∧
      c.deleted = d := by
  simp only [checkConnection, Schema.record_obj, Checked.seq_eq_ok_iff, Checked.map_eq_ok_iff,
    Schema.optionalText_eq_ok_iff_find, Schema.required_text_eq_ok_iff_find] at h
  obtain ⟨_, deleted, ⟨_, type, ⟨_, name, ⟨_, href, ⟨_, id, ⟨_, -, rfl⟩, hid, rfl⟩, hhref, rfl⟩,
    hname, rfl⟩, htype, rfl⟩, hdeleted, rfl⟩ := h
  rw [Deleted.field, Schema.defaulted_of_find hd, Deleted.nullable_optionJson] at hdeleted
  cases hdeleted
  exact ⟨_, rfl, ⟨hid, hhref, hname, htype⟩, rfl⟩

/-- **A next hop with an address keeps it alone.** -/
theorem toMap_of_address {address : Json} (h : ofAnswer (.obj members) = .ok n)
    (haddress : Keyed.get? members "address" = some address) (hne : address ≠ .null) :
    n.toMap = [("address", address)] := by
  have hfound : (Json.obj members).find "address" = .ok address := by
    rw [Json.find_obj, haddress, Option.getD_some]
  have hgiven : (!address.isNull) = true := by simpa [← Json.isNull_iff] using hne
  simp only [ofAnswer, hfound, bind_eq_ok_iff, shaped_eq_ok_iff] at h
  obtain ⟨_, heq, id, -, h⟩ := h
  cases heq
  rw [if_pos hgiven] at h
  simp only [checked_eq_ok_iff, checkIp, Schema.record_obj, Checked.seq_eq_ok_iff,
    Checked.map_eq_ok_iff, Schema.required_text_eq_ok_iff_find] at h
  obtain ⟨_, text, ⟨_, -, rfl⟩, htext, rfl⟩ := h
  have htext : address = .str text := Except.ok.inj htext
  rw [htext]
  rfl

/-- **Without one it keeps what the object mentions of a connection.** -/
theorem toMap_of_lacks (h : ofAnswer (.obj members) = .ok n)
    (hlacks : Json.Lacks members "address") :
    n.toMap = restricted ["href", "id", "name", "resource_type"] members ++
      restrictedMark members := by
  simp only [ofAnswer, Json.lacks_iff.1 hlacks, bind_eq_ok_iff, shaped_eq_ok_iff] at h
  obtain ⟨_, heq, id, hid, h⟩ := h
  cases heq
  rw [if_neg (by decide)] at h
  split at h
  next =>
    simp only [bind_eq_ok_iff, shaped_eq_ok_iff, checked_eq_ok_iff] at h
    obtain ⟨href, hhref, name, hname, type, htype, d, hd, h⟩ := h
    obtain ⟨c, rfl, hc, rfl⟩ := of_checkConnection rfl h
    -- What the arguments mention stands in the answer itself.
    have hmentions : Mentions members c.id c.href c.name c.resourceType :=
      ⟨hid.trans hc.id, hhref.trans hc.href, hname.trans hc.name, htype.trans hc.resourceType⟩
    rw [hmentions.restricted_eq, ← Deleted.entries_of_ofAnswer hd]
    rfl
  next => cases h

/-- The map of a next hop is read as the next hop. -/
theorem ofAnswer_toMap (n : NextHop) : ofAnswer (.obj n.toMap) = .ok n := by
  cases n with
  | ip address => rfl
  | vpnConnection c =>
    have h := tells_toMap c
    have haddress : (Json.obj (vpnConnection c).toMap).find "address" = .ok .null := by
      refine (find_present_append ?_ "address").trans ?_
      · cases c.deleted <;> simp [Keyed.keys, Deleted.entries]
      · cases c.deleted <;> rfl
    rw [ofAnswer, haddress, h.id, h.href, h.name, h.resourceType,
      Deleted.ofAnswer_of_find h.deleted]
    have htold : Tells [("id", .str c.id), ("href", .ofOption c.href), ("name", .ofOption c.name),
        ("resource_type", .ofOption c.resourceType),
        ("deleted", Deleted.optionJson c.deleted)] c.id c.href c.name c.resourceType c.deleted :=
      ⟨⟨rfl, rfl, rfl, rfl⟩, rfl⟩
    exact congrArg checked (htold.checkConnection rfl)

end NextHop

/-! ## Creators -/

namespace Creator

variable {c : Creator}

/-- The kind of a creator is the type of resource that was named. -/
theorem eq_str_of_kindOf? {data type : Json} {kind : CreatorKind}
    (h : kindOf? data type = .ok kind) : type = .str kind.name := by
  cases type with
  | str s =>
    rw [kindOf?] at h
    split at h
    next hs => cases h; rw [hs]
    next =>
      split at h
      next hs => cases h; rw [hs]
      next => cases h
  | null | bool | int | float | arr | obj => cases h

theorem kindOf?_name (data : Json) (kind : CreatorKind) :
    kindOf? data (.str kind.name) = .ok kind := by
  cases kind <;> rfl

/-- A creator is read of an object that mentions it. -/
theorem of_checkKind {origin : Schema.Origin} {kind : CreatorKind} {d : Option Deleted}
    (hd : (Json.obj members).find "deleted" = .ok (Deleted.optionJson d))
    (h : checkKind origin kind (.obj members) = .ok c) :
    Mentions members c.id c.href c.name c.resourceType ∧
      (Json.obj members).find "crn" = .ok (.ofOption c.crn) ∧ c.deleted = d ∧ c.kind = kind := by
  simp only [checkKind, CreatorReference.fields, Schema.record_obj, Checked.seq_eq_ok_iff,
    Checked.map_eq_ok_iff, Schema.optionalText_eq_ok_iff_find,
    Schema.required_text_eq_ok_iff_find] at h
  obtain ⟨_, _, ⟨_, ⟨_, deleted, ⟨_, type, ⟨_, name, ⟨_, id, ⟨_, href, ⟨crn, hcrn, rfl⟩, hhref,
    rfl⟩, hid, rfl⟩, hname, rfl⟩, htype, rfl⟩, hdeleted, rfl⟩, rfl⟩, -, rfl⟩ := h
  rw [Deleted.field, Schema.defaulted_of_find hd, Deleted.nullable_optionJson] at hdeleted
  cases hdeleted
  exact ⟨⟨hid, hhref, hname, htype⟩, hcrn, rfl, rfl⟩

/-- **What a creator keeps of an answer.** -/
theorem toMap_of_ofAnswer (h : ofAnswer (.obj members) = .ok c) :
    c.toMap = restricted ["crn", "href", "id", "name", "resource_type"] members ++
        restrictedMark members ∧
      (Json.obj members).find "resource_type" = .ok (.str c.kind.name) ∧
      c.resourceType = some c.kind.name := by
  simp only [ofAnswer, bind_eq_ok_iff, shaped_eq_ok_iff, checked_eq_ok_iff] at h
  obtain ⟨type, htype, kind, hkind, crn, hcrn, href, hhref, id, hid, name, hname, d, hd, h⟩ := h
  obtain ⟨hc, hread, rfl, rfl⟩ := of_checkKind rfl h
  have hnamed : type = .str c.kind.name := eq_str_of_kindOf? hkind
  have hmentions : Mentions members c.id c.href c.name c.resourceType :=
    ⟨(Json.find_eq_of_require hid).trans hc.id, hhref.trans hc.href, hname.trans hc.name,
      htype.trans hc.resourceType⟩
  have hcrn : (Json.obj members).find "crn" = .ok (.ofOption c.crn) := hcrn.trans hread
  refine ⟨?_, by rw [htype, hnamed], ?_⟩
  · rw [restricted_cons hcrn, hmentions.restricted_eq, ← Deleted.entries_of_ofAnswer hd,
      toMap]
    exact congrArg (· ++ _) (List.filter_append [_] _)
  · have htold : type = .ofOption c.resourceType := Except.ok.inj hc.resourceType
    exact Json.ofOption_inj.1 (htold.symm.trans hnamed)

/-- The map of a creator is read as the creator, if it names its type. -/
theorem ofAnswer_toMap (h : c.resourceType = some c.kind.name) :
    ofAnswer (.obj c.toMap) = .ok c := by
  obtain ⟨htells, hcrn⟩ := c.tells_toMap
  have htype : (Json.obj c.toMap).find "resource_type" = .ok (.str c.kind.name) := by
    rw [htells.resourceType, h]
    rfl
  rw [ofAnswer, htype, hcrn, htells.href, htells.require_id, htells.name,
    Deleted.ofAnswer_of_find htells.deleted]
  refine bind_eq_ok_iff.2 ⟨_, rfl, bind_eq_ok_iff.2 ⟨_, kindOf?_name _ c.kind, ?_⟩⟩
  have htold : Tells [("crn", .ofOption c.crn), ("href", .ofOption c.href), ("id", .str c.id),
      ("name", .ofOption c.name), ("resource_type", .str c.kind.name),
      ("deleted", Deleted.optionJson c.deleted)] c.id c.href c.name c.resourceType c.deleted :=
    ⟨⟨rfl, rfl, rfl, by rw [h]; rfl⟩, rfl⟩
  exact congrArg checked (htold.checkKind rfl rfl)

end Creator

/-! ## No variant -/

/-- A reading that does not fail for want of a variant. -/
def Fits {α : Type} (x : Read α) : Prop := ∀ e, x = .error e → ¬ e.IsUnknownVariant

theorem fits_shaped {α : Type} (x : Except Mismatch α) : Fits (shaped x) := by
  intro e he
  cases x with
  | ok a => cases he
  | error m => cases he; exact not_false

theorem fits_checked {α : Type} (x : Checked α) : Fits (checked x) := by
  intro e he
  cases x with
  | ok a => cases he
  | failed issues => cases he; exact not_false

theorem Fits.bind {α β : Type} {x : Read α} {f : α → Read β} (hx : Fits x)
    (hf : ∀ a, Fits (f a)) : Fits (x >>= f) := by
  intro e he
  cases x with
  | ok a => exact hf a e he
  | error e' => cases he; exact hx _ rfl

theorem Deleted.fits_ofAnswer (data : Json) : Fits (Deleted.ofAnswer data) := by
  refine (fits_shaped _).bind fun deleted => ?_
  split
  · exact (fits_shaped _).bind fun moreInfo => fits_checked _
  · exact fun e he => by cases he

/-- **A next hop is of no variant** exactly if neither an address nor an
identifier is given. -/
theorem NextHop.unknownVariant_iff :
    (∃ e, NextHop.ofAnswer (.obj members) = .error e ∧ e.IsUnknownVariant) ↔
      Json.Lacks members "address" ∧ Json.Lacks members "id" := by
  rw [Json.lacks_iff, Json.lacks_iff]
  constructor
  · rintro ⟨e, he, hunknown⟩
    obtain ⟨address, haddress⟩ : ∃ address, (Json.obj members).find "address" = .ok address :=
      ⟨_, rfl⟩
    obtain ⟨id, hid⟩ : ∃ id, (Json.obj members).find "id" = .ok id := ⟨_, rfl⟩
    rw [ofAnswer, haddress, hid] at he
    change (if _ then _ else _) = _ at he
    split at he
    next => exact absurd hunknown (fits_checked _ e he)
    next hnoAddress =>
      split at he
      next =>
        refine absurd hunknown (Fits.bind (fits_shaped _) (fun href => ?_) e he)
        refine (fits_shaped _).bind fun name => (fits_shaped _).bind fun type => ?_
        exact (Deleted.fits_ofAnswer _).bind fun deleted => fits_checked _
      next hnoId =>
        rw [haddress, hid, (Json.isNull_iff address).1 (by simpa using hnoAddress),
          (Json.isNull_iff id).1 (by simpa using hnoId)]
        exact ⟨rfl, rfl⟩
  · rintro ⟨haddress, hid⟩
    refine ⟨.unknownVariant .nextHop (.obj members), ?_, trivial⟩
    rw [ofAnswer, haddress, hid]
    rfl

/-! ## The main result -/

/-- **To read a variant and to write its map is a projection.** A next hop
keeps its address alone if there is one; without one it keeps what the
object mentions of a connection. A creator keeps what the object mentions
of it, and its kind is the type of resource that was named there. Both are
read as the same from what they kept. A next hop is refused for want of a
variant exactly if the object lacks an address and an identifier. -/
theorem variants_are_projected (members : Keyed Json) :
    (∀ n, NextHop.ofAnswer (.obj members) = .ok n →
      (∀ address, Keyed.get? members "address" = some address → address ≠ .null →
        n.toMap = [("address", address)]) ∧
      (Json.Lacks members "address" →
        n.toMap = restricted ["href", "id", "name", "resource_type"] members ++
          restrictedMark members) ∧
      NextHop.ofAnswer (.obj n.toMap) = .ok n) ∧
    (∀ c, Creator.ofAnswer (.obj members) = .ok c →
      c.toMap = restricted ["crn", "href", "id", "name", "resource_type"] members ++
        restrictedMark members ∧
      (Json.obj members).find "resource_type" = .ok (.str c.kind.name) ∧
      Creator.ofAnswer (.obj c.toMap) = .ok c) ∧
    ((∃ e, NextHop.ofAnswer (.obj members) = .error e ∧ e.IsUnknownVariant) ↔
      Json.Lacks members "address" ∧ Json.Lacks members "id") := by
  refine ⟨fun n hn => ?_, fun c hc => ?_, NextHop.unknownVariant_iff⟩
  · exact ⟨fun _ => NextHop.toMap_of_address hn, NextHop.toMap_of_lacks hn, n.ofAnswer_toMap⟩
  · obtain ⟨hmap, hkind, htype⟩ := Creator.toMap_of_ofAnswer hc
    exact ⟨hmap, hkind, Creator.ofAnswer_toMap htype⟩

/-- An object that could be a connection or a gateway, with members that
are null or not known. -/
def gatewayMembers : Keyed Json :=
  [("address", .null), ("id", .str "g-1"), ("resource_type", .str "vpn_gateway"),
    ("name", .null), ("speed", .int 10),
    ("deleted", .obj [("at", .null), ("more_info", .str "gone")])]

/-- What is kept of it. -/
def keptMembers : Keyed Json :=
  [("id", .str "g-1"), ("resource_type", .str "vpn_gateway"),
    ("deleted", .obj [("more_info", .str "gone")])]

theorem variants_are_projected_gateway :
    (∃ n, NextHop.ofAnswer (.obj gatewayMembers) = .ok n ∧ n.toMap = keptMembers ∧
      NextHop.ofAnswer (.obj keptMembers) = .ok n) ∧
    ∃ c, Creator.ofAnswer (.obj gatewayMembers) = .ok c ∧ c.toMap = keptMembers ∧
      Creator.ofAnswer (.obj keptMembers) = .ok c :=
  have projected := variants_are_projected gatewayMembers
  have hop := projected.1
    (.vpnConnection ⟨"g-1", none, none, some "vpn_gateway", some ⟨"gone"⟩⟩) rfl
  have creator := projected.2.1
    ⟨⟨none, none, "g-1", none, some "vpn_gateway", some ⟨"gone"⟩⟩, .vpnGateway⟩ rfl
  ⟨⟨_, rfl, hop.2.1 (.inr rfl), hop.2.2⟩, _, rfl, creator.1, creator.2.2⟩

end Route

end NetSteward
