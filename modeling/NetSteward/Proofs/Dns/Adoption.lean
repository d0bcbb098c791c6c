import NetSteward.Proofs.Dns.Succession
import NetSteward.Proofs.Dns.Teardown
/-!
# Adopting a configuration

To adopt the configuration of a VPC is to read it back from a state of which
nothing is known and, if the VPC delegates, to find the binding that it
delegates through. What the VPC shows is recorded first, without a binding,
and once more when the bindings have been listed. So an adoption that fails
while they are listed has replaced the record, and only one that fails before
has not. An adoption whose calls are all answered well goes through: it takes
the first binding, over all pages, that leads to the other VPC, and that is
the binding that a deletion removes.
-/

namespace NetSteward

/-- Only a text has the value of a text. -/
theorem Json.same_str_right {a : String} {j : Json} : j.same (.str a) = true ↔ j = .str a := by
  cases j with
  | str b => rw [same_str, Json.str.injEq]
  | null | bool | int | float | arr | obj => exact iff_of_false (by simp [same, number?]) (by simp)

namespace Dns

open Remote (Call Exchange Refusal Reply Walked)

variable {calls more listing : List Exchange} {v : String} {w x : World} {p s : State}
variable {f : Failure} {result : Except Failure State}

/-! ## Reading a VPC of which nothing is known -/

/-- Without a binding no name is looked up. -/
theorem Named.eq_ok_of_unbound (h : Named p result calls) (hp : p.bindingId = .null) :
    result = .ok p ∧ calls = [] := by
  have hunasked : (p.isDelegated && p.hasBinding) = false := by
    rw [State.hasBinding, hp]
    exact Bool.and_false _
  cases h with
  | unasked => exact ⟨rfl, rfl⟩
  | listed hasked | unlisted hasked | broken hasked =>
    rw [hunasked] at hasked
    cases hasked

/-- What a VPC shows is recorded as it is read, without a binding. -/
theorem Refreshed.of_blank (h : Refreshed (State.ofText v) w (.ok s) calls x) :
    ∃ body written, calls = [(.getVpc (.str v), .ok body)] ∧
      (State.ofText v).overlaid body = .ok s ∧
      w.Leads (w.store.records.insert (keyOf v)
        (Memory.record .dnsConfig (.str v) s.attributes written)) x := by
  cases h with
  | @shown body read _ _ written _ hread hs hx =>
    obtain ⟨-, hvpc, -, hbinding⟩ := State.kept_of_overlaid hread
    obtain ⟨hsame, rfl⟩ := hs.eq_ok_of_unbound hbinding
    cases hsame
    rw [hvpc] at hx
    exact ⟨body, written, rfl, hread, hx⟩

/-- A VPC that is not read leaves the records alone, unless it is missing. -/
theorem Refreshed.of_blank_failed (h : Refreshed (State.ofText v) w (.error f) calls x) :
    (∃ reply, calls = [(.getVpc (.str v), reply)]) ∧
      (x.store.records = w.store.records ∧ f.isGone = false ∨
        ReportedMissing calls v ∧ f = .gone .dnsConfig (.str v) ∧
          x.store.records = w.store.records.erase (keyOf v)) := by
  cases h with
  | unrecorded hread hs hf hx =>
    obtain ⟨-, rfl⟩ := hs.eq_ok_of_unbound (State.kept_of_overlaid hread).2.2.2
    exact ⟨⟨_, rfl⟩, .inl ⟨hx.records_eq, hf.isGone_eq⟩⟩
  | unnamed hread hf =>
    obtain ⟨hok, -⟩ := hf.eq_ok_of_unbound (State.kept_of_overlaid hread).2.2.2
    cases hok
  | garbled _ hx | refused _ hx | cut hx | undropped _ _ hx =>
    exact ⟨⟨_, rfl⟩, .inl ⟨hx.records_eq, rfl⟩⟩
  | missing hr hx =>
    exact ⟨⟨_, rfl⟩, .inr ⟨⟨_, hr, List.mem_singleton.2 rfl⟩, rfl, hx.records_eq⟩⟩

/-! ## The binding that is found -/

/-- A known text is found exactly as it is. -/
theorem exists_text_iff {known found : Json} (h : known.IsOptionalText) :
    (known.isGiven && found.same known) = true ↔
      ∃ t, t ≠ "" ∧ known = .str t ∧ found = .str t := by
  obtain ⟨o, rfl⟩ := h
  cases o with
  | none => exact iff_of_false (by simp [Json.ofOption, Json.isGiven]) (by simp [Json.ofOption])
  | some t =>
    simp only [Json.ofOption, Bool.and_eq_true, Json.isGiven_str, Json.same_str_right,
      Json.str.injEq]
    constructor
    · rintro ⟨hne, hfound⟩
      exact ⟨t, hne, rfl, hfound⟩
    · rintro ⟨_, hne, rfl, hfound⟩
      exact ⟨hne, hfound⟩

/-- **A binding leads to a VPC**, by the identifier or by the CRN of the VPC,
if that is known. -/
def LeadsTo (hubId hubCrn binding : Json) : Prop :=
  (∃ id, id ≠ "" ∧ hubId = .str id ∧ binding.along ["vpc", "id"] = .ok (.str id)) ∨
    ∃ crn, crn ≠ "" ∧ hubCrn = .str crn ∧ binding.along ["vpc", "crn"] = .ok (.str crn)

/-- The VPC that a binding leads to can be read: it is an object, if it is
given. -/
def Targeted (binding : Json) : Prop := ∃ id, binding.along ["vpc", "id"] = .ok id

/-- **The first of some bindings that leads to a VPC**, by its identifier and
its name, null if there is none. -/
inductive FirstMatch (hubId hubCrn : Json) : List Json → Json → Json → Prop
  | found {before after : List Json} {binding id name : Json}
      (hbefore : ∀ b ∈ before, ¬ LeadsTo hubId hubCrn b) (h : LeadsTo hubId hubCrn binding)
      (hid : binding.find "id" = .ok id) (hname : binding.find "name" = .ok name) :
      FirstMatch hubId hubCrn (before ++ binding :: after) id name
  | none {bindings : List Json} (h : ∀ b ∈ bindings, ¬ LeadsTo hubId hubCrn b) :
      FirstMatch hubId hubCrn bindings .null .null

/-- A binding that does not lead to the VPC is passed over. -/
theorem FirstMatch.cons {hubId hubCrn binding id name : Json} {bindings : List Json}
    (h : FirstMatch hubId hubCrn bindings id name) (hb : ¬ LeadsTo hubId hubCrn binding) :
    FirstMatch hubId hubCrn (binding :: bindings) id name := by
  cases h with
  | found hbefore h hid hname =>
    rw [← List.cons_append]
    exact .found (List.forall_mem_cons.2 ⟨hb, hbefore⟩) h hid hname
  | none h => exact .none (List.forall_mem_cons.2 ⟨hb, h⟩)

/-- Whether a binding leads to the VPC of a state can be told. -/
theorem State.leadsTo_iff {binding vpc : Json} (hs : s.Typed) (hvpc : binding.find "vpc" = .ok vpc)
    (ht : Targeted binding) :
    ∃ found, s.leadsTo vpc.orEmpty = .ok found ∧
      (found = true ↔ LeadsTo s.resolverVpcId s.resolverVpcCrn binding) := by
  have hwithin := Json.along_cons (Json.find_orEmpty hvpc)
  obtain ⟨id, hid⟩ := ht
  rw [hwithin, Json.along_singleton] at hid
  obtain ⟨crn, hcrn⟩ := find_of_find hid "crn"
  have hleads : LeadsTo s.resolverVpcId s.resolverVpcCrn binding ↔
      (∃ t, t ≠ "" ∧ s.resolverVpcId = .str t ∧ id = .str t) ∨
        ∃ t, t ≠ "" ∧ s.resolverVpcCrn = .str t ∧ crn = .str t := by
    simp only [LeadsTo, hwithin, Json.along_singleton, hid, hcrn, Except.ok.injEq]
  refine ⟨(s.resolverVpcId.isGiven && id.same s.resolverVpcId) ||
    (s.resolverVpcCrn.isGiven && crn.same s.resolverVpcCrn), ?_, ?_⟩
  · simp only [State.leadsTo, hid, hcrn, Functor.map, Except.map]
    cases s.resolverVpcId.isGiven <;> cases s.resolverVpcCrn.isGiven <;>
      cases id.same s.resolverVpcId <;> rfl
  · rw [Bool.or_eq_true, exists_text_iff hs.hubId, exists_text_iff hs.hubCrn, hleads]

/-- **What a state is with the binding that it takes**: typed and as it was, but
for the first binding that leads to the VPC to which it delegates. -/
structure Takes (s : State) (bindings : List Json) (t : State) : Prop where
  typed : t.Typed
  kept : t = { s with bindingId := t.bindingId, bindingName := t.bindingName }
  first : FirstMatch s.resolverVpcId s.resolverVpcCrn bindings t.bindingId t.bindingName

/-- **The binding that is adopted is the first one that leads to the VPC** to
which a state delegates. -/
theorem State.adoptFrom_first {bindings : List Json} (hs : s.Typed)
    (hid : s.bindingId = .null) (hname : s.bindingName = .null)
    (hall : ∀ b ∈ bindings, WellTypedBinding b ∧ Targeted b) :
    ∃ t, s.adoptFrom bindings = .ok t ∧ Takes s bindings t := by
  induction bindings with
  | nil =>
    refine ⟨s, rfl, hs, rfl, ?_⟩
    rw [hid, hname]
    exact .none (List.forall_mem_nil _)
  | cons binding rest ih =>
    obtain ⟨⟨hbinding, htarget⟩, hrest⟩ := List.forall_mem_cons.1 hall
    obtain ⟨vpc, hvpc⟩ := hbinding.find "vpc"
    obtain ⟨found, hfound, hiff⟩ := State.leadsTo_iff hs hvpc htarget
    simp only [State.adoptFrom, hvpc, hfound, bind, Except.bind]
    cases found with
    | true =>
      obtain ⟨id, hid⟩ := hbinding.find "id"
      obtain ⟨name, hname⟩ := hbinding.find "name"
      rw [if_pos rfl, hid, hname]
      have htyped : State.Typed { s with bindingId := id, bindingName := name } :=
        { hs with binding := hbinding.id id hid, name := hbinding.name name hname }
      refine ⟨_, rfl, htyped, rfl, ?_⟩
      -- Nothing comes before the binding, which leads to the VPC.
      rw [← List.nil_append (binding :: rest)]
      exact .found (List.forall_mem_nil _) (hiff.1 rfl) hid hname
    | false =>
      rw [if_neg Bool.false_ne_true]
      obtain ⟨t, ht, htakes⟩ := ih hrest
      have hpassed : ¬ LeadsTo s.resolverVpcId s.resolverVpcCrn binding :=
        fun hleads => Bool.false_ne_true (hiff.2 hleads)
      exact ⟨t, ht, htakes.typed, htakes.kept, htakes.first.cons hpassed⟩

/-! ## Adoptions that go through -/

/-- **What is adopted**, given what the VPC shows and the calls that list its
bindings. -/
structure Adoption (v : String) (body : Json) (listing : List Exchange) (s : State) : Prop where
  /-- All but the binding is as the VPC shows it. -/
  shown : ∃ read, (State.ofText v).overlaid body = .ok read ∧
    s = { read with bindingId := s.bindingId, bindingName := s.bindingName }
  /-- The bindings are listed over all pages, and the first one that leads to
  the other VPC is taken. -/
  delegated : body.along ["dns", "resolver", "type"] = .ok (.str "delegated") →
    ∃ bindings hubId hubCrn, Walked (bindingsOf v) none (.ok bindings) listing ∧
      body.along ["dns", "resolver", "vpc", "id"] = .ok hubId ∧
      body.along ["dns", "resolver", "vpc", "crn"] = .ok hubCrn ∧
      FirstMatch hubId hubCrn bindings s.bindingId s.bindingName
  plain : body.along ["dns", "resolver", "type"] ≠ .ok (.str "delegated") →
    listing = [] ∧ s.bindingId = .null ∧ s.bindingName = .null

/-- Whether a state delegates that was read of nothing but a VPC. -/
theorem State.isDelegated_iff {body : Json} (h : (State.ofText v).overlaid body = .ok s) :
    s.isDelegated = true ↔ body.along ["dns", "resolver", "type"] = .ok (.str "delegated") := by
  obtain ⟨⟨type, htype, hs⟩, -⟩ := State.read_of_overlaid h
  rw [htype, Except.ok.injEq, State.isDelegated, Json.isStr_iff, hs]
  cases hgiven : type.isGiven with
  | true => exact Iff.rfl
  | false =>
    -- What is not given counts as the system's resolver.
    refine iff_of_false (fun hsystem => absurd (Json.str.inj hsystem) (by decide))
      fun heq => ?_
    rw [heq] at hgiven
    cases hgiven

/-- A VPC that is answered well is read. -/
theorem Refreshed.not_failed (h : Refreshed (State.ofText v) w (.error f) calls x)
    (hw : Recordable w) : ¬ AllAnswered calls := by
  intro hall
  cases h with
  | unrecorded hread hs hf =>
    obtain ⟨hsame, rfl⟩ := hs.eq_ok_of_unbound (State.kept_of_overlaid hread).2.2.2
    cases hsame
    cases hall.head with
    | shown hbody =>
      exact hw.not_unwritten ((State.typed_ofText v).overlaid hbody.toTypedVpc hread) hf
  | unnamed hread hf =>
    obtain ⟨hok, -⟩ := hf.eq_ok_of_unbound (State.kept_of_overlaid hread).2.2.2
    cases hok
  | garbled hread =>
    cases hall.head with
    | shown hbody =>
      obtain ⟨s, hs⟩ := hbody.overlaid (State.ofText v)
      cases hs.symm.trans hread
  | refused | cut | missing | undropped => cases hall.head

/-- **A search whose calls are answered well finds the first binding** that
leads to the other VPC, and records it. -/
theorem Matched.recorded_first (h : Matched v s w result calls x) (hw : Recordable w)
    (hs : s.Typed) (hid : s.bindingId = .null) (hname : s.bindingName = .null)
    (hall : AllAnswered calls) (ht : ∀ b, Shown calls b → Targeted b) :
    ∃ t bindings written, result = .ok t ∧ Takes s bindings t ∧
      Walked (bindingsOf v) none (.ok bindings) calls ∧
      w.Leads (w.store.records.insert (keyOf v)
        (Memory.record .dnsConfig (.str v) t.attributes written)) x := by
  have first : ∀ {bindings}, Walked (bindingsOf v) none (.ok bindings) calls →
      ∃ t, s.adoptFrom bindings = .ok t ∧ Takes s bindings t := by
    intro bindings hl
    obtain ⟨found, hfound, htyped⟩ := exists_of_walked hl hall
    cases hfound
    exact State.adoptFrom_first hs hid hname fun b hb =>
      ⟨htyped b hb, ht b (shown_of_listed (hl.listed bindings rfl) (List.Subset.refl _) hb)⟩
  cases h with
  | unlisted hl =>
    obtain ⟨bindings, hok, -⟩ := exists_of_walked hl hall
    cases hok
  | unmatched hl hf =>
    obtain ⟨t, ht, -⟩ := first hl
    cases ht.symm.trans hf
  | unrecorded hl ht hf =>
    obtain ⟨t, hadopt, htakes⟩ := first hl
    cases hadopt.symm.trans ht
    exact absurd hf (hw.not_unwritten htakes.typed)
  | recorded hl ht hx =>
    obtain ⟨t, hadopt, htakes⟩ := first hl
    cases hadopt.symm.trans ht
    exact ⟨_, _, _, rfl, htakes, hl, hx⟩

/-- **An adoption whose calls are answered well returns** what it records. -/
theorem Adopts.answered (h : Adopts v w result calls x) (hw : Recordable w)
    (hall : AllAnswered calls) (ht : ∀ b, Shown calls b → Targeted b) :
    ∃ body listing s, result = .ok s ∧ calls = (.getVpc (.str v), .ok body) :: listing ∧
      Adoption v body listing s ∧ s.Typed ∧
      ∃ records written, x.store.records = Keyed.insert records (keyOf v)
        (Memory.record .dnsConfig (.str v) s.attributes written) := by
  cases h with
  | unread h => exact absurd hall (h.not_failed hw)
  | plain h hs =>
    obtain ⟨body, written, rfl, hread, hx⟩ := h.of_blank
    obtain ⟨-, -, hname, hid⟩ := State.kept_of_overlaid hread
    have hplain := mt (State.isDelegated_iff hread).2 (Bool.eq_false_iff.1 hs)
    cases hall.head with
    | shown hbody =>
      exact ⟨body, [], _, rfl, rfl, ⟨⟨_, hread, rfl⟩, fun hd => absurd hd hplain,
        fun _ => ⟨rfl, hid, hname⟩⟩, (State.typed_ofText v).overlaid hbody.toTypedVpc hread, _,
        written, hx.records_eq⟩
  | matching h hs hm =>
    obtain ⟨body, written, rfl, hread, hu⟩ := h.of_blank
    obtain ⟨hfirst, hmore⟩ := allAnswered_append.1 hall
    obtain ⟨-, -, hname, hid⟩ := State.kept_of_overlaid hread
    obtain ⟨-, hhubId, hhubCrn, -⟩ := State.read_of_overlaid hread
    have hd := (State.isDelegated_iff hread).1 hs
    cases hfirst.head with
    | shown hbody =>
      have htyped := (State.typed_ofText v).overlaid hbody.toTypedVpc hread
      obtain ⟨t, bindings, again, rfl, htakes, hl, hx⟩ :=
        hm.recorded_first (hw.of_leads hu) htyped hid hname hmore fun b hb =>
          ht b (hb.mono (List.subset_append_right _ _))
      have hadoption : Adoption v body _ t :=
        ⟨⟨_, hread, htakes.kept⟩, fun _ => ⟨bindings, _, _, hl, hhubId, hhubCrn, htakes.first⟩,
          fun hplain => absurd hd hplain⟩
      exact ⟨body, _, t, rfl, rfl, hadoption, htakes.typed, _, again, hx.records_eq⟩

/-- A deletion of a VPC with a binding starts with this binding. -/
theorem Attempted.removes_first {before after : Keyed (Keyed Json)} {answer : Except Failure Json}
    (h : Attempted v p before answer calls after) (hgiven : p.bindingId.isGiven = true) :
    ∃ reply more, calls = (.deleteBinding (.str v) p.bindingId, reply) :: more := by
  have hplan : p.teardown v = [.deleteBinding (.str v) p.bindingId, resetCall v] := by
    rw [State.teardown, removalOf, if_pos hgiven]
    rfl
  cases calls with
  | nil =>
    have hnone := h.completed (List.forall_mem_nil _)
    rw [hplan] at hnone
    cases hnone
  | cons e more =>
    obtain ⟨hfirst, -⟩ := List.cons_prefix_cons.1 (hplan ▸ h.planned)
    exact ⟨e.2, more, by rw [← hfirst]⟩

/-- **An adoption takes the first binding that leads to the other VPC**, and a
deletion removes it first. The adoption of a VPC whose calls are all answered
well returns what it adopts and records it: the VPC as it is shown, and if it
delegates the first binding over all pages that leads to where it delegates,
by identifier or by CRN. As long as the record stays, a deletion starts with
the call that removes this binding. -/
theorem adoption_takes_first_match (hw : Recordable w)
    (hall : AllAnswered (adopt (.str v) w).calls)
    (htargets : ∀ b, Shown (adopt (.str v) w).calls b → Targeted b) :
    ∃ body listing s, (adopt (.str v) w).result = .ok s ∧
      (adopt (.str v) w).calls = (.getVpc (.str v), .ok body) :: listing ∧
      Adoption v body listing s ∧
      (∃ written, (adopt (.str v) w).world.store.records.get? (keyOf v) =
        some (Memory.record .dnsConfig (.str v) s.attributes written)) ∧
      (∃ q, Loads (adopt (.str v) w).world.store.records v q ∧ q.bindingId = s.bindingId ∧
        q.bindingName = s.bindingName) ∧
      ∀ b, b ≠ "" → s.bindingId = .str b → ∀ later : World, later.store.faults = [] →
        later.store.records.get? (keyOf v) =
          (adopt (.str v) w).world.store.records.get? (keyOf v) →
        ∃ reply more, ((deletionOf v).run later).calls =
          (.deleteBinding (.str v) (.str b), reply) :: more := by
  obtain ⟨body, listing, s, hresult, hcalls, hadoption, htyped, records, written, hrecords⟩ :=
    (adopts v w).answered hw hall htargets
  have hrecord : (adopt (.str v) w).world.store.records.get? (keyOf v) =
      some (Memory.record .dnsConfig (.str v) s.attributes written) := by
    rw [hrecords, Keyed.get?_insert, if_pos rfl]
  have hloads : ∃ q, Loads (adopt (.str v) w).world.store.records v q ∧
      q.bindingId = s.bindingId ∧ q.bindingName = s.bindingName := by
    rw [hrecords]
    exact loads_of_recorded htyped
  obtain ⟨q, hq, hid, hname⟩ := hloads
  refine ⟨body, listing, s, hresult, hcalls, hadoption, ⟨written, hrecord⟩, ⟨q, hq, hid, hname⟩,
    fun b hb hsb later hfaults hsame => ?_⟩
  obtain ⟨record, hfound, hread⟩ := hq
  have hqb : q.bindingId = .str b := hid.trans hsb
  have hlater : Loads later.store.records v q := ⟨record, hsame.trans hfound, hread⟩
  have hremoved := (attempted hlater hfaults).removes_first (hqb ▸ (Json.isGiven_str b).2 hb)
  rwa [hqb] at hremoved

/-- A binding as the service lists it, with the VPC that it leads to. -/
def listedBinding (id name hub : String) : Json :=
  .obj [("id", .str id), ("name", .str name), ("vpc", .obj [("id", .str hub)])]

theorem listedBinding_wellTyped (id name hub : String) :
    WellTypedBinding (listedBinding id name hub) where
  id _ hj := by cases hj; exact ⟨some id, rfl⟩
  name _ hj := by cases hj; exact ⟨some name, rfl⟩
  object := ⟨_, rfl⟩

/-- A page of bindings that is not the last one. -/
def firstPage : Json :=
  .obj [("dns_resolution_bindings", .arr [listedBinding "b-1" "to-hub" "hub-1"]),
    ("next", .obj [("href", .str "https://service/bindings?limit=50&start=next")])]

/-- The page after it. -/
def lastPage : Json :=
  bindingsPage [listedBinding "b-2" "to-hub-2" "hub-2", listedBinding "b-3" "again" "hub-2"]

/-- A VPC delegates through the second of its bindings. -/
def adoptingWorld : World := calm [] [.ok movedVpc, .ok firstPage, .ok lastPage]

/-- What its adoption comes to. -/
abbrev adoption : Outcome State := adopt (.str "vpc-1") adoptingWorld

theorem adoption_calls :
    adoption.calls = [(.getVpc (.str "vpc-1"), .ok movedVpc),
      (.list (bindingsOf "vpc-1") none (.int 50), .ok firstPage),
      (.list (bindingsOf "vpc-1") (some "next") (.int 50), .ok lastPage)] := rfl

theorem adoption_allAnswered : AllAnswered adoption.calls := by
  rw [adoption_calls]
  simp only [AllAnswered, List.forall_mem_cons]
  refine ⟨.shown movedVpc_wellTyped, .listed rfl ?_, .listed rfl ?_, List.forall_mem_nil _⟩
  · simp [listedBinding_wellTyped]
  · simp [listedBinding_wellTyped]

theorem adoption_targeted : ∀ b, Shown adoption.calls b → Targeted b := by
  intro b hb
  rw [adoption_calls] at hb
  have listed : ∀ id name hub, Targeted (listedBinding id name hub) :=
    fun _ _ hub => ⟨.str hub, rfl⟩
  cases hb with
  | created h => simp at h
  | listed h hitems hmem =>
    simp only [List.mem_cons, Prod.mk.injEq, reduceCtorEq, false_and, false_or, Reply.ok.injEq,
      List.not_mem_nil, or_false] at h
    rcases h with ⟨-, rfl⟩ | ⟨-, rfl⟩
    · cases hitems
      cases List.mem_singleton.1 hmem
      exact listed _ _ _
    · cases hitems
      rcases List.mem_cons.1 hmem with rfl | hmem
      · exact listed _ _ _
      · cases List.mem_singleton.1 hmem
        exact listed _ _ _

/-- What is adopted: the VPC as it is shown, and the binding from the second
page. -/
def adoptedHub : State :=
  { State.ofText "vpc-1" with
    resolverType := .str "delegated"
    resolverVpcId := .str "hub-2"
    bindingId := .str "b-2"
    bindingName := .str "to-hub-2" }

/-- The binding is found on the second page, and the deletion starts with
it. -/
theorem adoption_takes_first_match_second :
    Recordable adoptingWorld ∧ AllAnswered adoption.calls ∧
      (∀ b, Shown adoption.calls b → Targeted b) ∧
      adoption.result = .ok adoptedHub ∧
      ∃ reply more, ((deletionOf "vpc-1").run adoption.world).calls =
        (.deleteBinding (.str "vpc-1") (.str "b-2"), reply) :: more := by
  have hw : Recordable adoptingWorld := ⟨rfl, _, rfl⟩
  have hresult : adoption.result = .ok adoptedHub := rfl
  obtain ⟨body, listing, s, hs, -, -, -, -, removed⟩ :=
    adoption_takes_first_match hw adoption_allAnswered adoption_targeted
  cases hresult.symm.trans hs
  exact ⟨hw, adoption_allAnswered, adoption_targeted, hresult,
    removed "b-2" (by decide) rfl adoption.world rfl rfl⟩

/-! ## Adoptions that fail -/

/-- **What an adoption that fails does to the records**, given the calls that
it made. -/
structure FailedAdoption (v : String) (before : Keyed (Keyed Json)) (f : Failure)
    (calls : List Exchange) (after : Keyed (Keyed Json)) : Prop where
  /-- Until the bindings are listed nothing changes, but for the record of a
  VPC that is missing. -/
  unlisted : (∀ e ∈ calls, ¬ e.1.Lists (bindingsOf v)) →
    after = before ∧ f.isGone = false ∨
      ReportedMissing calls v ∧ f = .gone .dnsConfig (.str v) ∧ after = before.erase (keyOf v)
  /-- From then on there is a new record, of what the VPC shows and without a
  binding. -/
  listed : (∃ e ∈ calls, e.1.Lists (bindingsOf v)) →
    ∃ body s written, (Call.getVpc (.str v), Reply.ok body) ∈ calls ∧
      (State.ofText v).overlaid body = .ok s ∧ s.isDelegated = true ∧
      after = before.insert (keyOf v) (Memory.record .dnsConfig (.str v) s.attributes written) ∧
      recordedBinding? after v = some .null

/-- A search that fails has listed the bindings, and records nothing. -/
theorem Matched.of_error (h : Matched v s w (.error f) calls x) :
    (∃ e ∈ calls, e.1.Lists (bindingsOf v)) ∧ x.store.records = w.store.records := by
  have listed : ∀ {r}, Walked (bindingsOf v) none r calls →
      ∃ e ∈ calls, e.1.Lists (bindingsOf v) := fun hl => by
    obtain ⟨e, he⟩ := List.exists_mem_of_ne_nil calls hl.ne_nil
    exact ⟨e, he, hl.lists e he⟩
  cases h with
  | unlisted hl hx | unmatched hl _ hx | unrecorded hl _ _ hx => exact ⟨listed hl, hx.records_eq⟩

theorem Adopts.failed (h : Adopts v w (.error f) calls x) :
    FailedAdoption v w.store.records f calls x.store.records := by
  cases h with
  | unread h =>
    obtain ⟨⟨reply, rfl⟩, hrecords⟩ := h.of_blank_failed
    refine ⟨fun _ => hrecords, ?_⟩
    rintro ⟨e, he, start, limit, hlists⟩
    cases List.mem_singleton.1 he
    cases hlists
  | matching h hs hm =>
    obtain ⟨body, written, rfl, hread, hu⟩ := h.of_blank
    obtain ⟨⟨e, he, hlists⟩, hx⟩ := hm.of_error
    refine ⟨fun hnone => absurd hlists (hnone e (List.mem_append_right _ he)), fun _ => ?_⟩
    have hafter := hx.trans hu.records_eq
    refine ⟨body, _, written, List.mem_append_left _ List.mem_cons_self, hread, hs, hafter, ?_⟩
    rw [hafter, recordedBinding?_insert, if_pos rfl, (State.kept_of_overlaid hread).2.2.2]
    rfl

/-- **An adoption that fails is undone exactly up to the listing of the
bindings**: if it fails before, the records are as they were, or without that
of a VPC that is missing; if it fails later, the record of the VPC has been
replaced by one that names no binding. -/
theorem failed_adoption_records (h : (adopt (.str v) w).result = .error f) :
    FailedAdoption v w.store.records f (adopt (.str v) w).calls
      (adopt (.str v) w).world.store.records := by
  have hadopts := adopts v w
  rw [h] at hadopts
  exact hadopts.failed

/-- A VPC with a recorded binding is adopted again, and its bindings are not
listed. -/
def unlistedWorld : World := spokeWorld [.ok spokeVpc, failing]

/-- What this comes to. -/
abbrev unlistedAdoption : Outcome State := adopt (.str "vpc-1") unlistedWorld

theorem unlistedAdoption_calls :
    unlistedAdoption.calls = [(.getVpc (.str "vpc-1"), .ok spokeVpc),
      (.list (bindingsOf "vpc-1") none (.int 50), failing)] := rfl

theorem failed_adoption_records_unlisted :
    unlistedAdoption.result =
        .error (.refused (bindingsOf "vpc-1").purpose ⟨.int 500, "failed"⟩) ∧
      recordedBinding? unlistedAdoption.world.store.records "vpc-1" = some .null := by
  have hresult : unlistedAdoption.result =
      .error (.refused (bindingsOf "vpc-1").purpose ⟨.int 500, "failed"⟩) := rfl
  obtain ⟨-, -, -, -, -, -, -, hnone⟩ := (failed_adoption_records hresult).listed
    ⟨_, by rw [unlistedAdoption_calls]; exact List.mem_cons_of_mem _ List.mem_cons_self, _, _, rfl⟩
  exact ⟨hresult, hnone⟩

/-- **An adoption that fails can lose a recorded binding**: no VPC is missing,
and still the record is not as it was. -/
theorem failed_adoption_unnames_binding :
    (∃ f, unlistedAdoption.result = .error f) ∧
      ¬ ReportedMissing unlistedAdoption.calls "vpc-1" ∧
      Names unlistedWorld.store.records "vpc-1" "b-1" ∧
      ¬ Names unlistedAdoption.world.store.records "vpc-1" "b-1" ∧
      unlistedAdoption.world.store.records ≠ unlistedWorld.store.records := by
  have hbefore : Names unlistedWorld.store.records "vpc-1" "b-1" := rfl
  have hafter : ¬ Names unlistedAdoption.world.store.records "vpc-1" "b-1" := by
    intro h
    cases h
  refine ⟨⟨_, rfl⟩, ?_, hbefore, hafter, fun hsame => hafter (by rw [hsame]; exact hbefore)⟩
  rintro ⟨refusal, hr, hmem⟩
  rw [unlistedAdoption_calls] at hmem
  simp [failing] at hmem

end Dns

end NetSteward
