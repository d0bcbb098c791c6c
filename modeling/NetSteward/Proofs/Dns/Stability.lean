import NetSteward.Proofs.Dns.Observation
/-!
# Reading back is stable

A configuration that is read back keeps its VPC and its binding, and takes
the name of the binding from a listing, if the VPC delegates. The listing
need not be answered: the name then stays as it was. The main result is that
all this settles at once. A state that was read back and can be loaded again
is read back as it is when the calls are answered as before.
-/

namespace NetSteward

/-! ## Listings that are refused -/

namespace Remote.Walked

variable {c : Collection} {start : Option String} {calls : List Exchange}
variable {result : Except Failure (List Json)}

/-- No page of a listing that succeeds was refused. -/
theorem not_refused (h : Walked c start result calls) :
    ∀ items, result = .ok items → ∀ e ∈ calls, ∀ refusal, e.2 ≠ .refused refusal := by
  induction h with
  | unanswered | garbled =>
    intro items hitems
    cases hitems
  | last =>
    intro items _ e he refusal hrefused
    cases List.mem_singleton.1 he
    cases hrefused
  | next _ _ ih =>
    intro items hitems e he refusal hrefused
    obtain ⟨others, hothers, -⟩ := map_eq_ok_iff.1 hitems
    rcases List.mem_cons.1 he with rfl | he
    · cases hrefused
    · exact ih others hothers e he refusal hrefused

/-- A listing that fails as refused had a page refused. -/
theorem exists_refused (h : Walked c start result calls) :
    ∀ purpose refusal, result = .error (.refused purpose refusal) →
      ∃ e ∈ calls, ∃ refusal, e.2 = .refused refusal := by
  induction h with
  | @unanswered start limit reply f hreply =>
    intro purpose refusal hf
    cases hf
    cases reply with
    | refused found => exact ⟨_, List.mem_singleton.2 rfl, found, rfl⟩
    | ok | disconnected => cases hreply
  | garbled | last =>
    intro purpose refusal hf
    cases hf
  | next _ _ ih =>
    intro purpose refusal hf
    obtain ⟨e, he, hrefused⟩ := ih purpose refusal (map_eq_error_iff.1 hf)
    exact ⟨e, List.mem_cons_of_mem _ he, hrefused⟩

end Remote.Walked

namespace Dns

open Remote (Call Exchange Reply Walked listAll)

variable {v : String} {u w : World} {p q shown s : State} {events : List Event}

/-! ## The name that a listing gives -/

/-- **The name of the first of some bindings with an identifier**, null if
there is none. -/
inductive FirstNamed (id : Json) : List Json → Json → Prop
  | found {before after : List Json} {binding found name : Json}
      (hbefore : ∀ other ∈ before, ∃ k, other.find "id" = .ok k ∧ k.same id = false)
      (hid : binding.find "id" = .ok found) (hsame : found.same id = true)
      (hname : binding.find "name" = .ok name) : FirstNamed id (before ++ binding :: after) name
  | absent {bindings : List Json}
      (h : ∀ other ∈ bindings, ∃ k, other.find "id" = .ok k ∧ k.same id = false) :
      FirstNamed id bindings .null

/-- A binding with another identifier is passed over. -/
theorem FirstNamed.cons {id binding k name : Json} {bindings : List Json}
    (h : FirstNamed id bindings name) (hk : binding.find "id" = .ok k)
    (hother : k.same id = false) : FirstNamed id (binding :: bindings) name := by
  cases h with
  | found hbefore hid hsame hname =>
    rw [← List.cons_append]
    exact .found (List.forall_mem_cons.2 ⟨⟨k, hk, hother⟩, hbefore⟩) hid hsame hname
  | absent h => exact .absent (List.forall_mem_cons.2 ⟨⟨k, hk, hother⟩, h⟩)

theorem firstNamed_of_nameOfBinding {id name : Json} {bindings : List Json}
    (h : nameOfBinding id bindings = .ok name) : FirstNamed id bindings name := by
  induction bindings with
  | nil =>
    cases h
    exact .absent (List.forall_mem_nil _)
  | cons binding rest ih =>
    obtain ⟨k, hk, h⟩ := bind_eq_ok_iff.1 h
    cases hsame : k.same id with
    | true =>
      rw [hsame, if_pos rfl] at h
      exact .found (List.forall_mem_nil _) hk hsame h
    | false =>
      rw [hsame, if_neg Bool.false_ne_true] at h
      exact (ih h).cons hk hsame

/-- **What reading back makes of a recorded state**, given the calls that
listed the bindings. -/
structure Projects (v : String) (p s : State) (listing : List Exchange) : Prop where
  id_eq : s.id = p.id
  vpcId_eq : s.vpcId = p.vpcId
  bindingId_eq : s.bindingId = p.bindingId
  lists : ∀ e ∈ listing, e.1.Lists (bindingsOf v)
  listed_iff : listing ≠ [] ↔ s.isDelegated = true ∧ s.hasBinding = true
  /-- The listing was answered: the binding has the name that it is listed
  with, across all pages, if there is one. -/
  named : listing ≠ [] → (∀ e ∈ listing, ∀ refusal, e.2 ≠ .refused refusal) →
    ∃ bindings name, Walked (bindingsOf v) none (.ok bindings) listing ∧
      FirstNamed s.bindingId bindings name ∧
      s.bindingName = if name.isGiven then name else p.bindingName
  /-- There was no listing, or it was refused: the name stays. -/
  kept : (listing = [] ∨ ∃ e ∈ listing, ∃ refusal, e.2 = .refused refusal) →
    s.bindingName = p.bindingName

/-- The name that a state is given, if one is given. -/
theorem State.bindingName_named (name : Json) :
    (s.named name).bindingName = if name.isGiven then name else s.bindingName := by
  unfold named
  split <;> rfl

/-- A state that delegates through a binding is named by a listing, or the
listing is refused. -/
theorem State.named_cases {more : List Event} (hbound : shown.IsBound)
    (h : shown.withBindingName w = ⟨.ok s, more, u⟩) :
    (∃ bindings name, Walked (bindingsOf shown.vpcId) none (.ok bindings)
        (more.filterMap Event.exchange?) ∧ nameOfBinding shown.bindingId bindings = .ok name ∧
        s = shown.named name) ∨
      ∃ purpose refusal, Walked (bindingsOf shown.vpcId) none (.error (.refused purpose refusal))
        (more.filterMap Event.exchange?) ∧ s = shown := by
  rw [withBindingName_of_isBound hbound] at h
  obtain ⟨hresult, hevents, -⟩ := Outcome.mk.inj h
  have hwalked := (Remote.listAll_still (bindingsOf shown.vpcId) w).1
  unfold Outcome.calls at hwalked
  rw [hevents] at hwalked
  obtain ⟨name, hname, hs⟩ := map_eq_ok_iff.1 hresult
  cases hlist : (listAll (bindingsOf shown.vpcId) w).result with
  | ok bindings =>
    rw [hlist] at hwalked hname
    cases hfound : nameOfBinding shown.bindingId bindings with
    | ok found =>
      simp only [listedName, hfound] at hname
      cases hname
      exact .inl ⟨bindings, name, hwalked, hfound, hs.symm⟩
    | error m =>
      simp only [listedName, hfound] at hname
      cases hname
  | error f =>
    rw [hlist] at hwalked hname
    cases f with
    | refused purpose refusal =>
      cases hname
      exact .inr ⟨purpose, refusal, hwalked, hs.symm⟩
    | violation | unlinked | disconnected | gone | unreadable | store => cases hname

/-- **What is observed of a VPC** is a projection of the state. -/
theorem State.projects_of_observed (h : p.observed w = ⟨.ok s, events, u⟩) :
    ∃ body listing, events.filterMap Event.exchange? =
      (.getVpc (.str p.vpcId), .ok body) :: listing ∧ Projects p.vpcId p s listing := by
  obtain ⟨body, read, more, -, hread, hnamed, rfl⟩ := observed_of_ok h
  obtain ⟨hid, hvpc, hname, hbinding⟩ := State.kept_of_overlaid hread
  have hs := withBindingName_eq hnamed
  have hbound_iff : s.isDelegated = true ∧ s.hasBinding = true ↔ read.IsBound := by
    rw [hs]
    exact Iff.rfl
  have hsid : s.id = p.id := by rw [hs, ← hid]
  have hsvpc : s.vpcId = p.vpcId := by rw [hs, ← hvpc]
  have hsbinding : s.bindingId = read.bindingId := by rw [hs]
  refine ⟨body, more.filterMap Event.exchange?, rfl, ?_⟩
  by_cases hbound : read.IsBound
  · have hcases := named_cases hbound hnamed
    rw [hvpc] at hcases
    rcases hcases with ⟨bindings, name, hwalked, hfirst, rfl⟩ | ⟨purpose, refusal, hwalked, rfl⟩
    · refine ⟨hsid, hsvpc, hsbinding.trans hbinding, hwalked.lists,
        iff_of_true hwalked.ne_nil (hbound_iff.2 hbound), fun _ _ => ?_, fun hrefused => ?_⟩
      · rw [hsbinding]
        exact ⟨bindings, name, hwalked, firstNamed_of_nameOfBinding hfirst,
          hname ▸ bindingName_named name⟩
      · rcases hrefused with hnil | ⟨e, he, refusal, hrefusal⟩
        · exact absurd hnil hwalked.ne_nil
        · exact absurd hrefusal (hwalked.not_refused bindings rfl e he refusal)
    · refine ⟨hsid, hsvpc, hsbinding.trans hbinding, hwalked.lists,
        iff_of_true hwalked.ne_nil (hbound_iff.2 hbound), fun _ hanswered => ?_, fun _ => hname⟩
      obtain ⟨e, he, found, hfound⟩ := hwalked.exists_refused purpose refusal rfl
      exact absurd hfound (hanswered e he found)
  · -- There is no binding whose name could be listed.
    rw [withBindingName_of_not_isBound hbound] at hnamed
    cases hnamed
    exact ⟨hid, hvpc, hbinding, List.forall_mem_nil _,
      iff_of_false (fun hne => hne rfl) hbound, fun hne => absurd rfl hne, fun _ => hname⟩

/-! ## Reading a record back -/

/-- **A record that was read back** was retrieved and then observed. -/
theorem read_of_ok (hp : Loads w.store.records v p) (h : (read (.str v) w).result = .ok s) :
    ∃ x events u, w.SameService x ∧ p.observed x = ⟨.ok s, events, u⟩ ∧
      (read (.str v) w).calls = events.filterMap Event.exchange? := by
  obtain ⟨q, before, x, hretrieved, hrefresh, heq⟩ := Action.of_bind_ok h
  have hends : (Memory.retrieveManaged .dnsConfig (.str v) (State.check .data)).Ends [] w
      (fun q _ _ => q = p) fun _ _ _ => True :=
    ends_retrieveManaged (fun q u hq _ => hq.unique hp) fun _ _ _ _ => trivial
  cases hends.of_ok hretrieved
  obtain ⟨hbefore, hservice⟩ := Memory.retrieveManaged_offline.of_ok hretrieved
  obtain ⟨events, u, more, y, hobserved, hremember, hrefreshed⟩ := refresh_of_ok hrefresh
  obtain ⟨hmore, -⟩ := (Memory.remember_offline _).of_ok hremember
  refine ⟨x, events, u, hservice, hobserved, ?_⟩
  change (read (.str v) w).events.filterMap Event.exchange? = _
  rw [show (read (.str v) w) = _ from heq, hrefreshed]
  simp only [Outcome.preceded, List.filterMap_append, hbefore, hmore, List.nil_append,
    List.append_nil]

/-- A record that loads is read back as what is observed, if that can be
loaded again. -/
theorem read_of_observed {calls : List Exchange} (hw : Recordable w)
    (hp : Loads w.store.records v p) (hs : s.settled.Typed)
    (hobserved : ∀ x, w.SameService x → ∃ events u, p.observed x = ⟨.ok s, events, u⟩ ∧
      x.Leads x.store.records u ∧ events.filterMap Event.exchange? = calls) :
    (read (.str v) w).result = .ok s ∧ (read (.str v) w).calls = calls := by
  obtain ⟨before, x, hretrieved, hx⟩ := retrieveManaged_of_loads hw.faultless hp
  obtain ⟨hbefore, hservice⟩ := Memory.retrieveManaged_offline.of_ok hretrieved
  obtain ⟨events, u, hobs, hu, hcalls⟩ := hobserved x hservice
  obtain ⟨more, y, _, hremember, -⟩ := ((hw.of_leads hx).of_leads hu).remembers (v := s.vpcId) hs
  obtain ⟨hmore, -⟩ := (Memory.remember_offline _).of_ok hremember
  have heq : read (.str v) w = _ := Action.bind_of_ok hretrieved refresh
  rw [refresh_of_observed hobs hremember] at heq
  refine ⟨by rw [heq]; rfl, ?_⟩
  rw [heq, Outcome.calls_preceded, hbefore, ← hcalls]
  simp only [Outcome.calls, List.filterMap_append, hmore, List.nil_append, List.append_nil]

/-- What was read back is recorded. -/
theorem recordedAttributes?_of_read (hp : Loads w.store.records v p) (hown : p.vpcId = v)
    (h : (read (.str v) w).result = .ok s) :
    recordedAttributes? (read (.str v) w).world.store.records v = some s.attributes := by
  have hread := readBack v w
  rw [h] at hread
  cases hread with
  | loaded hq hu hrefreshed =>
    cases hq.unique hp
    exact hrefreshed.recordedAttributes?_of_ok hown

/-- What a state is that was loaded from what was recorded. -/
theorem State.eq_of_loaded (hq : State.check .data s.attributes = .ok q) :
    s.settled.Typed ∧ ∃ n, q = { s.settled with bindingCount := .int n } := by
  obtain ⟨htyped, n, -, heq⟩ := State.check_toJson_eq_ok_iff.1 hq
  exact ⟨htyped, n, heq⟩

/-- **A state that is loaded from what was observed observes the same.** -/
theorem State.observed_of_loaded (hp : p.Typed) (h : p.observed w = ⟨.ok s, events, u⟩)
    (hq : State.check .data s.attributes = .ok q) : q.observed w = ⟨.ok s, events, u⟩ := by
  obtain ⟨body, listing, -, hproj⟩ := projects_of_observed h
  obtain ⟨htyped, n, rfl⟩ := eq_of_loaded hq
  have hbinding : s.bindingId.finite = p.bindingId := by
    obtain ⟨o, ho⟩ := hp.binding
    rw [hproj.bindingId_eq, ho]
    exact Json.finite_ofOption o
  have htype : s.resolverType.finite = s.resolverType := by
    obtain ⟨t, ht⟩ := htyped.type
    rw [Json.eq_str_of_finite ht]
    rfl
  refine observed_again h hproj.vpcId_eq (fun hname => ?_) fun body read hread hs => ?_
  · obtain ⟨o, ho⟩ := hp.name
    change s.bindingName.finite = _
    rw [hname, ho]
    exact Json.finite_ofOption o
  · have hhub : s.enableHub = read.enableHub := by rw [hs]
    have hread_type : s.resolverType = read.resolverType := by rw [hs]
    exact overlaid_again hread hproj.id_eq hproj.vpcId_eq hbinding (.inr hhub)
      (.inr (htype.trans hread_type))

/-- **Reading back is a stable projection.** What is read back of a recorded
state projects it, and if what was read back can be loaded again, reading it
back with the same replies makes the same calls, returns the same state and
leaves its attributes as they are. -/
theorem read_stable (hp : Loads w.store.records v p) (hown : p.vpcId = v)
    (h : (read (.str v) w).result = .ok s) :
    (∃ body listing, (read (.str v) w).calls = (.getVpc (.str v), .ok body) :: listing ∧
      Projects v p s listing) ∧
    w.Repeats (read (.str v) w).calls ∧
    ∀ q, State.check .data s.attributes = .ok q → ∀ again : World, Recordable again →
      again.Repeats (read (.str v) w).calls → again.pageLimit = w.pageLimit →
      again.store.records.get? (keyOf v) =
        (read (.str v) w).world.store.records.get? (keyOf v) →
      (read (.str v) again).result = .ok s ∧
        (read (.str v) again).calls = (read (.str v) w).calls ∧
        recordedAttributes? (read (.str v) again).world.store.records v =
          recordedAttributes? again.store.records v := by
  obtain ⟨x, events, u, hx, hobserved, hcalls⟩ := read_of_ok hp h
  refine ⟨?_, ?_, ?_⟩
  · rw [hcalls, ← hown]
    exact State.projects_of_observed hobserved
  · rw [hcalls]
    exact hx.symm.repeats (State.repeats_observed hobserved)
  · intro q hq again hagain hrepeats hlimit hrecord
    have hbefore : recordedAttributes? again.store.records v = some s.attributes := by
      rw [recordedAttributes?, hrecord]
      exact recordedAttributes?_of_read hp hown h
    -- What was recorded is loaded as a state that observes the same.
    have hload := loads_of_attributes hbefore hq
    have hobserved' := State.observed_of_loaded hp.typed hobserved hq
    obtain ⟨htyped, n, hn⟩ := State.eq_of_loaded hq
    rw [hcalls] at hrepeats ⊢
    obtain ⟨hresult, hagain_calls⟩ := read_of_observed hagain hload htyped fun y hy => by
      obtain ⟨events', u', hobs, hevents, hleads⟩ :=
        State.observed_repeats hobserved' (hy.repeats hrepeats)
      have hylimit : y.pageLimit = x.pageLimit :=
        (hy.pageLimit_eq.trans hlimit).trans hx.pageLimit_eq.symm
      exact ⟨events', u', hobs, hleads, by rw [hevents hylimit]⟩
    have hqvpc : q.vpcId = v := by
      obtain ⟨body, listing, -, hproj⟩ := State.projects_of_observed hobserved
      rw [hn]
      exact hproj.vpcId_eq.trans hown
    exact ⟨hresult, hagain_calls, (recordedAttributes?_of_read hload hqvpc hresult).trans hbefore.symm⟩

/-- A page without bindings that is not the last one. -/
def barePage : Json :=
  .obj [("dns_resolution_bindings", .arr []),
    ("next", .obj [("href", .str "https://service/bindings?limit=50&start=next")])]

/-- What the VPC shows, and its bindings on two pages. -/
def showing : List Reply := [.ok spokeVpc, .ok barePage, .ok (bindingsPage [boundBody])]

/-- A VPC whose binding has no name in its record. -/
def namingWorld : World := spokeWorld showing

/-- The same replies, once the VPC was read back. -/
def namedWorld : World := calm startedRecords showing

theorem naming_calls :
    (read (.str "vpc-1") namingWorld).calls = [(.getVpc (.str "vpc-1"), .ok spokeVpc),
      (.list (bindingsOf "vpc-1") none (.int 50), .ok barePage),
      (.list (bindingsOf "vpc-1") (some "next") (.int 50), .ok (bindingsPage [boundBody]))] := rfl

/-- The name is found on the second page, and is then there to stay. -/
theorem read_stable_named :
    Loads namingWorld.store.records "vpc-1" spoke ∧
      (read (.str "vpc-1") namingWorld).result = .ok namedSpoke ∧
      (∃ body listing,
        (read (.str "vpc-1") namingWorld).calls = (.getVpc (.str "vpc-1"), .ok body) :: listing ∧
          Projects "vpc-1" spoke namedSpoke listing) ∧
      (read (.str "vpc-1") namedWorld).result = .ok namedSpoke ∧
      (read (.str "vpc-1") namedWorld).calls = (read (.str "vpc-1") namingWorld).calls := by
  have hp : Loads namingWorld.store.records "vpc-1" spoke := ⟨_, rfl, rfl⟩
  have hresult : (read (.str "vpc-1") namingWorld).result = .ok namedSpoke := rfl
  have hrepeats : namedWorld.Repeats (read (.str "vpc-1") namingWorld).calls := by
    rw [naming_calls]
    exact ⟨rfl, rfl, rfl, trivial⟩
  obtain ⟨hprojects, -, stable⟩ := read_stable hp rfl hresult
  obtain ⟨hagain, hcalls, -⟩ := stable namedSpoke rfl namedWorld ⟨rfl, _, rfl⟩ hrepeats rfl rfl
  exact ⟨hp, hresult, hprojects, hagain, hcalls⟩

end Dns

end NetSteward
