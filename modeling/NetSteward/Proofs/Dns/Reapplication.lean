import NetSteward.Proofs.Dns.Stability
import NetSteward.Proofs.Dns.Succession
import NetSteward.Proofs.Survival
/-!
# Changes that are made again

A change that succeeded leaves what was observed of its VPC in the record. If
that is what the change asks for, there is nothing left to do: made again,
the change finds the binding it needs under the name it asks for. It still
patches the VPC, with the same body, and reads it back. The main result is
that it sends nothing else, and that it comes to the same state if the VPC
is read back with the same replies. A record can be about another VPC than
the one that it is kept for. What was observed is then recorded elsewhere,
and the change that is made again may not find it.
-/

namespace NetSteward

namespace Dns

open Remote (Call Exchange Reply)

variable {calls before after : List Exchange} {v : String} {w x y z : World} {c : Changes}
variable {d : Desired} {p q s : State} {t : Transition} {body : Json} {events : List Event}

/-! ## States that a change is content with -/

/-- **A state that fulfils a change**: it is of the type that is asked for and
leads to the VPC that is asked for, under the name that is asked for. -/
structure State.Fulfils (s : State) (c : Changes) : Prop where
  type : s.resolverType = c.resolverType.toJson
  hubId : c.resolverType = .delegated →
    ∀ id, c.resolverVpcId = some id → id ≠ "" → s.resolverVpcId = .str id
  hubCrn : c.resolverType = .delegated →
    ∀ crn, c.resolverVpcCrn = some crn → crn ≠ "" → s.resolverVpcCrn = .str crn
  name : c.resolverType = .delegated →
    ∀ name, c.bindingName = some name → name ≠ "" → s.bindingName = .str name

/-- The transition that leaves the binding of a state as it is. -/
def State.keeping (p : State) : Transition := ⟨p.bindingId, p.bindingName, .null, .null⟩

namespace State.Fulfils

/-- It delegates if that is asked for, and only then. -/
theorem isDelegated_iff (h : p.Fulfils c) : p.isDelegated = true ↔ c.resolverType = .delegated := by
  rw [isDelegated, h.type, Json.isStr_iff]
  cases c.resolverType <;> simp [ResolverType.toJson, ResolverType.name]

theorem not_needsBinding (h : p.Fulfils c) : ¬ NeedsBinding p ⟨c, v⟩ := by
  rintro ⟨hd, hnone | ⟨id, hid, hne, hother⟩ | ⟨crn, hcrn, hne, hother⟩⟩
  · rw [h.isDelegated_iff.2 hd] at hnone
    cases hnone
  · exact hother (h.hubId hd id hid hne)
  · exact hother (h.hubCrn hd crn hcrn hne)

theorem not_stopsDelegating (h : p.Fulfils c) : ¬ StopsDelegating p ⟨c, v⟩ :=
  fun ⟨hp, hd⟩ => hd (h.isDelegated_iff.1 hp)

theorem not_asksForName (h : p.Fulfils c) (hd : c.resolverType = .delegated) {name : String} :
    ¬ AsksForName p ⟨c, v⟩ name :=
  fun ⟨hname, hne, hother⟩ => hother (h.name hd name hname hne)

/-- **There is nothing to prepare.** -/
theorem prepared (h : p.Fulfils c) (hvalid : Desired.violation? ⟨c, v⟩ = none) :
    leave p ⟨c, v⟩ >>= enter p ⟨c, v⟩ = pure p.keeping := by
  have hleaves : ¬ (typeChanged p ⟨c, v⟩ && p.isDelegated) = true :=
    fun hleaves => h.not_stopsDelegating (leaves_iff.1 hleaves)
  unfold leave
  rw [if_neg hleaves, pure_bind]
  unfold enter
  by_cases hd : c.resolverType = .delegated
  · have henters : ¬ (typeChanged p ⟨c, v⟩ || targetChanged p ⟨c, v⟩) = true :=
      fun henters => h.not_needsBinding ((enters_iff hvalid hd).1 henters)
    have hrenamed : ¬ isRenamed ⟨c, v⟩ ⟨p.bindingId, p.bindingName⟩ = true := by
      intro hrenamed
      obtain ⟨-, name, hname⟩ := isRenamed_iff.1 hrenamed
      exact h.not_asksForName hd hname
    rw [if_pos hd, if_neg henters, if_neg hrenamed]
    rfl
  · rw [if_neg hd]
    rfl

end State.Fulfils

/-! ## States that are loaded again -/

/-- A state that passes its checks is recorded as it is, but for the number of
bindings. -/
theorem State.Typed.settled_but_count (hs : s.Typed) :
    s.settled = { s with bindingCount := s.settled.bindingCount } := by
  obtain ⟨type, htype⟩ := hs.type
  obtain ⟨hubId, hhubId⟩ := hs.hubId
  obtain ⟨hubCrn, hhubCrn⟩ := hs.hubCrn
  obtain ⟨name, hname⟩ := hs.name
  obtain ⟨binding, hbinding⟩ := hs.binding
  unfold State.settled
  rw [htype, hhubId, hhubCrn, hname, hbinding]
  simp only [Json.finite_ofOption]
  rfl

/-- So it is loaded as it is, but for the number of bindings. -/
theorem State.Typed.check_attributes (hs : s.Typed) :
    ∃ count, State.check .data s.attributes = .ok { s with bindingCount := count } := by
  obtain ⟨n, hn⟩ := hs.settled.count
  have hcheck : State.check .data s.attributes = .ok { s.settled with bindingCount := .int n } :=
    State.check_toJson_eq_ok_iff.2 ⟨hs.settled, n, hn, rfl⟩
  refine ⟨.int n, hcheck.trans ?_⟩
  rw [hs.settled_but_count]

/-- The number of bindings is loaded as a number. -/
theorem Loads.count {records : Keyed (Keyed Json)} (h : Loads records v p) :
    ∃ n, p.bindingCount = .int n := by
  obtain ⟨record, members, -, -, hp⟩ := h.attributes_eq
  exact (State.typed_of_check hp).2

/-! ## A change that succeeds -/

/-- What is recorded of a VPC once it was read back: what was read, if that is
of this VPC, and else what was recorded before. -/
theorem Settled.recordedAttributes?_eq (h : Settled v p w (.ok s) calls x) :
    recordedAttributes? x.store.records v =
      some (if s.vpcId = v then s.attributes else p.attributes) := by
  cases h with
  | recorded hu h =>
    cases h with
    | shown hread hs hx =>
      rw [recordedAttributes?, hx.records_eq, Keyed.get?_insert, hu.records_eq]
      by_cases hv : s.vpcId = v
      · rw [if_pos hv, if_pos (congrArg keyOf hv)]
        rfl
      · rw [if_neg hv, if_neg fun hkey => hv (ResourceKind.key_inj.1 hkey)]
        rw [Keyed.get?_insert, if_pos rfl]
        rfl

/-- **What a change that succeeds comes to**: it is prepared, the VPC is
patched, what was replaced is given up, and the VPC is observed. -/
inductive Carried (v : String) (c : Changes) (w : World) : State → List Exchange → World → Prop
  | intro {d : Desired} {p s : State} {t : Transition} {before after : List Exchange} {body : Json}
      {x u z : World} {events : List Event} (hs : Started v c w d p)
      (ht : Prepared p d (.ok t) before) (hr : GivenUp (.str v) t.replaced (.ok ()) after)
      (hobserved : (p.changed c t).observed x = ⟨.ok s, events, u⟩)
      (hz : recordedAttributes? z.store.records v =
        some (if s.vpcId = v then s.attributes else (p.changed c t).attributes)) :
      Carried v c w s
        (before ++ [(d.patchCall, .ok body)] ++ after ++ events.filterMap Event.exchange?) z

theorem carried (h : (update (.str v) c w).result = .ok s) :
    Carried v c w s (update (.str v) c w).calls (update (.str v) c w).world := by
  have hends : (update (.str v) c).Ends [] w (Carried v c w) fun _ _ _ => True := by
    unfold update Desired.demandValid
    refine Action.ends_bind.2 (Action.ends_ofChecked (fun d hd => Action.ends_bind.2 ?_)
      fun _ _ => trivial)
    cases hvalid : d.violation? with
    | some violation => exact Action.ends_fail.2 trivial
    | none =>
      refine Action.ends_pure.2 (Action.ends_bind.2 (ends_retrieveManaged (fun p u hp hu => ?_)
        fun _ _ _ _ => trivial))
      -- Leaving and entering are one step, since what was left is not entered.
      rw [← bind_assoc]
      refine Action.ends_bind.2 ((prepare_still p d).ends (fun t before x ht hx => ?_)
        fun _ _ _ _ _ => trivial)
      refine Action.ends_bind.2 ((applyOrRollBack_still d t.created).ends
        (fun _ calls y ha hy => ?_) fun _ _ _ _ _ => trivial)
      refine Action.ends_bind.2 ((removeGivenQuietly_still (.str v) t.replaced).ends
        (fun _ after z hr hz => ?_) fun _ _ _ _ _ => trivial)
      refine Action.ends_bind.2 (Memory.ends_remember (fun written u hu => ?_)
        fun _ _ _ _ => trivial)
      obtain ⟨body, rfl⟩ := ha.calls_eq
      unfold Action.Ends
      cases hrefresh : (refresh (p.changed c t) u).result with
      | error f => trivial
      | ok s =>
        obtain ⟨events, x', more, y', hobserved, hremember, heq⟩ := refresh_of_ok hrefresh
        -- To record what was observed takes no call to the service.
        obtain ⟨hmore, -⟩ := (Memory.remember_offline _).of_ok hremember
        have hcalls : (refresh (p.changed c t) u).calls = events.filterMap Event.exchange? := by
          rw [heq, Outcome.calls, List.filterMap_append, hmore, List.append_nil]
        have hsettled : Settled v (p.changed c t) z (.ok s) _ _ :=
          .recorded hu (hrefresh ▸ refreshed (p.changed c t) u)
        rw [hcalls]
        exact .intro ⟨hd, hvalid, hp⟩ ht hr hobserved hsettled.recordedAttributes?_eq
  exact hends.of_ok (a := s) (by rw [← h])

/-- Whether a call shows a VPC. -/
def showsVpc : Call → Bool
  | .getVpc _ => true
  | _ => false

/-- **The calls by which a VPC is read back** after a change: all from the one
that shows the VPC on. -/
def readingBack (calls : List Exchange) : List Exchange := calls.dropWhile fun e => !showsVpc e.1

theorem GivenUp.not_showsVpc {result : Except Failure Unit} {k : Json}
    (h : GivenUp (.str v) k result calls) : ∀ e ∈ calls, showsVpc e.1 = false := by
  rcases h.calls_eq with ⟨-, rfl⟩ | ⟨-, reply, rfl⟩
  · exact List.forall_mem_nil _
  · exact List.forall_mem_singleton.2 rfl

theorem Prepared.not_showsVpc {result : Except Failure Transition}
    (h : Prepared p d result calls) : ∀ e ∈ calls, showsVpc e.1 = false := by
  cases h with
  | left _ hcalls | unleft _ hcalls => exact hcalls.not_showsVpc
  | kept => exact List.forall_mem_nil _
  | entered _ _ hb | unentered _ _ hb =>
    obtain ⟨reply, rfl⟩ := hb.calls_eq
    exact List.forall_mem_singleton.2 rfl
  | renamed | unrenamed => exact List.forall_mem_singleton.2 rfl

/-- **The reading of a change that succeeded** is what was observed in the
end. -/
theorem Carried.reading (h : Carried v c w s calls z) :
    ∃ p t x events u, Started v c w ⟨c, v⟩ p ∧
      (p.changed c t).observed x = ⟨.ok s, events, u⟩ ∧
      readingBack calls = events.filterMap Event.exchange? ∧
      recordedAttributes? z.store.records v =
        some (if s.vpcId = v then s.attributes else (p.changed c t).attributes) := by
  cases h with
  | @intro d p _ t before after body x u _ events hs ht hr hobserved hz =>
    cases Desired.eq_of_ofChanges hs.admitted
    refine ⟨p, t, x, events, u, hs, hobserved, ?_, hz⟩
    have hbefore : ∀ e ∈ before ++ [(Desired.patchCall ⟨c, v⟩, .ok body)] ++ after,
        (!showsVpc e.1) = true := by
      intro e he
      rw [Bool.not_eq_true']
      simp only [List.mem_append, List.mem_singleton] at he
      rcases he with (he | rfl) | he
      · exact ht.not_showsVpc e he
      · rfl
      · exact hr.not_showsVpc e he
    obtain ⟨body', listing, hevents, -⟩ := State.projects_of_observed hobserved
    rw [readingBack, List.dropWhile_append_of_pos hbefore, hevents]
    rfl

/-- What a change comes to is recorded for its VPC, if the record that it
started from is about this VPC. -/
theorem recordedAttributes?_of_update (hown : ∀ p, Loads w.store.records v p → p.vpcId = v)
    (h : (update (.str v) c w).result = .ok s) :
    recordedAttributes? (update (.str v) c w).world.store.records v = some s.attributes := by
  obtain ⟨p, t, x, events, u, hs, hobserved, -, hz⟩ := (carried h).reading
  obtain ⟨body, listing, -, hprojects⟩ := State.projects_of_observed hobserved
  have hvpc : s.vpcId = v := hprojects.vpcId_eq.trans (hown p hs.loads)
  rw [hz, if_pos hvpc]

/-- The patch of a change that succeeded was answered. -/
theorem Carried.patched (h : Carried v c w s calls z) :
    ∃ body, (Desired.patchCall ⟨c, v⟩, .ok body) ∈ calls := by
  cases h with
  | @intro _ _ _ _ before after body _ _ _ events hs =>
    cases Desired.eq_of_ofChanges hs.admitted
    refine ⟨body, ?_⟩
    simp

/-- **A change that succeeded** patched the VPC, and that once. -/
theorem patches_of_update (h : (update (.str v) c w).result = .ok s) :
    (∃ body, (Desired.patchCall ⟨c, v⟩, .ok body) ∈ (update (.str v) c w).calls) ∧
      times .patches (update (.str v) c w).calls = 1 := by
  obtain ⟨body, hmem⟩ := (carried h).patched
  have hpos : 0 < times .patches (update (.str v) c w).calls :=
    List.countP_pos_iff.2 ⟨_, hmem, rfl⟩
  exact ⟨⟨body, hmem⟩, Nat.le_antisymm ((updated v c w).once .patches) hpos⟩

/-! ## A change that is made again -/

/-- Where there is nothing to prepare, nothing is prepared. -/
theorem Prepared.of_fulfils {result : Except Failure Transition}
    (h : Prepared p ⟨c, v⟩ result calls) (hp : p.Fulfils c)
    (hvalid : Desired.violation? ⟨c, v⟩ = none) :
    result = .ok p.keeping ∧ calls = [] := by
  cases h with
  | left h | unleft h => exact absurd (leaves_iff.1 h) hp.not_stopsDelegating
  | kept => exact ⟨rfl, rfl⟩
  | entered hd h | unentered hd h =>
    exact absurd ((enters_iff hvalid hd).1 h) hp.not_needsBinding
  | renamed hd _ h | unrenamed hd _ h =>
    obtain ⟨-, name, hname⟩ := isRenamed_iff.1 h
    exact absurd hname (hp.not_asksForName hd)

/-- What is patched without a new binding is only patched. -/
theorem Applied.calls_of_null {result : Except Failure Unit} (h : Applied d .null result calls) :
    ∃ reply, calls = [(d.patchCall, reply)] := by
  cases h with
  | answered | cut => exact ⟨_, rfl⟩
  | refused h | stuck h => exact ⟨_, by rw [h.eq_nil]⟩

/-- **A change that finds itself fulfilled** patches the VPC and reads it back,
and does nothing else. -/
theorem Updated.of_fulfils {result : Except Failure State} (h : Updated v c w result calls x)
    (hs : Started v c w ⟨c, v⟩ p) (hp : p.Fulfils c) :
    calls = [] ∧ w.store.faults ≠ [] ∨
      ∃ reply more, calls = (Desired.patchCall ⟨c, v⟩, reply) :: more ∧
        ∀ e ∈ more, IsReading p.vpcId e.1 := by
  have prepared : ∀ {d q result before}, Started v c w d q → Prepared q d result before →
      d = ⟨c, v⟩ ∧ q = p ∧ result = .ok p.keeping ∧ before = [] := by
    intro d q result before hstarted ht
    cases Desired.eq_of_ofChanges hstarted.admitted
    cases hstarted.loads.unique hs.loads
    exact ⟨rfl, rfl, ht.of_fulfils hp hs.valid⟩
  cases h with
  | unfit hf => cases hs.admitted.symm.trans hf
  | violating hd hf =>
    cases hs.admitted.symm.trans hd
    cases hs.valid.symm.trans hf
  | unloaded _ _ hf => exact .inl ⟨rfl, hf.faults_ne_nil hs.loads⟩
  | unprepared hstarted hf =>
    obtain ⟨-, -, hresult, -⟩ := prepared hstarted hf
    cases hresult
  | unapplied hstarted ht hf =>
    obtain ⟨rfl, rfl, hresult, rfl⟩ := prepared hstarted ht
    cases hresult
    obtain ⟨reply, rfl⟩ := hf.calls_of_null
    exact .inr ⟨reply, [], rfl, List.forall_mem_nil _⟩
  | unreplaced hstarted ht ha hf =>
    obtain ⟨rfl, rfl, hresult, rfl⟩ := prepared hstarted ht
    cases hresult
    cases hf.eq_nil
    obtain ⟨reply, rfl⟩ := ha.calls_of_null
    exact .inr ⟨reply, [], rfl, List.forall_mem_nil _⟩
  | applied hstarted ht ha hr _ hsettled =>
    obtain ⟨rfl, rfl, hresult, rfl⟩ := prepared hstarted ht
    cases hresult
    cases hr.eq_nil
    obtain ⟨reply, rfl⟩ := ha.calls_of_null
    exact .inr ⟨reply, _, rfl, hsettled.isReading⟩

/-- A patch that is answered is all that is sent, whatever was created for
it. -/
theorem applyOrRollBack_of_ok (h : w.nextReply.1 = .ok body) (d : Desired) (created : Json) :
    d.applyOrRollBack created w = ⟨.ok (), [.exchange d.patchCall (.ok body)], w.nextReply.2⟩ := by
  unfold Desired.applyOrRollBack Desired.apply Action.afterRefusal Action.recover
  rw [Action.bind_of_ok (Remote.sendFor_of_ok h patchPurpose _)]
  rfl

/-- **The steps of a change that finds itself fulfilled**: it goes from the
record straight to the patch, and from there to the new record. -/
theorem update_of_fulfils (hs : Started v c w ⟨c, v⟩ p) (hp : p.Fulfils c)
    (hretrieved : Memory.retrieveManaged .dnsConfig (.str v) (State.check .data) w =
      ⟨.ok p, events, y⟩) (hreply : y.nextReply.1 = .ok body) :
    update (.str v) c w = Outcome.preceded
      (events ++ [.exchange (Desired.patchCall ⟨c, v⟩) (.ok body)])
      ((do
        Memory.remember .dnsConfig (.str v) (p.changed c p.keeping).attributes
        refresh (p.changed c p.keeping)) y.nextReply.2) := by
  unfold update Desired.demandValid
  simp only [hs.admitted, Action.ofChecked, checked_ok, Action.ofRead_ok, pure_bind, hs.valid]
  rw [Action.bind_of_ok hretrieved, ← bind_assoc, hp.prepared hs.valid, pure_bind,
    Action.bind_of_ok (applyOrRollBack_of_ok hreply _ _), Outcome.preceded_preceded]
  rfl

/-- **A change that finds itself fulfilled comes to what is observed** after
the patch. -/
theorem result_of_fulfils (hw : Recordable w) (hs : Started v c w ⟨c, v⟩ p) (hp : p.Fulfils c)
    (hreply : w.nextReply.1 = .ok body) (hsettled : s.settled.Typed)
    (hobserved : ∀ x, w.nextReply.2.SameService x →
      ∃ events u, (p.changed c p.keeping).observed x = ⟨.ok s, events, u⟩ ∧
        x.Leads x.store.records u) : (update (.str v) c w).result = .ok s := by
  have htyped : (p.changed c p.keeping).Typed :=
    hs.loads.typed.changed hs.loads.typed.binding hs.loads.typed.name
  obtain ⟨before, y, hretrieved, hy⟩ := retrieveManaged_of_loads hw.faultless hs.loads
  obtain ⟨-, hservice⟩ := Memory.retrieveManaged_offline.of_ok hretrieved
  -- The table is asked in between, but the replies to come stay the same.
  obtain ⟨hnext, hrest⟩ := hservice.nextReply
  have hpatched : Recordable y.nextReply.2 := (hw.of_leads hy).of_leads (Remote.leads_nextReply y)
  obtain ⟨middle, x, written, hremember, hx⟩ := hpatched.remembers (v := v) htyped.settled
  obtain ⟨-, hservice'⟩ := (Memory.remember_offline _).of_ok hremember
  obtain ⟨events, u, hobs, hu⟩ := hobserved x (hrest.trans hservice')
  have hlast : Recordable u := (hpatched.of_leads hx).of_leads hu
  obtain ⟨more, z, _, hremember', -⟩ := hlast.remembers (v := s.vpcId) hsettled
  rw [update_of_fulfils hs hp hretrieved (hnext.trans hreply), Action.bind_of_ok hremember,
    refresh_of_observed hobs hremember']
  rfl

/-- **The change that led to a state is observed to lead there again**, from
the state itself. -/
theorem State.observed_reapplied {count : Json}
    (h : (p.changed c t).observed w = ⟨.ok s, events, x⟩)
    (hq : q = { s with bindingCount := count }) :
    (q.changed c q.keeping).observed w = ⟨.ok s, events, x⟩ := by
  obtain ⟨body, listing, -, hprojects⟩ := projects_of_observed h
  subst hq
  -- The state has the name that was listed, or if there was none the one from before.
  refine observed_again h hprojects.vpcId_eq (fun hname => hname) fun body read hread _ => ?_
  exact overlaid_again hread hprojects.id_eq hprojects.vpcId_eq hprojects.bindingId_eq
    (.inl rfl) (.inl rfl)

/-- **What the change to a state left is what it leaves again**, from the state
that is loaded from it. -/
theorem State.attributes_reapplied {count : Int} (hp : p.bindingCount = .int count)
    (hq : State.check .data (p.changed c t).attributes = .ok q) :
    (q.changed c q.keeping).attributes = (p.changed c t).attributes := by
  obtain ⟨htyped, n, hn, heq⟩ := State.check_toJson_eq_ok_iff.1 hq
  have hcount : (p.changed c t).settled.bindingCount = .int count := by
    simp only [settled, changed, hp]
    rfl
  rw [hcount] at hn
  cases hn
  rw [← hcount] at heq
  have hsame : q.changed c q.keeping = q := by
    subst heq
    simp [changed, keeping, settled, ResolverType.toJson]
  rw [hsame, attributes_of_check hq, heq]
  rfl

/-- A change that finds itself fulfilled leaves its VPC with the binding that is
recorded. -/
theorem Carried.recorded_of_fulfils (h : Carried v c w s calls z) (hs : Started v c w ⟨c, v⟩ p)
    (hp : p.Fulfils c) :
    recordedAttributes? z.store.records v =
      some (if s.vpcId = v then s.attributes else (p.changed c p.keeping).attributes) := by
  cases h with
  | intro hstarted ht _ _ hz =>
    cases Desired.eq_of_ofChanges hstarted.admitted
    cases hstarted.loads.unique hs.loads
    cases (ht.of_fulfils hp hs.valid).1
    exact hz

/-- **A change that idles in a world**, given a state and the calls by which
its VPC was read back: it is a patch and no more, and comes to that state if
the VPC is read back with the same replies. -/
structure Idles (v : String) (c : Changes) (s : State) (reading : List Exchange) (w : World) :
    Prop where
  /-- No binding is created, removed or renamed. -/
  spares : ∀ e ∈ (update (.str v) c w).calls,
    e.1 = Desired.patchCall ⟨c, v⟩ ∨ IsReading s.vpcId e.1
  patches : w.store.faults = [] → times .patches (update (.str v) c w).calls = 1
  settles : ∀ body, Recordable w →
    w.Repeats ((Desired.patchCall ⟨c, v⟩, .ok body) :: reading) →
    (update (.str v) c w).result = .ok s ∧
      recordedAttributes? (update (.str v) c w).world.store.records v = some s.attributes

/-- **A change that is made again idles**, in any world that has the record
which it left, if what it came to is recorded there and fulfils it. -/
theorem update_idles (h : (update (.str v) c w).result = .ok s)
    (hs : State.check .data s.toJson = .ok q) (hfulfils : s.Fulfils c)
    (hleft : recordedAttributes? (update (.str v) c w).world.store.records v =
      some s.attributes) :
    ((∃ body, (Desired.patchCall ⟨c, v⟩, .ok body) ∈ (update (.str v) c w).calls) ∧
      times .patches (update (.str v) c w).calls = 1) ∧
    ∀ again : World, again.store.records.get? (keyOf v) =
        (update (.str v) c w).world.store.records.get? (keyOf v) →
      Idles v c s (readingBack (update (.str v) c w).calls) again := by
  refine ⟨patches_of_update h, fun again hrecord => ?_⟩
  obtain ⟨p, t, x, events, u, hp, hobserved, hreading, hz⟩ := (carried h).reading
  have htyped : s.Typed := (State.check_toJson_eq_ok_iff.1 hs).1
  have hrecorded : recordedAttributes? again.store.records v = some s.attributes := by
    rw [recordedAttributes?, hrecord]
    exact hleft
  -- What is loaded is what was observed, but for the number of bindings.
  obtain ⟨count, hcheck⟩ := htyped.check_attributes
  have hstarted : Started v c again ⟨c, v⟩ { s with bindingCount := count } :=
    ⟨hp.admitted, hp.valid, loads_of_attributes hrecorded hcheck⟩
  have hfulfils' : State.Fulfils { s with bindingCount := count } c :=
    ⟨hfulfils.type, hfulfils.hubId, hfulfils.hubCrn, hfulfils.name⟩
  have hcalls := (updated v c again).of_fulfils hstarted hfulfils'
  refine ⟨fun e he => ?_, fun hfaults => ?_, fun body hw hrepeats => ?_⟩
  · rcases hcalls with ⟨hnil, -⟩ | ⟨reply, more, heq, hmore⟩
    · rw [hnil] at he
      cases he
    · rw [heq] at he
      rcases List.mem_cons.1 he with rfl | he
      · exact .inl rfl
      · exact .inr (hmore e he)
  · rcases hcalls with ⟨-, hfaulty⟩ | ⟨reply, more, heq, hmore⟩
    · exact absurd hfaults hfaulty
    · rw [heq, times_cons, times_of_isReading hmore]
      rfl
  · have hresult : (update (.str v) c again).result = .ok s := by
      refine result_of_fulfils hw hstarted hfulfils' hrepeats.1 htyped.settled fun y hy => ?_
      rw [hreading] at hrepeats
      obtain ⟨events', u', hobs, -, hleads⟩ :=
        State.observed_repeats (State.observed_reapplied hobserved rfl) (hy.repeats hrepeats.2)
      exact ⟨events', u', hobs, hleads⟩
    have hz' := (carried hresult).recorded_of_fulfils hstarted hfulfils'
    refine ⟨hresult, hz'.trans (congrArg some ?_)⟩
    by_cases hv : s.vpcId = v
    · rw [if_pos hv]
    · -- The record is about another VPC, and what was observed of that is recorded elsewhere.
      rw [if_neg hv] at hz ⊢
      have hsame : (p.changed c t).attributes = s.attributes :=
        Option.some.inj (hz.symm.trans hleft)
      obtain ⟨n, hn⟩ := hp.loads.count
      rw [State.attributes_reapplied hn (hsame ▸ hcheck), hsame]

/-- A VPC is to delegate to a hub, through a binding with a name. -/
def toHub : Changes := { delegating.toChanges with bindingName := some "to-hub" }

/-- The VPC shows that it delegates, and lists the binding. -/
def delegation : List Reply := [.ok spokeVpc, .ok (bindingsPage [boundBody])]

/-- A VPC that has the system's resolver. -/
def delegatingWorld : World :=
  calm [(keyOf "vpc-1",
      Memory.record .dnsConfig (.str "vpc-1") (State.ofText "vpc-1").attributes ⟨0, 0⟩)]
    (.ok boundBody :: .ok .null :: delegation)

/-- The first change. -/
abbrev delegated : Outcome State := update (.str "vpc-1") toHub delegatingWorld

/-- The same VPC after the change. -/
def delegatedWorld : World := calm startedRecords (.ok .null :: delegation)

theorem namedSpoke_fulfils : namedSpoke.Fulfils toHub where
  type := rfl
  hubId _ id hid _ := by cases hid; rfl
  hubCrn _ crn hcrn _ := by cases hcrn
  name _ name hname _ := by cases hname; rfl

/-- The first change creates the binding, and the second one keeps it. -/
theorem update_idles_delegated :
    delegated.result = .ok namedSpoke ∧ BindingCreated delegated.calls "vpc-1" (.str "b-1") ∧
      (update (.str "vpc-1") toHub delegatedWorld).result = .ok namedSpoke ∧
      times .patches (update (.str "vpc-1") toHub delegatedWorld).calls = 1 ∧
      ∀ e ∈ (update (.str "vpc-1") toHub delegatedWorld).calls,
        e.1 = Desired.patchCall ⟨toHub, "vpc-1"⟩ ∨ IsReading "vpc-1" e.1 := by
  have hresult : delegated.result = .ok namedSpoke := rfl
  have hcreated : BindingCreated delegated.calls "vpc-1" (.str "b-1") :=
    ⟨_, _, boundBody, List.mem_cons_self, rfl⟩
  have hown : ∀ p, Loads delegatingWorld.store.records "vpc-1" p → p.vpcId = "vpc-1" := by
    intro p hp
    cases hp.unique ⟨_, rfl, rfl⟩
    rfl
  obtain ⟨-, idles⟩ := update_idles hresult (q := namedSpoke) rfl namedSpoke_fulfils
    (recordedAttributes?_of_update hown hresult)
  obtain ⟨hspares, hpatches, hsettles⟩ := idles delegatedWorld rfl
  obtain ⟨hagain, -⟩ := hsettles .null ⟨rfl, _, rfl⟩ ⟨rfl, rfl, rfl, trivial⟩
  exact ⟨hresult, hcreated, hagain, hpatches rfl, hspares⟩

/-- A record of one VPC that is kept for another one, and a binding that is
created without a name. -/
def strayWorld : World :=
  calm [(keyOf "vpc-1",
      Memory.record .dnsConfig (.str "vpc-1") (State.ofText "vpc-2").attributes ⟨0, 0⟩)]
    (.ok (.obj [("id", .str "b-1")]) :: .ok .null :: delegation)

/-- The first change, which reads the other VPC back. -/
abbrev stray : Outcome State := update (.str "vpc-1") toHub strayWorld

/-- What it comes to. -/
def strayState : State := { namedSpoke with id := "vpc-2", vpcId := "vpc-2" }

/-- The same change again. -/
abbrev strayAgain : Outcome State :=
  update (.str "vpc-1") toHub (calm stray.world.store.records (.ok .null :: delegation))

/-- **A change that is made again can send a renaming**, although what it came
to fulfils it: the name was found in the listing of another VPC, and is
recorded there. -/
theorem update_renames_stray :
    stray.result = .ok strayState ∧ State.check .data strayState.toJson = .ok strayState ∧
      strayState.Fulfils toHub ∧ strayState.bindingId = .str "b-1" ∧
      (Desired.renamingCall ⟨toHub, "vpc-1"⟩ (.str "b-1"), .ok .null) ∈ strayAgain.calls :=
  ⟨rfl, rfl, ⟨namedSpoke_fulfils.type, namedSpoke_fulfils.hubId, namedSpoke_fulfils.hubCrn,
    namedSpoke_fulfils.name⟩, rfl, List.mem_cons_self⟩

end Dns

end NetSteward
