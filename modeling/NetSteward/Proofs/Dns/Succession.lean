import NetSteward.Proofs.Dns.Answered
import NetSteward.Proofs.Dns.Scope
/-!
# The binding after a change

A VPC that starts to delegate, or to another VPC, gets a new binding, and one
that stops gives its binding up; any other change keeps the binding, perhaps
under another name. The main result is the full account of a change whose
calls are all answered well: which binding the record names in the end, which
binding was created and which was removed, by how many calls and in which
order. A new binding is there before the VPC is patched, and the one that it
replaces is removed after that; a binding that is given up is removed first.
-/

namespace NetSteward

/-- Only a text has the value of a text. -/
theorem Json.same_str_iff {a : String} {j : Json} : (Json.str a).same j = true ↔ j = .str a := by
  cases j with
  | str b => rw [same_str, str.injEq, eq_comm]
  | null | bool | int | float | arr | obj => exact iff_of_false (by simp [same, number?]) (by simp)

/-- A text that is given is there and not empty. -/
theorem isGiven_eq_true_iff {o : Option String} : isGiven o = true ↔ ∃ s, o = some s ∧ s ≠ "" := by
  cases o <;> simp [isGiven]

namespace Dns

open Remote (Call Exchange Reply)

variable {calls before : List Exchange} {v : String} {j : Json} {w x : World} {c : Changes}
variable {d : Desired} {p s : State} {t : Transition}

/-! ## What a change does -/

/-- **The VPC to delegate to is another one** than the recorded one: by its
identifier or by its CRN, whichever is given. -/
def TargetDiffers (p : State) (d : Desired) : Prop :=
  (∃ id, d.resolverVpcId = some id ∧ id ≠ "" ∧ p.resolverVpcId ≠ .str id) ∨
    ∃ crn, d.resolverVpcCrn = some crn ∧ crn ≠ "" ∧ p.resolverVpcCrn ≠ .str crn

/-- A change that takes a new binding. -/
def NeedsBinding (p : State) (d : Desired) : Prop :=
  d.resolverType = .delegated ∧ (p.isDelegated = false ∨ TargetDiffers p d)

/-- A change by which a VPC stops delegating. -/
def StopsDelegating (p : State) (d : Desired) : Prop :=
  p.isDelegated = true ∧ d.resolverType ≠ .delegated

/-- A change that asks for another name of the binding. -/
def AsksForName (p : State) (d : Desired) (name : String) : Prop :=
  d.bindingName = some name ∧ name ≠ "" ∧ p.bindingName ≠ .str name

/-- A text is compared with a recorded value. -/
theorem differs_iff {name : String} : (!Json.same (.str name) j) = true ↔ j ≠ .str name := by
  rw [Bool.not_eq_true', ← Bool.not_eq_true, Json.same_str_iff]

theorem isRenamed_iff :
    isRenamed d ⟨p.bindingId, p.bindingName⟩ = true ↔
      p.bindingId.isGiven = true ∧ ∃ name, AsksForName p d name := by
  simp only [isRenamed, Bool.and_eq_true, isGiven_eq_true_iff, and_assoc]
  refine and_congr_right fun _ => ⟨?_, ?_⟩
  · rintro ⟨⟨name, hname, hne⟩, hother⟩
    rw [hname] at hother
    exact ⟨name, hname, hne, differs_iff.1 hother⟩
  · rintro ⟨name, hname, hne, hother⟩
    rw [hname]
    exact ⟨⟨name, rfl, hne⟩, differs_iff.2 hother⟩

/-- A valid configuration that delegates names the VPC to delegate to in one
way. -/
theorem Desired.target_cases (hvalid : d.violation? = none) (hd : d.resolverType = .delegated) :
    (∃ id, d.resolverVpcId = some id ∧ id ≠ "" ∧ isGiven d.resolverVpcCrn = false) ∨
      ∃ crn, d.resolverVpcCrn = some crn ∧ crn ≠ "" ∧ isGiven d.resolverVpcId = false := by
  simp only [Desired.violation?, hd] at hvalid
  cases hid : isGiven d.resolverVpcId <;> cases hcrn : isGiven d.resolverVpcCrn <;>
    simp only [hid, hcrn] at hvalid
  · cases hvalid
  · obtain ⟨crn, hcrn, hne⟩ := isGiven_eq_true_iff.1 hcrn
    exact .inr ⟨crn, hcrn, hne, rfl⟩
  · obtain ⟨id, hid, hne⟩ := isGiven_eq_true_iff.1 hid
    exact .inl ⟨id, hid, hne, rfl⟩
  · cases hvalid

theorem targetChanged_iff (hvalid : d.violation? = none) (hd : d.resolverType = .delegated) :
    targetChanged p d = true ↔ TargetDiffers p d := by
  rw [targetChanged]
  rcases Desired.target_cases hvalid hd with ⟨id, hid, hne, hcrn⟩ | ⟨crn, hcrn, hne, hid⟩
  · rw [if_pos (isGiven_eq_true_iff.2 ⟨id, hid, hne⟩), hid]
    refine differs_iff.trans ⟨fun h => .inl ⟨id, hid, hne, h⟩, ?_⟩
    rintro (⟨other, hother, -, h⟩ | ⟨crn, hother, hgiven, -⟩)
    · cases hid.symm.trans hother
      exact h
    · rw [isGiven_eq_true_iff.2 ⟨crn, hother, hgiven⟩] at hcrn
      cases hcrn
  · rw [hid, if_neg Bool.false_ne_true, hcrn]
    refine differs_iff.trans ⟨fun h => .inr ⟨crn, hcrn, hne, h⟩, ?_⟩
    rintro (⟨id, hother, hgiven, -⟩ | ⟨other, hother, -, h⟩)
    · rw [isGiven_eq_true_iff.2 ⟨id, hother, hgiven⟩] at hid
      cases hid
    · cases hcrn.symm.trans hother
      exact h

/-- A change to a delegated resolver is one of type if the VPC does not
delegate. -/
theorem typeChanged_of_delegated (hd : d.resolverType = .delegated) :
    typeChanged p d = true ↔ p.isDelegated = false := by
  rw [typeChanged, hd, State.isDelegated, Bool.not_eq_true']

theorem enters_iff (hvalid : d.violation? = none) (hd : d.resolverType = .delegated) :
    enters p d = true ↔ NeedsBinding p d := by
  rw [enters, Bool.or_eq_true, typeChanged_of_delegated hd, targetChanged_iff hvalid hd]
  exact (and_iff_right hd).symm

theorem leaves_iff : leaves p d = true ↔ StopsDelegating p d := by
  constructor
  · exact fun h => ⟨(Bool.and_eq_true_iff.1 h).2, ne_delegated_of_leaves h⟩
  · rintro ⟨hp, hd⟩
    refine Bool.and_eq_true_iff.2 ⟨?_, hp⟩
    rw [typeChanged, (Json.isStr_iff _ _).1 hp]
    cases htype : d.resolverType with
    | system | manual => rfl
    | delegated => exact absurd htype hd

theorem NeedsBinding.not_stopsDelegating (h : NeedsBinding p d) : ¬ StopsDelegating p d :=
  fun hstops => hstops.2 h.1

/-- **The three ways to prepare a change**, each with the calls that are made
for it before the VPC is patched. -/
inductive Succession (v : String) (p : State) (d : Desired) (before : List Exchange) :
    Transition → Prop
  | entered {b : NewBinding} (h : NeedsBinding p d) (hb : Bound d (.ok b) before)
      (hd : d.vpcId = v) : Succession v p d before ⟨b.id, b.name, b.id, p.bindingId⟩
  | left (h : StopsDelegating p d) (hcalls : GivenUp (.str v) p.bindingId (.ok ()) before) :
      Succession v p d before ⟨.null, .null, .null, .null⟩
  | kept (hn : ¬ NeedsBinding p d) (hs : ¬ StopsDelegating p d) {name : Json}
      (hcalls : before = [] ∨ ∃ reply, before = [(d.renamingCall p.bindingId, reply)] ∧
        d.resolverType = .delegated ∧ p.bindingId.isGiven = true ∧ ∃ name, AsksForName p d name) :
      Succession v p d before ⟨p.bindingId, name, .null, .null⟩

theorem Prepared.succession (h : Prepared p d (.ok t) before) (hs : Started v c w d p) :
    Succession v p d before t := by
  have hv : d.vpcId = v := hs.vpcId_eq
  have unentered : d.resolverType = .delegated → enters p d = false → ¬ NeedsBinding p d :=
    fun hd he hn => by rw [(enters_iff hs.valid hd).2 hn] at he; cases he
  cases h with
  | left h hcalls => exact .left (leaves_iff.1 h) (hv ▸ hcalls)
  | kept h hd =>
    refine .kept (fun hn => unentered hn.1 (hd hn.1).1 hn) (fun hstops => ?_) (.inl rfl)
    rw [leaves_iff.2 hstops] at h
    cases h
  | entered hd h hb => exact .entered ((enters_iff hs.valid hd).1 h) hb hv
  | renamed hd he h =>
    obtain ⟨hgiven, hname⟩ := isRenamed_iff.1 h
    exact .kept (unentered hd he) (fun hstops => hstops.2 hd)
      (.inr ⟨_, rfl, hd, hgiven, hname⟩)

/-! ## What is recorded -/

/-- The name that is looked up is typed. -/
theorem Named.typed (h : Named p (.ok s) calls) (hall : AllAnswered calls) (hp : p.Typed) :
    s.Typed := by
  rcases h.eq_or_showing (List.Subset.refl calls) with rfl | ⟨-, body, name, hshown, hname, rfl⟩
  · exact hp
  · exact { hp with name := (hall.typedReplies.binding body hshown).name name hname }

/-- Without a binding the name stays as it is. -/
theorem Named.bindingName_eq (h : Named p (.ok s) calls) (hp : p.bindingId = .null) :
    s.bindingName = p.bindingName := by
  rcases h.eq_or_showing (List.Subset.refl calls) with rfl | ⟨hbinding, -⟩
  · rfl
  · rw [State.hasBinding, hp] at hbinding
    cases hbinding

/-- A typed state that is recorded loads, with its binding and its name. -/
theorem loads_of_recorded {records : Keyed (Keyed Json)} {written : Time.Instant} (hs : s.Typed) :
    ∃ q, Loads (records.insert (keyOf v) (Memory.record .dnsConfig (.str v) s.attributes written))
      v q ∧ q.bindingId = s.bindingId ∧ q.bindingName = s.bindingName := by
  obtain ⟨n, hn⟩ := hs.settled.count
  refine ⟨{ s.settled with bindingCount := .int n }, ⟨_, by rw [Keyed.get?_insert, if_pos rfl], ?_⟩,
    ?_, ?_⟩
  · exact checked_eq_ok_iff.2 (State.check_toJson_eq_ok_iff.2 ⟨hs.settled, n, hn, rfl⟩)
  · obtain ⟨id, hid⟩ := hs.binding
    simp [State.settled, hid]
  · obtain ⟨name, hname⟩ := hs.name
    simp [State.settled, hname]

/-- **A change that returns leaves a record that loads**, with the binding that
was gone on with, and without a name if there is none. -/
theorem Settled.loads (h : Settled v p w (.ok s) calls x) (hv : p.vpcId = v) (hp : p.Typed)
    (hall : AllAnswered calls) :
    ∃ q, Loads x.store.records v q ∧ q.bindingId = p.bindingId ∧
      (p.bindingId = .null → q.bindingName = p.bindingName) ∧
      s.bindingId = q.bindingId ∧ s.bindingName = q.bindingName := by
  subst hv
  cases h with
  | recorded _ h =>
    cases h with
    | shown hread hs hx =>
      obtain ⟨hbody, hcalls⟩ := List.forall_mem_cons.1 hall
      obtain ⟨-, hvpc, hname, hid⟩ := State.kept_of_overlaid hread
      obtain ⟨hsvpc, hsid⟩ := hs.kept
      cases hbody with
      | shown hbody =>
        have htyped := hs.typed hcalls (hp.overlaid hbody.toTypedVpc hread)
        obtain ⟨q, hq, hqid, hqname⟩ := loads_of_recorded htyped
        rw [← hx.records_eq, hsvpc, hvpc] at hq
        refine ⟨q, hq, hqid.trans (hsid.trans hid), fun hnull => ?_, hqid.symm, hqname.symm⟩
        rw [hqname, hs.bindingName_eq (hid.trans hnull), hname]

/-! ## The account of a change -/

/-- **The account of a change**, from the state that was recorded to the one
that is recorded in the end. -/
structure Accounts (v : String) (p : State) (d : Desired) (calls : List Exchange) (q : State) :
    Prop where
  entered : NeedsBinding p d → BindingCreated calls v q.bindingId ∧ times .binds calls = 1
  unentered : ¬ NeedsBinding p d → times .binds calls = 0
  left : StopsDelegating p d → q.bindingId = .null ∧ q.bindingName = .null
  kept : ¬ NeedsBinding p d → ¬ StopsDelegating p d → q.bindingId = p.bindingId
  removed : p.bindingId.isGiven = true → q.bindingId ≠ p.bindingId →
    RemovalSent calls v p.bindingId ∧ times .removes calls = 1
  spared : p.bindingId.isGiven = false ∨ q.bindingId = p.bindingId → times .removes calls = 0
  /-- A binding that is replaced stays until the VPC is patched. -/
  removed_last : NeedsBinding p d → p.bindingId.isGiven = true →
    [d.bindingCall, d.patchCall, .deleteBinding (.str v) p.bindingId] <+: calls.map Prod.fst
  /-- A binding that is given up is gone before the VPC is patched. -/
  removed_first : StopsDelegating p d → p.bindingId.isGiven = true →
    [.deleteBinding (.str v) p.bindingId, d.patchCall] <+: calls.map Prod.fst
  renamed : ∀ vpcId id patch reply, (Call.patchBinding vpcId id patch, reply) ∈ calls →
    id = p.bindingId ∧ q.bindingId = p.bindingId ∧ p.bindingId.isGiven = true ∧
      d.resolverType = .delegated ∧ ∃ name, AsksForName p d name

/-- Where there is none, nothing is given up. -/
theorem GivenUp.eq_nil {result : Except Failure Unit} (h : GivenUp (.str v) .null result calls) :
    calls = [] := by
  rcases h.calls_eq with ⟨-, rfl⟩ | ⟨hgiven, -⟩
  · rfl
  · cases hgiven

section Account

variable {q : State} {body : Json} {after more : List Exchange}

/-- How often a deed is done in a change whose patch is answered. -/
theorem times_of_change {a : Deed} (hmore : ∀ e ∈ more, IsReading v e.1) :
    times a (before ++ [(d.patchCall, .ok body)] ++ after ++ more) =
      times a before + times a after + if a = .patches then 1 else 0 := by
  have happlied : Applied d .null (.ok ()) [(d.patchCall, .ok body)] := .answered
  simp only [times_append, times_of_isReading hmore, happlied.times_of_ok]
  omega

/-- Nothing is sent to give up no binding. -/
theorem givenUp_null (v : String) : GivenUp (.str v) .null (.ok ()) [] := .spared rfl

/-- A renaming is sent before the VPC is patched. -/
theorem mem_of_renaming {vpcId id patch : Json} {reply : Reply}
    (hr : GivenUp (.str v) j (.ok ()) after) (hmore : ∀ e ∈ more, IsReading v e.1)
    (h : (Call.patchBinding vpcId id patch, reply) ∈
      before ++ [(d.patchCall, .ok body)] ++ after ++ more) :
    (Call.patchBinding vpcId id patch, reply) ∈ before := by
  simp only [List.mem_append, or_assoc] at h
  rcases h with h | h | h | h
  · exact h
  · cases List.mem_singleton.1 h
  · rcases hr.calls_eq with ⟨-, rfl⟩ | ⟨-, answer, rfl⟩
    · cases h
    · cases List.mem_singleton.1 h
  · rcases hmore _ h with heq | ⟨start, limit, heq⟩ <;> cases heq

/-- The account of a change to a new binding. -/
theorem accounts_of_entered {b : NewBinding} (h : NeedsBinding p d) (hv : d.vpcId = v)
    (hb : Bound d (.ok b) before) (hr : GivenUp (.str v) p.bindingId (.ok ()) after)
    (hmore : ∀ e ∈ more, IsReading v e.1) (hne : b.id ≠ p.bindingId) (hq : q.bindingId = b.id) :
    Accounts v p d (before ++ [(d.patchCall, .ok body)] ++ after ++ more) q where
  entered _ := by
    refine ⟨?_, ?_⟩
    · simp only [bindingCreated_append, or_assoc]
      exact .inl (hv ▸ hq ▸ hb.bindingCreated)
    · rw [times_of_change hmore, hb.times_eq, hr.times_eq]
      rfl
  unentered hn := absurd h hn
  left hs := absurd hs h.not_stopsDelegating
  kept hn := absurd h hn
  removed hgiven _ := by
    refine ⟨?_, ?_⟩
    · simp only [removalSent_append]
      exact .inl (.inr (hr.removalSent hgiven))
    · rw [times_of_change hmore, hb.times_eq, hr.times_eq]
      simp [hgiven]
  spared hspared := by
    rcases hspared with hgiven | hsame
    · rw [times_of_change hmore, hb.times_eq, hr.times_eq, hgiven]
      rfl
    · exact absurd (hq.symm.trans hsame) hne
  removed_last _ hgiven := by
    obtain ⟨reply, rfl⟩ := hb.calls_eq
    rw [List.map_append, List.map_append, hr.map_fst, removalOf, if_pos hgiven]
    exact List.prefix_append _ _
  removed_first hs := absurd hs h.not_stopsDelegating
  renamed vpcId id patch reply hmem := by
    obtain ⟨answer, rfl⟩ := hb.calls_eq
    cases List.mem_singleton.1 (mem_of_renaming hr hmore hmem)

/-- The account of a change by which a VPC stops delegating. -/
theorem accounts_of_left (h : StopsDelegating p d)
    (hcalls : GivenUp (.str v) p.bindingId (.ok ()) before) (hmore : ∀ e ∈ more, IsReading v e.1)
    (hq : q.bindingId = .null) (hname : q.bindingName = .null) :
    Accounts v p d (before ++ [(d.patchCall, .ok body)] ++ [] ++ more) q where
  entered hn := absurd h hn.not_stopsDelegating
  unentered _ := by
    rw [times_of_change hmore, hcalls.times_eq]
    rfl
  left _ := ⟨hq, hname⟩
  kept _ hs := absurd h hs
  removed hgiven _ := by
    refine ⟨?_, ?_⟩
    · simp only [removalSent_append]
      exact .inl (.inl (.inl (hcalls.removalSent hgiven)))
    · rw [times_of_change hmore, hcalls.times_eq]
      simp [hgiven]
  spared hspared := by
    have hgiven : p.bindingId.isGiven = false := by
      rcases hspared with hgiven | hsame
      · exact hgiven
      · rw [← hsame, hq]
        rfl
    rw [times_of_change hmore, hcalls.times_eq, hgiven]
    rfl
  removed_last hn := absurd h hn.not_stopsDelegating
  removed_first _ hgiven := by
    rw [List.append_nil, List.map_append, List.map_append, hcalls.map_fst, removalOf,
      if_pos hgiven]
    exact List.prefix_append _ _
  renamed vpcId id patch reply hmem := by
    have hmem := mem_of_renaming (givenUp_null v) hmore hmem
    rcases hcalls.calls_eq with ⟨-, rfl⟩ | ⟨-, answer, rfl⟩
    · cases hmem
    · cases List.mem_singleton.1 hmem

/-- The account of a change that keeps the binding. -/
theorem accounts_of_kept (hn : ¬ NeedsBinding p d) (hs : ¬ StopsDelegating p d)
    (hcalls : before = [] ∨ ∃ reply, before = [(d.renamingCall p.bindingId, reply)] ∧
      d.resolverType = .delegated ∧ p.bindingId.isGiven = true ∧ ∃ name, AsksForName p d name)
    (hmore : ∀ e ∈ more, IsReading v e.1) (hq : q.bindingId = p.bindingId) :
    Accounts v p d (before ++ [(d.patchCall, .ok body)] ++ [] ++ more) q := by
  have hbefore : ∀ a, times a before = 0 := by
    intro a
    rcases hcalls with rfl | ⟨reply, rfl, -⟩
    · rfl
    · cases a <;> rfl
  refine ⟨fun h => absurd h hn, fun _ => ?_, fun h => absurd h hs, fun _ _ => hq,
    fun _ hne => absurd hq hne, fun _ => ?_, fun h => absurd h hn, fun h => absurd h hs, ?_⟩
  · rw [times_of_change hmore, hbefore]
    rfl
  · rw [times_of_change hmore, hbefore]
    rfl
  · intro vpcId id patch reply hmem
    have hmem := mem_of_renaming (givenUp_null v) hmore hmem
    rcases hcalls with rfl | ⟨answer, rfl, hd, hgiven, hname⟩
    · cases hmem
    · cases List.mem_singleton.1 hmem
      exact ⟨rfl, hq, hgiven, hd, hname⟩

end Account

/-- **Every succession has its account.** -/
theorem Succession.accounts {q : State} {after more : List Exchange}
    (h : Succession v p d before t) (ha : Applied d t.created (.ok ()) calls)
    (hr : GivenUp (.str v) t.replaced (.ok ()) after) (hmore : ∀ e ∈ more, IsReading v e.1)
    (hfresh : ∀ j, BindingCreated before v j → j ≠ p.bindingId) (hq : q.bindingId = t.id)
    (hname : t.id = .null → q.bindingName = t.name) :
    Accounts v p d (before ++ calls ++ after ++ more) q := by
  obtain ⟨body, rfl⟩ := ha.calls_eq
  cases h with
  | entered h hb hd =>
    exact accounts_of_entered h hd hb hr hmore (hfresh _ (hd ▸ hb.bindingCreated)) hq
  | left h hcalls =>
    cases hr.eq_nil
    exact accounts_of_left h hcalls hmore hq (hname rfl)
  | kept hn hs hcalls =>
    cases hr.eq_nil
    exact accounts_of_kept hn hs hcalls hmore hq

/-- **The account of a change that is answered well.** Whenever it returns, the
record loads and names the binding that the account says; and it does return
if the state table has no fault and the clock shows a date. -/
theorem change_accounts_for_binding (hs : Started v c w d p) (hown : p.vpcId = v)
    (hall : AllAnswered (update (.str v) c w).calls)
    (hfresh : ∀ j, BindingCreated (update (.str v) c w).calls v j → j ≠ p.bindingId) :
    (∀ s, (update (.str v) c w).result = .ok s →
      ∃ q, Loads (update (.str v) c w).world.store.records v q ∧
        Accounts v p d (update (.str v) c w).calls q ∧
        s.bindingId = q.bindingId ∧ s.bindingName = q.bindingName) ∧
    (Recordable w → ∃ s, (update (.str v) c w).result = .ok s) := by
  refine ⟨fun s hresult => ?_, fun hw => update_returns hs hw hall⟩
  have hupdated := updated v c w
  rw [hresult] at hupdated
  generalize (update (.str v) c w).calls = calls at hall hfresh hupdated ⊢
  generalize (update (.str v) c w).world = x at hupdated ⊢
  cases hupdated with
  | @applied e q t _ before patched after more u _ hstarted ht ha hr hu h =>
    cases hstarted.admitted.symm.trans hs.admitted
    cases hstarted.loads.unique hs.loads
    obtain ⟨⟨⟨hbefore, -⟩, -⟩, hmore⟩ : ((AllAnswered before ∧ AllAnswered patched) ∧
        AllAnswered after) ∧ AllAnswered more := by
      simpa only [allAnswered_append] using hall
    have hp := hs.loads.typed
    have hchanged : (p.changed c t).Typed := by
      obtain ⟨hid, hname⟩ := ht.typed hbefore hp
      exact hp.changed hid hname
    obtain ⟨q, hq, hid, hname, hsid, hsname⟩ := h.loads hown hchanged hmore
    have hread : ∀ e ∈ more, IsReading v e.1 := hown ▸ h.isReading
    refine ⟨q, hq, ?_, hsid, hsname⟩
    refine (ht.succession hs).accounts ha hr hread (fun j hj => hfresh j ?_) hid hname
    simp only [bindingCreated_append]
    exact .inl (.inl (.inl hj))

/-- What the service answers with when the binding to the other hub is
created. -/
def nextBody : Json := .obj [("id", .str "b-2"), ("name", .str "to-hub-2")]

/-- What is asked for by the change to the other hub. -/
def movingDesired : Desired := ⟨toOtherHub, "vpc-1"⟩

/-- The change to the other hub. -/
abbrev moved : Outcome State := update (.str "vpc-1") toOtherHub moving

theorem moved_calls :
    moved.calls =
      [(movingDesired.bindingCall, .ok nextBody), (movingDesired.patchCall, .ok .null),
        (.deleteBinding (.str "vpc-1") (.str "b-1"), .ok .null),
        (.getVpc (.str "vpc-1"), .ok movedVpc),
        (.list (bindingsOf "vpc-1") none (.int 50), .ok (bindingsPage []))] := rfl

theorem movedVpc_wellTyped : WellTypedVpc movedVpc where
  type _ hj _ := by cases hj; exact ⟨.delegated, rfl⟩
  hubId _ hj := by cases hj; exact ⟨some "hub-2", rfl⟩
  hubCrn _ hj := by cases hj; exact ⟨none, rfl⟩
  count _ hj hgiven := by cases hj; cases hgiven
  object := ⟨_, rfl⟩
  reached path hmem := by
    simp only [vpcPaths, List.mem_cons, List.not_mem_nil, or_false] at hmem
    rcases hmem with rfl | rfl | rfl | rfl | rfl <;> exact ⟨_, rfl⟩
  servers _ hj hgiven := by cases hj; cases hgiven

theorem nextBody_wellTyped : WellTypedBinding nextBody where
  id _ hj := by cases hj; exact ⟨some "b-2", rfl⟩
  name _ hj := by cases hj; exact ⟨some "to-hub-2", rfl⟩
  object := ⟨_, rfl⟩

theorem moved_allAnswered : AllAnswered moved.calls := by
  rw [moved_calls]
  simp only [AllAnswered, List.forall_mem_cons]
  exact ⟨.bound rfl nextBody_wellTyped, .patched, .removed, .shown movedVpc_wellTyped,
    .listed rfl (List.forall_mem_nil _), List.forall_mem_nil _⟩

/-- A VPC that moves to another hub: the binding to it is created, recorded in
place of the old one, and the old one is removed. -/
theorem change_accounts_for_binding_moved :
    Started "vpc-1" toOtherHub moving movingDesired spoke ∧ AllAnswered moved.calls ∧
      (∀ j, BindingCreated moved.calls "vpc-1" j → j ≠ spoke.bindingId) ∧
      NeedsBinding spoke movingDesired ∧
      ∃ s q, moved.result = .ok s ∧ Loads moved.world.store.records "vpc-1" q ∧
        q.bindingId = .str "b-2" ∧ Accounts "vpc-1" spoke movingDesired moved.calls q := by
  have hs : Started "vpc-1" toOtherHub moving movingDesired spoke := ⟨rfl, rfl, _, rfl, rfl⟩
  have hcreated : ∀ j, BindingCreated moved.calls "vpc-1" j → j = .str "b-2" := by
    rintro j ⟨hub, name, body, hmem, hj⟩
    rw [moved_calls] at hmem
    simp [Desired.bindingCall, Desired.patchCall] at hmem
    obtain ⟨-, -, rfl⟩ := hmem
    exact (Except.ok.inj hj).symm
  have hfresh : ∀ j, BindingCreated moved.calls "vpc-1" j → j ≠ spoke.bindingId := by
    intro j hj hold
    exact absurd (Json.str.inj ((hcreated j hj).symm.trans hold)) (by decide)
  have hneeds : NeedsBinding spoke movingDesired :=
    ⟨rfl, .inr (.inl ⟨"hub-2", rfl, by decide, fun h => absurd (Json.str.inj h) (by decide)⟩)⟩
  obtain ⟨account, returns⟩ := change_accounts_for_binding hs rfl moved_allAnswered hfresh
  obtain ⟨s, hresult⟩ := returns ⟨rfl, _, rfl⟩
  obtain ⟨q, hq, haccount, -⟩ := account s hresult
  exact ⟨hs, moved_allAnswered, hfresh, hneeds, s, q, hresult, hq,
    hcreated _ (haccount.entered hneeds).1, haccount⟩

end Dns

end NetSteward
