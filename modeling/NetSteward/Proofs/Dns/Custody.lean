import NetSteward.Proofs.Dns.Trace
/-!
# Who answers for a binding

The service charges for a binding until it is removed, and nothing but
the record of the VPC tells that it is there. So a binding should never
drop out of the records unless its removal was sent. An operation that
starts from the record keeps to this, however it ends. One that writes
the record anew does not look at the old one, and loses the binding that
it named. And one that fails leaves a binding that it created behind if
nothing could be recorded any more.
-/

namespace NetSteward

namespace Dns

open Remote (Call Exchange Refusal Reply)

variable {calls more : List Exchange} {v b c : String} {j : Json}
variable {w x : World} {d : Desired} {p s : State} {op : Operation}

/-! ## Operations that start from the record -/

/-- The operations that start from the record of a VPC. -/
inductive Resumes (v : String) : Operation → Prop
  | update (c : Changes) : Resumes v (.updateDns (.str v) c)
  | read : Resumes v (.readDns (.str v))
  | delete : Resumes v (.deleteDns (.str v))

/-- What has become of a binding that a record named: it is still named,
its removal was sent, or its VPC is missing and the record dropped. -/
def Accounted (calls : List Exchange) (records : Keyed (Keyed Json)) (v b : String) : Prop :=
  Names records v b ∨ RemovalSent calls v (.str b) ∨
    (ReportedMissing calls v ∧ records.get? (keyOf v) = none)

theorem Accounted.of_records_eq {records : Keyed (Keyed Json)} (hp : Loads w.store.records v p)
    (hb : p.bindingId = .str b) (h : records = w.store.records) : Accounted calls records v b :=
  .inl (h ▸ hp.names hb)

/-- Only one state is loaded for a VPC. -/
theorem Loads.unique {records : Keyed (Keyed Json)} (h : Loads records v p)
    (h' : Loads records v s) : p = s := by
  obtain ⟨record, hr, hp⟩ := h
  obtain ⟨record', hr', hs⟩ := h'
  cases hr.symm.trans hr'
  cases hp.symm.trans hs
  rfl

theorem Started.vpcId_eq {changes : Changes} (h : Started v changes w d p) : d.vpcId = v := by
  cases Desired.eq_of_ofChanges h.admitted
  rfl

/-- A change accounts for the binding that it starts from. -/
theorem Updated.accounted {changes : Changes} {result : Except Failure State}
    (h : Updated v changes w result calls x) (hp : Loads w.store.records v p) (hv : p.vpcId = v)
    (hb : p.bindingId = .str b) (hne : b ≠ "") : Accounted calls x.store.records v b := by
  have hgiven : p.bindingId.isGiven = true := by rw [hb, Json.isGiven_str]; exact hne
  cases h with
  | unfit | violating => exact .of_records_eq hp hb rfl
  | unloaded _ _ _ hu | unprepared _ _ hu | unapplied _ _ _ hu | unreplaced _ _ _ _ hu =>
    exact .of_records_eq hp hb hu.records_eq
  | applied hs ht ha hr hu h =>
    cases hs.loads.unique hp
    rcases h.records_cases hv with ⟨hsame, -⟩ | ⟨hnamed, -⟩ | ⟨hnone, hmissing, -⟩
    · exact .of_records_eq hp hb (hsame.trans hu.records_eq)
    -- The record was written, with the binding that was prepared.
    · rcases ht.kept_or_removed_or_replaced hgiven with hid | hsent | hreplaced
      · refine .inl ?_
        rw [Names, hnamed, State.changed_bindingId, hid, hb, Json.finite_str]
      · rw [hs.vpcId_eq, hb] at hsent
        exact .inr (.inl (by simp only [removalSent_append, hsent, true_or]))
      · have hsent := hr.removalSent (hreplaced ▸ hgiven)
        rw [hreplaced, hb] at hsent
        exact .inr (.inl (by simp only [removalSent_append, hsent, true_or, or_true]))
    · exact .inr (.inr ⟨hmissing.append_right, hnone⟩)

theorem ReadBack.accounted {result : Except Failure State} (h : ReadBack v w result calls x)
    (hp : Loads w.store.records v p) (hv : p.vpcId = v) (hb : p.bindingId = .str b) :
    Accounted calls x.store.records v b := by
  cases h with
  | unloaded _ hu => exact .of_records_eq hp hb hu.records_eq
  | loaded hp' hu h =>
    cases hp'.unique hp
    subst hv
    rcases h.records_cases with ⟨hsame, -⟩ | ⟨hnamed, -⟩ | ⟨hnone, hmissing, -⟩
    · exact .of_records_eq hp hb (hsame.trans hu.records_eq)
    · exact .inl (by rw [Names, hnamed, hb, Json.finite_str])
    · exact .inr (.inr ⟨hmissing, hnone⟩)

theorem Settles.mem {purpose : String} {call : Call} {result : Except Failure Unit}
    (h : Settles purpose call result calls) : ∃ reply, calls = [(call, reply)] := by
  cases h with
  | answered | missing | refused | cut => exact ⟨_, rfl⟩

theorem Removed.removalSent {result : Except Failure Unit} (h : Removed v j result calls)
    (hj : j.isGiven = true) : RemovalSent calls v j := by
  cases h with
  | spared h => rw [hj] at h; cases h
  | sent _ hs =>
    obtain ⟨reply, rfl⟩ := hs.mem
    exact ⟨reply, List.mem_singleton.2 rfl⟩

theorem Deleted.accounted {result : Except Failure Bool} (h : Deleted v w result calls x)
    (hp : Loads w.store.records v p) (hb : p.bindingId = .str b) (hne : b ≠ "") :
    Accounted calls x.store.records v b := by
  cases h with
  | unmanaged _ hu | unread _ hu | unremoved _ _ hu | unreset _ _ _ hu | unforgotten _ _ _ _ hu =>
    exact .of_records_eq hp hb hu.records_eq
  | forgotten hp' hr _ _ =>
    cases hp'.unique hp
    have hsent := hr.removalSent (by rw [hb, Json.isGiven_str]; exact hne)
    rw [hb] at hsent
    exact .inr (.inl (removalSent_append.2 (.inl hsent)))

/-- **No recorded binding is forgotten.** An operation that starts from the
record of a VPC accounts for the binding that the record names, however
the operation ends. -/
theorem recorded_binding_accounted (hop : Resumes v op) (hp : Loads w.store.records v p)
    (hv : p.vpcId = v) (hb : p.bindingId = .str b) (hne : b ≠ "") :
    Accounted (op.run w).calls (op.run w).world.store.records v b := by
  cases hop with
  | update changes =>
    rw [Operation.run, Operation.one_apply]
    exact (updated v changes w).accounted hp hv hb hne
  | read =>
    rw [Operation.run, Operation.one_apply]
    exact (readBack v w).accounted hp hv hb
  | delete =>
    rw [Operation.run, Operation.one_apply]
    exact (deleted v w).accounted hp hb hne

/-- A VPC that delegates to a hub through a binding. -/
def spoke : State :=
  { State.ofText "vpc-1" with
    resolverType := .str "delegated"
    resolverVpcId := .str "hub-1"
    bindingId := .str "b-1" }

/-- A world in which the table holds these records and has no faults, and
the service gives these replies. -/
def calm (records : Keyed (Keyed Json)) (replies : List Reply) : World where
  replies := replies
  exhausted := ⟨.int 500, "no more replies"⟩
  pageLimit := .int 50
  store := {
    created := true
    connected := true
    records := records
    scanSize := 25
    faults := []
    uses := [] }
  settings := .default
  clock := ⟨1700000000, 0⟩

/-- The world of a VPC that delegates, with these replies. -/
def spokeWorld (replies : List Reply) : World :=
  calm [(keyOf "vpc-1", Memory.record .dnsConfig (.str "vpc-1") spoke.attributes ⟨0, 0⟩)] replies

/-- A refusal with a status that is not about a missing resource. -/
def failing : Reply := .refused ⟨.int 500, "failed"⟩

/-- A deletion that gets as far as the binding. -/
abbrev halfDeleted : Outcome Json :=
  (Operation.deleteDns (.str "vpc-1")).run (spokeWorld [.ok .null, failing])

theorem recorded_binding_accounted_halfDeleted :
    Loads (spokeWorld [.ok .null, failing]).store.records "vpc-1" spoke ∧
      Accounted halfDeleted.calls halfDeleted.world.store.records "vpc-1" "b-1" := by
  have hp : Loads (spokeWorld [.ok .null, failing]).store.records "vpc-1" spoke := ⟨_, rfl, rfl⟩
  exact ⟨hp, recorded_binding_accounted .delete hp rfl rfl (by decide)⟩

/-! ## Operations that write the record anew -/

/-- The operations that write the record of a VPC without a look at the
old one. -/
inductive Establishes (v : String) : Operation → Prop
  | create (d : Desired) (h : d.vpcId = v) : Establishes v (.createDns d)
  | adopt : Establishes v (.importDns (.str v))

/-- **The binding that an operation brings into the record**, null for
none, once the service accepted the configuration or showed it. -/
inductive Brings (v : String) (calls : List Exchange) : Operation → Json → Prop
  | created {d : Desired} {body j : Json} (hd : d.resolverType = .delegated)
      (hj : BindingCreated calls v j) (hpatch : PatchSent calls v (.ok body)) :
      Brings v calls (.createDns d) j
  | unneeded {d : Desired} {body : Json} (hd : d.resolverType ≠ .delegated)
      (hpatch : PatchSent calls v (.ok body)) : Brings v calls (.createDns d) .null
  | listed {body binding j : Json} {bindings : List Json}
      (hread : (Call.getVpc (.str v), Reply.ok body) ∈ calls)
      (hlisted : Remote.Listed (bindingsOf v) calls bindings) (hmem : binding ∈ bindings)
      (hj : binding.find "id" = .ok j) : Brings v calls (.importDns (.str v)) j
  | unlisted {body : Json} (hread : (Call.getVpc (.str v), Reply.ok body) ∈ calls) :
      Brings v calls (.importDns (.str v)) .null

/-- What the record of a VPC is after an operation that writes it
anew. -/
def Rewritten (op : Operation) (calls : List Exchange) (before after : Keyed (Keyed Json))
    (v : String) : Prop :=
  (after.get? (keyOf v) = before.get? (keyOf v) ∨
    ∃ j, Brings v calls op j ∧ recordedBinding? after v = some j.finite) ∧
  ∀ j, RemovalSent calls v j → BindingCreated calls v j

/-- Creating a configuration removes no binding but the one that it
created. -/
theorem Created.bindingCreated_of_removalSent {result : Except Failure State}
    (h : Created d w result calls x) (hs : RemovalSent calls d.vpcId j) :
    BindingCreated calls d.vpcId j := by
  cases h with
  | violating => exact absurd hs not_removalSent_nil
  | unopened _ hf => exact absurd hs hf.not_removalSent
  | unapplied _ hb hf =>
    obtain ⟨rfl, hgiven⟩ :=
      hf.eq_of_removalSent ((removalSent_append.1 hs).resolve_left hb.not_removalSent)
    rcases hb.null_or_bindingCreated with ⟨hnull, -⟩ | ⟨hc, -⟩
    · rw [hnull] at hgiven
      cases hgiven
    · exact bindingCreated_append.2 (.inl hc)
  | unrealized _ hb ha => exact absurd hs (hb.not_removalSent_of_applied ha)
  | applied _ hb ha _ _ h =>
    have hs := hs.of_append (inert_of_isReading h.isReading).2.1
    exact absurd hs (hb.not_removalSent_of_applied ha)

theorem Created.rewritten {result : Except Failure State} (h : Created d w result calls x)
    (hv : d.vpcId = v) (hmissing : ¬ ReportedMissing calls v) :
    Rewritten (.createDns d) calls w.store.records x.store.records v := by
  subst hv
  refine ⟨?_, fun j hs => h.bindingCreated_of_removalSent hs⟩
  cases h with
  | violating => exact .inl rfl
  | unopened _ _ hu | unapplied _ _ _ hu | unrealized _ _ _ _ hu =>
    exact .inl (by rw [hu.records_eq])
  | applied _ hb ha hs hu h =>
    obtain ⟨hvpc, hid, -⟩ := Desired.kept_of_realized hs
    obtain ⟨body, rfl⟩ := ha.calls_eq
    rcases h.records_cases hvpc with ⟨hsame, -⟩ | ⟨hnamed, -⟩ | ⟨-, hm, -⟩
    · exact .inl (by rw [hsame, hu.records_eq])
    · refine .inr ⟨_, ?_, hnamed⟩
      rw [hid]
      have hpatch : PatchSent [(d.patchCall, .ok body)] d.vpcId (.ok body) :=
        ⟨_, List.mem_singleton.2 rfl⟩
      rcases hb.null_or_bindingCreated with ⟨hnull, hd⟩ | ⟨hc, hd⟩
      · rw [hnull]
        exact .unneeded hd (patchSent_append.2 (.inl (patchSent_append.2 (.inr hpatch))))
      · exact .created hd (by simp only [bindingCreated_append, hc, true_or])
          (patchSent_append.2 (.inl (patchSent_append.2 (.inr hpatch))))
    · exact absurd hm.append_right hmissing

/-- The binding that is adopted is one of those that were listed. -/
theorem State.bindingId_of_adoptFrom {t : State} {bindings : List Json}
    (h : s.adoptFrom bindings = .ok t) :
    t.bindingId = s.bindingId ∨ ∃ binding ∈ bindings, binding.find "id" = .ok t.bindingId := by
  rcases State.eq_of_adoptFrom h with rfl | ⟨binding, hmem, id, name, hid, -, rfl⟩
  · exact .inl rfl
  · exact .inr ⟨binding, hmem, hid⟩

/-- A VPC that was read back was answered for. -/
theorem Refreshed.mem_getVpc (h : Refreshed p w (.ok s) calls x) :
    ∃ body, (Call.getVpc (.str p.vpcId), Reply.ok body) ∈ calls := by
  cases h with
  | shown => exact ⟨_, List.mem_cons_self⟩

theorem Listed.append_right {collection : Remote.Collection} {items : List Json}
    (h : Remote.Listed collection more items) :
    Remote.Listed collection (calls ++ more) items := by
  intro j hj
  obtain ⟨start, limit, page, onPage, hmem, hitems, hj⟩ := h j hj
  exact ⟨start, limit, page, onPage, List.mem_append_right calls hmem, hitems, hj⟩

theorem Adopted.isReading {result : Except Failure State} (h : Adopted v w result calls x) :
    ∀ e ∈ calls, IsReading v e.1 := by
  have rest : ∀ {r calls more u}, Refreshed (State.ofText v) w r calls u →
      (∀ e ∈ more, e.1.Lists (bindingsOf v)) → ∀ e ∈ calls ++ more, IsReading v e.1 :=
    fun h hmore e he => (List.mem_append.1 he).elim (h.isReading e) fun he => .inr (hmore e he)
  cases h with
  | unread h | plain h => exact h.isReading
  | unlisted h _ hmore | unmatched h _ hmore | unrecorded h _ hmore | matched h _ hmore =>
    exact rest h hmore

theorem Adopted.rewritten {result : Except Failure State} (h : Adopted v w result calls x)
    (hmissing : ¬ ReportedMissing calls v) :
    Rewritten (.importDns (.str v)) calls w.store.records x.store.records v := by
  refine ⟨?_, fun j hs => absurd hs (inert_of_isReading h.isReading).2.1⟩
  -- What the VPC shows is recorded without a binding, also if its bindings
  -- cannot be listed after that.
  have unlisted : ∀ {s calls u} more, Refreshed (State.ofText v) w (.ok s) calls u →
      u.store.records = x.store.records →
      ∃ j, Brings v (calls ++ more) (.importDns (.str v)) j ∧
        recordedBinding? x.store.records v = some j.finite := by
    intro s calls u more h hsame
    obtain ⟨body, hread⟩ := h.mem_getVpc
    refine ⟨.null, .unlisted (List.mem_append_left more hread), ?_⟩
    rw [← hsame]
    exact h.recorded_of_ok
  cases h with
  | unread h =>
    rcases h.records_cases with ⟨hsame, -⟩ | ⟨-, s, hs⟩ | ⟨-, hm, -⟩
    · exact .inl (by rw [hsame])
    · cases hs
    · exact absurd hm hmissing
  | plain h =>
    have hplain := unlisted [] h rfl
    rw [List.append_nil] at hplain
    exact .inr hplain
  | unlisted h _ _ _ hx | unmatched h _ _ _ _ hx | unrecorded h _ _ _ _ _ hx =>
    exact .inr (unlisted _ h hx.records_eq.symm)
  | @matched _ t _ _ _ _ _ _ h _ _ hlisted ht hx =>
    have hnamed : recordedBinding? x.store.records v = some t.bindingId.finite := by
      rw [hx.records_eq, recordedBinding?_insert, if_pos rfl]
    obtain ⟨body, hread⟩ := h.mem_getVpc
    refine .inr ⟨_, ?_, hnamed⟩
    rcases State.bindingId_of_adoptFrom ht with hsame | ⟨binding, hmem, hj⟩
    · rw [hsame, h.kept.2]
      exact .unlisted (List.mem_append_left _ hread)
    · exact .listed (List.mem_append_left _ hread) (Listed.append_right hlisted) hmem hj

/-- **A record is written anew as a whole or not at all.** Unless the
service says that the VPC is missing, an operation that writes the record
anew leaves it as it was, or makes it name the binding that the operation
brings; it removes no binding but one that it created itself. -/
theorem record_kept_or_rewritten (hop : Establishes v op)
    (hmissing : ¬ ReportedMissing (op.run w).calls v) :
    Rewritten op (op.run w).calls w.store.records (op.run w).world.store.records v := by
  cases hop with
  | create d h =>
    rw [Operation.run, Operation.one_apply] at hmissing ⊢
    exact (created d w).rewritten h hmissing
  | adopt =>
    rw [Operation.run, Operation.one_apply] at hmissing ⊢
    exact (adopted v w).rewritten hmissing

/-- A configuration without a binding. -/
def plain : Desired where
  enableHub := false
  resolverType := .system
  resolverVpcId := none
  resolverVpcCrn := none
  bindingName := none
  manualServers := []
  vpcId := "vpc-1"

/-- What the service shows of a VPC with the system's resolver. -/
def plainVpc : Json :=
  .obj [("dns", .obj [("enable_hub", .bool false), ("resolver", .obj [("type", .str "system")])])]

/-- The world of a VPC with a binding, in which the service agrees to
everything. -/
def agreeing : World := spokeWorld [.ok .null, .ok plainVpc]

/-- A configuration without a binding, applied to a VPC with one. -/
abbrev replanned : Outcome Json := (Operation.createDns plain).run agreeing

theorem replanned_calls :
    replanned.calls = [(plain.patchCall, .ok .null), (.getVpc (.str "vpc-1"), .ok plainVpc)] := rfl

theorem replanned_not_reportedMissing : ¬ ReportedMissing replanned.calls "vpc-1" := by
  rintro ⟨refusal, hr, hmem⟩
  rw [replanned_calls] at hmem
  rcases List.mem_cons.1 hmem with heq | hmem
  · cases heq
  · cases List.mem_singleton.1 hmem

theorem record_kept_or_rewritten_replanned :
    Rewritten (.createDns plain) replanned.calls agreeing.store.records
      replanned.world.store.records "vpc-1" :=
  record_kept_or_rewritten (.create plain rfl) replanned_not_reportedMissing

/-- **A record that is written anew can lose its binding**: the record
names it before, does not after, and its removal was never sent. -/
theorem binding_lost_replanned :
    Names agreeing.store.records "vpc-1" "b-1" ∧ plain.violation? = none ∧
      ¬ ReportedMissing replanned.calls "vpc-1" ∧
      ¬ Names replanned.world.store.records "vpc-1" "b-1" ∧
      ¬ RemovalSent replanned.calls "vpc-1" (.str "b-1") := by
  refine ⟨rfl, rfl, replanned_not_reportedMissing, ?_, ?_⟩
  · have hnone : recordedBinding? replanned.world.store.records "vpc-1" = some .null := rfl
    rw [Names, hnone]
    exact fun h => by cases h
  · rintro ⟨reply, hmem⟩
    rw [replanned_calls] at hmem
    rcases List.mem_cons.1 hmem with heq | hmem
    · cases heq
    · cases List.mem_singleton.1 hmem

/-! ## Operations that fail -/

/-- The operations that bring a VPC into a configuration. -/
inductive Applies (v : String) : Operation → Prop
  | create (d : Desired) (h : d.vpcId = v) : Applies v (.createDns d)
  | update (c : Changes) : Applies v (.updateDns (.str v) c)

/-- A binding is orphaned: the record does not name it, and its removal
was not sent. -/
def Orphaned (calls : List Exchange) (records : Keyed (Keyed Json)) (v c : String) : Prop :=
  ¬ Names records v c ∧ ¬ RemovalSent calls v (.str c)

/-- How a binding can be left behind that the record did not name before:
the patch was cut off, or it was answered and nothing was recorded after
it. -/
def LeftBehind (calls : List Exchange) (before after : Keyed (Keyed Json)) (v c : String) :
    Prop :=
  ¬ Names before v c ∧ ((∃ reason, PatchSent calls v (.disconnected reason)) ∨
    (∃ body, PatchSent calls v (.ok body)) ∧ after.get? (keyOf v) = before.get? (keyOf v))

theorem names_congr {before after : Keyed (Keyed Json)}
    (h : after.get? (keyOf v) = before.get? (keyOf v)) : Names after v c ↔ Names before v c := by
  rw [Names, Names, recordedBinding?, recordedBinding?, h]

section Failing

variable {b : NewBinding} {before after : List Exchange} {records : Keyed (Keyed Json)}

/-- What the calls of a patch say of the patch. -/
theorem patchSent_cons_iff {reply answer : Reply} {rest : List Exchange}
    (h : ∀ r, ¬ PatchSent rest d.vpcId r) :
    PatchSent ((d.patchCall, answer) :: rest) d.vpcId reply ↔ reply = answer := by
  constructor
  · rintro ⟨patch, hmem⟩
    rcases List.mem_cons.1 hmem with heq | hmem
    · cases heq
      rfl
    · exact absurd ⟨patch, hmem⟩ (h reply)
  · rintro rfl
    exact ⟨d.patch, List.mem_cons_self⟩

/-- After a patch that failed, a binding is orphaned only if the patch was
cut off. -/
theorem orphaned_iff_of_unapplied {f : Failure} (hb : Bound d (.ok b) before)
    (hid : b.id = .str c) (hne : c ≠ "") (hf : Applied d b.id (.error f) calls) :
    Orphaned (before ++ calls) records d.vpcId c ↔
      LeftBehind (before ++ calls) records records d.vpcId c := by
  have hgiven : b.id.isGiven = true := by rw [hid, Json.isGiven_str]; exact hne
  simp only [Orphaned, LeftBehind, removalSent_append, patchSent_append, hb.not_removalSent,
    hb.not_patchSent, false_or]
  rcases hf.failed_cases with ⟨refusal, r, rest, rfl, hrest⟩ | ⟨reason, rfl⟩
  -- A refusal has the binding given up, so neither side holds.
  · have hsent := hrest.removalSent hgiven
    obtain ⟨reply, hmem⟩ := hid ▸ hsent
    simp only [patchSent_cons_iff fun r => hrest.not_patchSent, reduceCtorEq, exists_false,
      false_and, or_false, and_false, iff_false]
    exact fun h => h.2 ⟨reply, List.mem_cons_of_mem _ hmem⟩
  · have hcut : ¬ RemovalSent [(d.patchCall, .disconnected reason)] d.vpcId (.str c) := by
      rintro ⟨reply, hmem⟩
      cases List.mem_singleton.1 hmem
    simp only [patchSent_cons_iff fun _ => not_patchSent_nil, hcut, not_false_eq_true,
      Reply.disconnected.injEq, exists_eq, true_or]

/-- After a patch that was answered, a binding is orphaned only if nothing
is recorded. -/
theorem orphaned_iff_of_applied (hb : Bound d (.ok b) before)
    (ha : Applied d b.id (.ok ()) calls) (hpatch : ∀ r, ¬ PatchSent after d.vpcId r)
    (hsent : RemovalSent after d.vpcId (.str c) → Names w.store.records d.vpcId c)
    (hrec : x.store.records = w.store.records ∨ Names x.store.records d.vpcId c) :
    Orphaned (before ++ calls ++ after) x.store.records d.vpcId c ↔
      LeftBehind (before ++ calls ++ after) w.store.records x.store.records d.vpcId c := by
  obtain ⟨body, rfl⟩ := ha.calls_eq
  have hanswered : ¬ RemovalSent [(d.patchCall, .ok body)] d.vpcId (.str c) := ha.not_removalSent
  simp only [Orphaned, LeftBehind, removalSent_append, patchSent_append, hb.not_removalSent,
    hb.not_patchSent, hpatch, hanswered, patchSent_cons_iff fun _ => not_patchSent_nil, false_or,
    or_false, reduceCtorEq, exists_false, Reply.ok.injEq, exists_eq, true_and]
  constructor
  · rintro ⟨hnot, hunsent⟩
    rcases hrec with hsame | hnamed
    · exact ⟨hsame ▸ hnot, by rw [hsame]⟩
    · exact absurd hnamed hnot
  · rintro ⟨hnot, hsame⟩
    exact ⟨fun h => hnot ((names_congr hsame).1 h), fun h => hnot (hsent h)⟩

theorem Created.orphaned_iff {f : Failure} (h : Created d w (.error f) calls x)
    (hf : f.isGone = false) (hc : BindingCreated calls d.vpcId (.str c)) (hne : c ≠ "") :
    Orphaned calls x.store.records d.vpcId c ↔
      LeftBehind calls w.store.records x.store.records d.vpcId c := by
  have opened : ∀ {b before}, Opened d (.ok b) before → BindingCreated before d.vpcId (.str c) →
      Bound d (.ok b) before ∧ b.id = .str c := by
    intro b before hb hc
    have hbound := hb.bound_of_bindingCreated hc
    obtain ⟨-, b', hok, hid⟩ := hbound.eq_of_bindingCreated hc
    cases hok
    exact ⟨hbound, hid⟩
  cases h with
  | violating => exact absurd hc not_bindingCreated_nil
  | unopened _ hf _ =>
    obtain ⟨-, b, hok, -⟩ := (hf.bound_of_bindingCreated hc).eq_of_bindingCreated hc
    cases hok
  | unapplied _ hb hf hu =>
    obtain ⟨hbound, hid⟩ := opened hb (hc.of_append hf.not_bindingCreated)
    rw [hu.records_eq]
    exact orphaned_iff_of_unapplied hbound hid hne hf
  | unrealized _ hb ha _ hu =>
    obtain ⟨hbound, hid⟩ := opened hb (hc.of_append ha.not_bindingCreated)
    rw [← List.append_nil (_ ++ _)]
    exact orphaned_iff_of_applied hbound ha (fun _ => not_patchSent_nil)
      (fun hs => absurd hs not_removalSent_nil) (.inl hu.records_eq)
  | applied _ hb ha hs hu h =>
    obtain ⟨hcreated, hremoved, hpatch⟩ := inert_of_isReading h.isReading
    obtain ⟨hbound, hid⟩ :=
      opened hb ((hc.of_append hcreated).of_append ha.not_bindingCreated)
    refine orphaned_iff_of_applied hbound ha hpatch (fun hs => absurd hs hremoved) ?_
    rcases h.records_of_failed hf with hsame | hnamed
    · exact .inl (hsame.trans hu.records_eq)
    · refine .inr ?_
      rw [Names, hnamed, (Desired.kept_of_realized hs).2.1, hid, Json.finite_str]

/-- The binding that a change replaces is the recorded one. -/
theorem Started.names_of_removalSent {changes : Changes} {r : Except Failure Unit}
    (hs : Started v changes w d p) (hr : GivenUp (.str d.vpcId) p.bindingId r calls)
    (hsent : RemovalSent calls d.vpcId (.str c)) : Names w.store.records d.vpcId c := by
  have hp := hs.loads
  rw [← hs.vpcId_eq] at hp
  exact hp.names (hr.eq_of_removalSent hsent).1.symm

theorem Updated.orphaned_iff {changes : Changes} {f : Failure}
    (h : Updated v changes w (.error f) calls x) (hf : f.isGone = false)
    (hc : BindingCreated calls v (.str c)) (hne : c ≠ "") :
    Orphaned calls x.store.records v c ↔
      LeftBehind calls w.store.records x.store.records v c := by
  cases h with
  | unfit | violating | unloaded => exact absurd hc not_bindingCreated_nil
  | unprepared _ hf _ =>
    obtain ⟨-, b, -, -, hok⟩ := hf.entered_of_bindingCreated hc
    cases hok
  | unapplied hs ht hf hu =>
    obtain ⟨hv, b, hid, hb, hok⟩ :=
      ht.entered_of_bindingCreated (hc.of_append hf.not_bindingCreated)
    cases hok
    subst hv
    rw [hu.records_eq]
    exact orphaned_iff_of_unapplied hb hid hne hf
  | unreplaced hs ht ha hr hu =>
    obtain ⟨hv, b, hid, hb, hok⟩ := ht.entered_of_bindingCreated
      ((hc.of_append hr.not_bindingCreated).of_append ha.not_bindingCreated)
    cases hok
    subst hv
    exact orphaned_iff_of_applied hb ha (fun _ => hr.not_patchSent)
      (hs.names_of_removalSent hr) (.inl hu.records_eq)
  | applied hs ht ha hr hu h =>
    obtain ⟨hcreated, hremoved, hpatch⟩ := inert_of_isReading h.isReading
    obtain ⟨hv, b, hid, hb, hok⟩ := ht.entered_of_bindingCreated
      (((hc.of_append hcreated).of_append hr.not_bindingCreated).of_append ha.not_bindingCreated)
    cases hok
    subst hv
    rw [List.append_assoc]
    refine orphaned_iff_of_applied hb ha ?_ ?_ ?_
    · intro r hp
      exact (patchSent_append.1 hp).elim hr.not_patchSent (hpatch r)
    · intro hsent
      exact (removalSent_append.1 hsent).elim (hs.names_of_removalSent hr) fun hsent =>
        absurd hsent hremoved
    · rcases h.records_of_failed hf with hsame | hnamed
      · exact .inl (hsame.trans hu.records_eq)
      · refine .inr ?_
        rw [Names, hnamed, State.changed_bindingId, hid, Json.finite_str]

end Failing

/-- **When a failure orphans a binding.** An operation created a binding
and fails, but not because the VPC is missing, and the patch got a reply.
Then the binding is left behind exactly if the record did not name it
before and the patch was answered with nothing recorded after it. So a
refused patch leaves no binding behind, and a record that was written
names it. -/
theorem binding_orphaned_iff {f : Failure} (hop : Applies v op)
    (hc : BindingCreated (op.run w).calls v (.str c)) (hne : c ≠ "")
    (hf : (op.run w).result = .error f) (hgone : f.isGone = false)
    (hreply : ∀ reason, ¬ PatchSent (op.run w).calls v (.disconnected reason)) :
    Orphaned (op.run w).calls (op.run w).world.store.records v c ↔
      ¬ Names w.store.records v c ∧ (∃ body, PatchSent (op.run w).calls v (.ok body)) ∧
        (op.run w).world.store.records.get? (keyOf v) = w.store.records.get? (keyOf v) := by
  have hiff : Orphaned (op.run w).calls (op.run w).world.store.records v c ↔
      LeftBehind (op.run w).calls w.store.records (op.run w).world.store.records v c := by
    cases hop with
    | create d hv =>
      subst hv
      rw [Operation.run, Operation.one_apply] at hc hf ⊢
      have h := created d w
      rw [map_eq_error_iff.1 hf] at h
      exact h.orphaned_iff hgone hc hne
    | update changes =>
      rw [Operation.run, Operation.one_apply] at hc hf ⊢
      have h := updated v changes w
      rw [map_eq_error_iff.1 hf] at h
      exact h.orphaned_iff hgone hc hne
  -- A patch that got a reply was not cut off.
  rw [hiff, LeftBehind]
  simp only [hreply, exists_false, false_or]

/-- A configuration that delegates to a hub. -/
def delegating : Desired :=
  { plain with resolverType := .delegated, resolverVpcId := some "hub-1" }

/-- A world without records, in which a binding is created and the patch
accepted, but no record can be written. -/
def unrecording : World :=
  let w := calm [] [.ok (.obj [("id", .str "b-2"), ("name", .str "to-hub")]), .ok .null]
  { w with store.faults := [⟨.putItem, none, "InternalServerError", "try again"⟩] }

/-- A configuration that is accepted by the service but not recorded. -/
abbrev unrecorded : Outcome Json := (Operation.createDns delegating).run unrecording

theorem unrecorded_calls :
    unrecorded.calls = [(delegating.bindingCall,
      .ok (.obj [("id", .str "b-2"), ("name", .str "to-hub")])),
      (delegating.patchCall, .ok .null)] := rfl

theorem unrecorded_result :
    unrecorded.result =
      .error (.store ⟨.putItem, "InternalServerError", "try again"⟩) := rfl

theorem unrecorded_bindingCreated : BindingCreated unrecorded.calls "vpc-1" (.str "b-2") := by
  rw [unrecorded_calls]
  exact ⟨_, _, _, List.mem_cons_self, rfl⟩

theorem binding_orphaned_iff_unrecorded :
    Orphaned unrecorded.calls unrecorded.world.store.records "vpc-1" "b-2" ↔
      ¬ Names unrecording.store.records "vpc-1" "b-2" ∧
        (∃ body, PatchSent unrecorded.calls "vpc-1" (.ok body)) ∧
        unrecorded.world.store.records.get? (keyOf "vpc-1") =
          unrecording.store.records.get? (keyOf "vpc-1") := by
  refine binding_orphaned_iff (.create delegating rfl) unrecorded_bindingCreated (by decide)
    unrecorded_result rfl ?_
  rintro reason ⟨patch, hmem⟩
  rw [unrecorded_calls] at hmem
  rcases List.mem_cons.1 hmem with heq | hmem
  · cases heq
  · cases List.mem_singleton.1 hmem

/-- **A table that fails can leave a binding behind**: it was created, and
is neither recorded nor removed. -/
theorem binding_orphaned_unrecorded :
    delegating.violation? = none ∧ BindingCreated unrecorded.calls "vpc-1" (.str "b-2") ∧
      unrecorded.result = .error (.store ⟨.putItem, "InternalServerError", "try again"⟩) ∧
      Orphaned unrecorded.calls unrecorded.world.store.records "vpc-1" "b-2" := by
  refine ⟨rfl, unrecorded_bindingCreated, unrecorded_result, ?_, ?_⟩
  · have hnone : recordedBinding? unrecorded.world.store.records "vpc-1" = none := rfl
    rw [Names, hnone]
    exact fun h => by cases h
  · rintro ⟨reply, hmem⟩
    rw [unrecorded_calls] at hmem
    rcases List.mem_cons.1 hmem with heq | hmem
    · cases heq
    · cases List.mem_singleton.1 hmem

end Dns

end NetSteward
