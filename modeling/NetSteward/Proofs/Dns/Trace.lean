import NetSteward.Proofs.Dns.Ending
/-!
# What becomes of a binding

What calls show of a binding: whether it was created and whether its
removal was sent. For each step of an operation the lemmas here say which
bindings it creates and removes, and which one the record of the VPC
names after it.
-/

namespace NetSteward

namespace Dns

open Remote (Call Exchange Refusal Reply)

variable {calls more : List Exchange} {records : Keyed (Keyed Json)} {u v b : String} {j k : Json}
variable {w x : World} {d : Desired} {p s : State}

/-- A binding of a VPC was created, and this is its identifier. -/
def BindingCreated (calls : List Exchange) (v : String) (j : Json) : Prop :=
  ∃ hub name body, (Call.createBinding (.str v) hub name, Reply.ok body) ∈ calls ∧
    body.require "id" = .ok j

/-- The removal of a binding of a VPC was sent, whatever the reply. -/
def RemovalSent (calls : List Exchange) (v : String) (j : Json) : Prop :=
  ∃ reply, (Call.deleteBinding (.str v) j, reply) ∈ calls

/-- A patch of a VPC was sent, with this reply. -/
def PatchSent (calls : List Exchange) (v : String) (reply : Reply) : Prop :=
  ∃ patch, (Call.patchVpc (.str v) patch, reply) ∈ calls

/-- The service said that a VPC no longer exists. -/
def ReportedMissing (calls : List Exchange) (v : String) : Prop :=
  ∃ refusal, refusal.isNotFound = true ∧ (Call.getVpc (.str v), Reply.refused refusal) ∈ calls

@[simp] theorem not_bindingCreated_nil : ¬ BindingCreated [] v j := by
  rintro ⟨hub, name, body, h, -⟩
  cases h

@[simp] theorem bindingCreated_append :
    BindingCreated (calls ++ more) v j ↔ BindingCreated calls v j ∨ BindingCreated more v j := by
  simp only [BindingCreated, List.mem_append, or_and_right, exists_or]

theorem BindingCreated.of_append (h : BindingCreated (calls ++ more) v j)
    (hmore : ¬ BindingCreated more v j) : BindingCreated calls v j :=
  (bindingCreated_append.1 h).resolve_right hmore

@[simp] theorem not_removalSent_nil : ¬ RemovalSent [] v j := by
  rintro ⟨reply, h⟩
  cases h

@[simp] theorem removalSent_append :
    RemovalSent (calls ++ more) v j ↔ RemovalSent calls v j ∨ RemovalSent more v j := by
  simp only [RemovalSent, List.mem_append, exists_or]

theorem RemovalSent.of_append (h : RemovalSent (calls ++ more) v j)
    (hmore : ¬ RemovalSent more v j) : RemovalSent calls v j :=
  (removalSent_append.1 h).resolve_right hmore

@[simp] theorem not_patchSent_nil {reply : Reply} : ¬ PatchSent [] v reply := by
  rintro ⟨patch, h⟩
  cases h

@[simp] theorem patchSent_append {reply : Reply} :
    PatchSent (calls ++ more) v reply ↔ PatchSent calls v reply ∨ PatchSent more v reply := by
  simp only [PatchSent, List.mem_append, exists_or]

@[simp] theorem not_reportedMissing_nil : ¬ ReportedMissing [] v := by
  rintro ⟨refusal, -, h⟩
  cases h

@[simp] theorem reportedMissing_append :
    ReportedMissing (calls ++ more) v ↔ ReportedMissing calls v ∨ ReportedMissing more v := by
  simp only [ReportedMissing, List.mem_append, and_or_left, exists_or]

theorem ReportedMissing.append_right (h : ReportedMissing more v) :
    ReportedMissing (calls ++ more) v :=
  reportedMissing_append.2 (.inr h)

/-! ## Bindings and the patch -/

namespace Bound

variable {result : Except Failure NewBinding} {b : NewBinding}

theorem calls_eq (h : Bound d result calls) : ∃ reply, calls = [(d.bindingCall, reply)] := by
  cases h with
  | created | garbled | unanswered => exact ⟨_, rfl⟩

theorem bindingCreated (h : Bound d (.ok b) calls) : BindingCreated calls d.vpcId b.id := by
  cases h with
  | created hid hname => exact ⟨_, _, _, List.mem_singleton.2 rfl, hid⟩

/-- **A binding that was created is the one that is gone on with.** -/
theorem eq_of_bindingCreated (h : Bound d result calls) (hc : BindingCreated calls v j) :
    d.vpcId = v ∧ ∃ b, result = .ok b ∧ b.id = j := by
  obtain ⟨hub, name, body, hmem, hj⟩ := hc
  cases h with
  | created hid hname =>
    cases List.mem_singleton.1 hmem
    rw [hid] at hj
    cases hj
    exact ⟨rfl, _, rfl, rfl⟩
  | garbled hm =>
    cases List.mem_singleton.1 hmem
    rw [hm] at hj
    cases hj
  | unanswered hr =>
    cases List.mem_singleton.1 hmem
    cases hr

theorem not_removalSent (h : Bound d result calls) : ¬ RemovalSent calls v j := by
  rintro ⟨reply, hmem⟩
  obtain ⟨answer, rfl⟩ := h.calls_eq
  cases List.mem_singleton.1 hmem

theorem not_patchSent {reply : Reply} (h : Bound d result calls) : ¬ PatchSent calls v reply := by
  rintro ⟨patch, hmem⟩
  obtain ⟨answer, rfl⟩ := h.calls_eq
  cases List.mem_singleton.1 hmem

/-- A binding is not created because of an exchange. -/
theorem isOfExchange_eq {f : Failure} (h : Bound d (.error f) calls) : f.isOfExchange = true := by
  cases h with
  | garbled => rfl
  | unanswered hr => exact Reply.isOfExchange_of_result hr

end Bound

/-- The calls that give up a binding, if there is one. -/
def removalOf (v : String) (bindingId : Json) : List Call :=
  if bindingId.isGiven then [.deleteBinding (.str v) bindingId] else []

namespace GivenUp

variable {result : Except Failure Unit}

/-- The only call is the removal, which is sent if there is a binding. -/
theorem calls_eq (h : GivenUp (.str v) k result calls) :
    k.isGiven = false ∧ calls = [] ∨
      k.isGiven = true ∧ ∃ reply, calls = [(.deleteBinding (.str v) k, reply)] := by
  cases h with
  | spared h => exact .inl ⟨h, rfl⟩
  | answered h | refused h | cut h => exact .inr ⟨h, _, rfl⟩

theorem map_fst (h : GivenUp (.str v) k result calls) : calls.map Prod.fst = removalOf v k := by
  rw [removalOf]
  rcases h.calls_eq with ⟨hk, rfl⟩ | ⟨hk, reply, rfl⟩
  · rw [hk]
    rfl
  · rw [if_pos hk]
    rfl

theorem removalSent (h : GivenUp (.str v) k result calls) (hk : k.isGiven = true) :
    RemovalSent calls v k := by
  rcases h.calls_eq with ⟨hk', -⟩ | ⟨-, reply, rfl⟩
  · rw [hk] at hk'
    cases hk'
  · exact ⟨reply, List.mem_singleton.2 rfl⟩

theorem eq_of_removalSent (h : GivenUp (.str v) k result calls) (hs : RemovalSent calls u j) :
    j = k ∧ k.isGiven = true := by
  obtain ⟨reply, hmem⟩ := hs
  rcases h.calls_eq with ⟨-, rfl⟩ | ⟨hk, answer, rfl⟩
  · cases hmem
  · cases List.mem_singleton.1 hmem
    exact ⟨rfl, hk⟩

theorem not_bindingCreated (h : GivenUp (.str v) k result calls) :
    ¬ BindingCreated calls u j := by
  rintro ⟨hub, name, body, hmem, -⟩
  rcases h.calls_eq with ⟨-, rfl⟩ | ⟨-, answer, rfl⟩
  · cases hmem
  · cases List.mem_singleton.1 hmem

theorem not_patchSent {reply : Reply} (h : GivenUp (.str v) k result calls) :
    ¬ PatchSent calls u reply := by
  rintro ⟨patch, hmem⟩
  rcases h.calls_eq with ⟨-, rfl⟩ | ⟨-, answer, rfl⟩
  · cases hmem
  · cases List.mem_singleton.1 hmem

end GivenUp

namespace Applied

variable {result : Except Failure Unit}

/-- A patch that is answered is all that is sent. -/
theorem calls_eq (h : Applied d k (.ok ()) calls) : ∃ body, calls = [(d.patchCall, .ok body)] := by
  cases h with
  | answered => exact ⟨_, rfl⟩

theorem not_removalSent (h : Applied d k (.ok ()) calls) : ¬ RemovalSent calls u j := by
  rintro ⟨reply, hmem⟩
  obtain ⟨body, rfl⟩ := h.calls_eq
  cases List.mem_singleton.1 hmem

/-- A patch that fails is refused, upon which the binding that was created
for it is given up, or is cut off. -/
theorem failed_cases {f : Failure} (h : Applied d k (.error f) calls) :
    (∃ refusal r rest, calls = (d.patchCall, .refused refusal) :: rest ∧
      GivenUp (.str d.vpcId) k r rest) ∨
    ∃ reason, calls = [(d.patchCall, .disconnected reason)] := by
  cases h with
  | refused h | stuck h => exact .inl ⟨_, _, _, rfl, h⟩
  | cut => exact .inr ⟨_, rfl⟩

/-- Only the binding that was created for the patch is given up. -/
theorem eq_of_removalSent (h : Applied d k result calls) (hs : RemovalSent calls u j) :
    j = k ∧ k.isGiven = true := by
  obtain ⟨reply, hmem⟩ := hs
  cases h with
  | answered | cut => cases List.mem_singleton.1 hmem
  | refused h | stuck h =>
    rcases List.mem_cons.1 hmem with heq | hmem
    · cases heq
    · exact h.eq_of_removalSent ⟨reply, hmem⟩

theorem not_bindingCreated (h : Applied d k result calls) : ¬ BindingCreated calls u j := by
  rintro ⟨hub, name, body, hmem, hj⟩
  cases h with
  | answered | cut => cases List.mem_singleton.1 hmem
  | refused h | stuck h =>
    rcases List.mem_cons.1 hmem with heq | hmem
    · cases heq
    · exact h.not_bindingCreated ⟨hub, name, body, hmem, hj⟩

end Applied

namespace Opened

variable {result : Except Failure NewBinding} {b : NewBinding}

/-- The binding to go on with is none or was created. -/
theorem null_or_bindingCreated (h : Opened d (.ok b) calls) :
    (b.id = .null ∧ d.resolverType ≠ .delegated) ∨
      (BindingCreated calls d.vpcId b.id ∧ d.resolverType = .delegated) := by
  cases h with
  | unneeded h => exact .inl ⟨rfl, h⟩
  | needed h hb => exact .inr ⟨hb.bindingCreated, h⟩

theorem bound_of_bindingCreated (h : Opened d result calls) (hc : BindingCreated calls v j) :
    Bound d result calls := by
  cases h with
  | unneeded => exact absurd hc not_bindingCreated_nil
  | needed _ hb => exact hb

theorem not_removalSent (h : Opened d result calls) : ¬ RemovalSent calls v j := by
  cases h with
  | unneeded => exact not_removalSent_nil
  | needed _ hb => exact hb.not_removalSent

/-- Up to a patch that is answered nothing is removed. -/
theorem not_removalSent_of_applied (h : Opened d result calls) (ha : Applied d k (.ok ()) more) :
    ¬ RemovalSent (calls ++ more) v j := by
  intro hs
  rcases removalSent_append.1 hs with hs | hs
  · exact h.not_removalSent hs
  · exact ha.not_removalSent hs

end Opened

/-- A configuration that was applied is recorded with the binding that was
created for it. -/
theorem Desired.kept_of_realized {b : NewBinding} (h : d.realized b = .ok s) :
    s.vpcId = d.vpcId ∧ s.bindingId = b.id ∧ s.bindingName = b.name := by
  obtain ⟨f, id, hf, hid, rfl⟩ := Checked.seq_eq_ok_iff.1 h
  obtain ⟨name, hname, rfl⟩ := Checked.map_eq_ok_iff.1 hf
  exact ⟨rfl, (Schema.nullable_text_eq_ok_iff.1 (Checked.within_eq_ok_iff.1 hid)).symm,
    (Schema.nullable_text_eq_ok_iff.1 (Checked.within_eq_ok_iff.1 hname)).symm⟩

/-! ## The bindings before a change -/

@[simp] theorem State.changed_bindingId (p : State) (c : Changes) (t : Transition) :
    (p.changed c t).bindingId = t.id := rfl

namespace Prepared

variable {result : Except Failure Transition} {t : Transition}

/-- **A recorded binding is kept, given up or to be replaced.** -/
theorem kept_or_removed_or_replaced (h : Prepared p d (.ok t) calls)
    (hp : p.bindingId.isGiven = true) :
    t.id = p.bindingId ∨ RemovalSent calls d.vpcId p.bindingId ∨ t.replaced = p.bindingId := by
  cases h with
  | left _ hcalls => exact .inr (.inl (hcalls.removalSent hp))
  | kept | renamed => exact .inl rfl
  | entered => exact .inr (.inr rfl)

/-- Only the recorded binding is given up. -/
theorem eq_of_removalSent (h : Prepared p d result calls) (hs : RemovalSent calls v j) :
    j = p.bindingId ∧ p.bindingId.isGiven = true := by
  cases h with
  | left _ hcalls | unleft _ hcalls => exact hcalls.eq_of_removalSent hs
  | kept => exact absurd hs not_removalSent_nil
  | entered _ _ hb | unentered _ _ hb => exact absurd hs hb.not_removalSent
  | renamed | unrenamed =>
    obtain ⟨reply, hmem⟩ := hs
    cases List.mem_singleton.1 hmem

/-- A binding is created only to take the place of the recorded one. -/
theorem entered_of_bindingCreated (h : Prepared p d result calls)
    (hc : BindingCreated calls v j) :
    d.vpcId = v ∧ ∃ b, b.id = j ∧ Bound d (.ok b) calls ∧
      result = .ok ⟨b.id, b.name, b.id, p.bindingId⟩ := by
  cases h with
  | left _ hcalls | unleft _ hcalls => exact absurd hc hcalls.not_bindingCreated
  | kept => exact absurd hc not_bindingCreated_nil
  | entered _ _ hb =>
    obtain ⟨hv, b, hok, hj⟩ := hb.eq_of_bindingCreated hc
    cases hok
    exact ⟨hv, _, hj, hb, rfl⟩
  | unentered _ _ hf =>
    obtain ⟨-, b, hok, -⟩ := hf.eq_of_bindingCreated hc
    cases hok
  | renamed | unrenamed =>
    obtain ⟨hub, name, body, hmem, -⟩ := hc
    cases List.mem_singleton.1 hmem

/-- The binding to go on with is none, the recorded one or a new one. -/
theorem id_cases (h : Prepared p d (.ok t) calls) :
    t.id = .null ∨ t.id = p.bindingId ∨ BindingCreated calls d.vpcId t.id := by
  cases h with
  | left => exact .inl rfl
  | kept | renamed => exact .inr (.inl rfl)
  | entered _ _ hb => exact .inr (.inr hb.bindingCreated)

/-- The binding to give up if the patch is refused is none or a new
one. -/
theorem created_cases (h : Prepared p d (.ok t) calls) :
    t.created = .null ∨ BindingCreated calls d.vpcId t.created := by
  cases h with
  | left | kept | renamed => exact .inl rfl
  | entered _ _ hb => exact .inr hb.bindingCreated

theorem replaced_cases (h : Prepared p d (.ok t) calls) :
    t.replaced = .null ∨ t.replaced = p.bindingId := by
  cases h with
  | left | kept | renamed => exact .inl rfl
  | entered => exact .inr rfl

/-- Nothing was given up if there is a binding to go on with, and only a
new one takes the place of another. -/
theorem inert_of_id (h : Prepared p d (.ok t) calls) (ht : t.id ≠ .null) :
    ¬ RemovalSent calls v j ∧
      (t.replaced = .null ∨ t.replaced = p.bindingId ∧ BindingCreated calls d.vpcId t.id) := by
  cases h with
  | left => exact absurd rfl ht
  | kept => exact ⟨not_removalSent_nil, .inl rfl⟩
  | entered _ _ hb => exact ⟨hb.not_removalSent, .inr ⟨rfl, hb.bindingCreated⟩⟩
  | renamed =>
    refine ⟨?_, .inl rfl⟩
    rintro ⟨reply, hmem⟩
    cases List.mem_singleton.1 hmem

end Prepared

/-! ## Reading back -/

/-- A call that only reads a VPC or its bindings. -/
def IsReading (v : String) (call : Call) : Prop :=
  call = .getVpc (.str v) ∨ call.Lists (bindingsOf v)

/-- Calls that only read create no binding, remove none and patch
nothing. -/
theorem inert_of_isReading (h : ∀ e ∈ calls, IsReading v e.1) :
    ¬ BindingCreated calls u j ∧ ¬ RemovalSent calls u j ∧ ∀ reply, ¬ PatchSent calls u reply := by
  refine ⟨?_, ?_, ?_⟩
  · rintro ⟨hub, name, body, hmem, -⟩
    rcases h _ hmem with heq | ⟨start, limit, heq⟩ <;> cases heq
  · rintro ⟨reply, hmem⟩
    rcases h _ hmem with heq | ⟨start, limit, heq⟩ <;> cases heq
  · rintro reply ⟨patch, hmem⟩
    rcases h _ hmem with heq | ⟨start, limit, heq⟩ <;> cases heq

namespace Named

variable {result : Except Failure State}

theorem lists (h : Named s result calls) :
    ∀ e ∈ calls, e.1.Lists (bindingsOf s.vpcId) := by
  cases h with
  | unasked => exact fun e he => by cases he
  | listed _ hcalls | unlisted _ hcalls | broken _ hcalls => exact hcalls

theorem kept (h : Named p (.ok s) calls) : s.vpcId = p.vpcId ∧ s.bindingId = p.bindingId := by
  cases h with
  | unasked | unlisted => exact ⟨rfl, rfl⟩
  | listed => split <;> exact ⟨rfl, rfl⟩

theorem isOfExchange_eq {f : Failure} (h : Named p (.error f) calls) : f.isOfExchange = true := by
  cases h with
  | broken _ _ hf => exact hf

end Named

namespace Refreshed

variable {result : Except Failure State}

theorem isReading (h : Refreshed p w result calls x) : ∀ e ∈ calls, IsReading p.vpcId e.1 := by
  have first : ∀ {reply : Reply}, IsReading p.vpcId (Call.getVpc (.str p.vpcId), reply).1 :=
    .inl rfl
  have rest : ∀ {body read r calls}, p.overlaid body = .ok read → Named read r calls →
      ∀ e ∈ calls, IsReading p.vpcId e.1 := by
    intro body read r calls hread hs e he
    have hl := hs.lists e he
    rw [(State.kept_of_overlaid hread).2.1] at hl
    exact .inr hl
  cases h with
  | shown hread hs | unrecorded hread hs | unnamed hread hs =>
    exact List.forall_mem_cons.2 ⟨first, rest hread hs⟩
  | garbled | refused | cut | missing | undropped => exact List.forall_mem_singleton.2 first

/-- A state that was read back is of the same VPC and has the same
binding. -/
theorem kept (h : Refreshed p w (.ok s) calls x) :
    s.vpcId = p.vpcId ∧ s.bindingId = p.bindingId := by
  cases h with
  | shown hread hs =>
    obtain ⟨-, hvpc, -, hbinding⟩ := State.kept_of_overlaid hread
    exact ⟨hs.kept.1.trans hvpc, hs.kept.2.trans hbinding⟩

/-- **Reading back leaves the records alone, records the binding that was
known, or drops the record of a VPC that is missing.** -/
theorem records_cases (h : Refreshed p w result calls x) :
    (x.store.records = w.store.records ∧ ∃ f, result = .error f ∧ f.isGone = false) ∨
    (recordedBinding? x.store.records p.vpcId = some p.bindingId.finite ∧ ∃ s, result = .ok s) ∨
    (x.store.records.get? (keyOf p.vpcId) = none ∧ ReportedMissing calls p.vpcId ∧
      ∃ f, result = .error f ∧ f.isGone = true) := by
  cases h with
  | shown hread hs hv =>
    obtain ⟨hvpc, hbinding⟩ := Refreshed.kept (.shown hread hs hv)
    refine .inr (.inl ⟨?_, _, rfl⟩)
    rw [hv.records_eq, recordedBinding?_insert, if_pos hvpc, hbinding]
  | unrecorded _ _ hf hv => exact .inl ⟨hv.records_eq, _, rfl, hf.isGone_eq⟩
  | unnamed _ hf hv =>
    exact .inl ⟨hv.records_eq, _, rfl, Failure.isGone_of_isOfExchange hf.isOfExchange_eq⟩
  | garbled _ hv | refused _ hv | cut hv | undropped _ _ hv =>
    exact .inl ⟨hv.records_eq, _, rfl, rfl⟩
  | missing h hv =>
    refine .inr (.inr ⟨?_, ⟨_, h, List.mem_singleton.2 rfl⟩, _, rfl, rfl⟩)
    rw [hv.records_eq, Keyed.get?_erase, if_pos rfl]

/-- What was read back is recorded. -/
theorem recorded_of_ok (h : Refreshed p w (.ok s) calls x) :
    recordedBinding? x.store.records p.vpcId = some p.bindingId.finite := by
  rcases h.records_cases with ⟨-, f, hf, -⟩ | ⟨hnamed, -⟩ | ⟨-, -, f, hf, -⟩
  · cases hf
  · exact hnamed
  · cases hf

/-- A binding that is named after reading back was named before, or was
known. -/
theorem names_before (h : Refreshed p w result calls x) (hx : Names x.store.records v b) :
    Names w.store.records v b ∨ p.bindingId = .str b := by
  rw [Names] at hx ⊢
  cases h with
  | shown hread hs hv =>
    -- The record that was written may be one of another VPC.
    rw [hv.records_eq, recordedBinding?_insert] at hx
    split at hx
    · rw [(Refreshed.kept (.shown hread hs hv)).2] at hx
      exact .inr (Json.eq_str_of_finite (Option.some.inj hx))
    · exact .inl hx
  | unrecorded _ _ _ hv | unnamed _ _ hv | garbled _ hv | refused _ hv | cut hv
  | undropped _ _ hv => exact .inl (hv.records_eq ▸ hx)
  | missing _ hv =>
    rw [hv.records_eq, recordedBinding?_erase] at hx
    split at hx
    · cases hx
    · exact .inl hx

/-- A binding that is recorded and known goes on to be recorded. -/
theorem recordedBinding?_of_ok (h : Refreshed p w (.ok s) calls x)
    (hw : recordedBinding? w.store.records v = some p.bindingId.finite) :
    recordedBinding? x.store.records v = some p.bindingId.finite := by
  cases h with
  | shown hread hs hv =>
    rw [hv.records_eq, recordedBinding?_insert, (Refreshed.kept (.shown hread hs hv)).2]
    split
    · rfl
    · exact hw

end Refreshed

namespace Settled

variable {result : Except Failure State}

theorem isReading (h : Settled v s w result calls x) : ∀ e ∈ calls, IsReading s.vpcId e.1 := by
  cases h with
  | unrecorded => exact fun e he => by cases he
  | recorded _ h => exact h.isReading

/-- **A state that is recorded and read back** is recorded with its
binding, unless nothing was recorded or the VPC is missing. -/
theorem records_cases (h : Settled v s w result calls x) (hs : s.vpcId = v) :
    (x.store.records = w.store.records ∧ ∃ f, result = .error f ∧ f.isGone = false) ∨
    (recordedBinding? x.store.records v = some s.bindingId.finite ∧
      ∀ f, result = .error f → f.isGone = false) ∨
    (x.store.records.get? (keyOf v) = none ∧ ReportedMissing calls v ∧
      ∃ f, result = .error f ∧ f.isGone = true) := by
  subst hs
  cases h with
  | unrecorded hf hu => exact .inl ⟨hu.records_eq, _, rfl, hf.isGone_eq⟩
  | recorded hu h =>
    rcases h.records_cases with ⟨hsame, f, rfl, hf⟩ | ⟨hnamed, t, rfl⟩ | hmissing
    · refine .inr (.inl ⟨?_, fun g hg => by cases hg; exact hf⟩)
      rw [hsame, hu.records_eq, recordedBinding?_insert, if_pos rfl]
    · exact .inr (.inl ⟨hnamed, fun g hg => by cases hg⟩)
    · exact .inr (.inr hmissing)

/-- A state that was recorded, if only to fail later on, is recorded with
its binding. -/
theorem records_of_failed {f : Failure} (h : Settled v s w (.error f) calls x)
    (hf : f.isGone = false) :
    x.store.records = w.store.records ∨
      recordedBinding? x.store.records v = some s.bindingId.finite := by
  cases h with
  | unrecorded _ hu => exact .inl hu.records_eq
  | recorded hu h =>
    rcases h.records_cases with ⟨hsame, -⟩ | ⟨-, t, ht⟩ | ⟨-, -, g, hg, hgone⟩
    · exact .inr (by rw [hsame, hu.records_eq, recordedBinding?_insert, if_pos rfl])
    · cases ht
    · cases hg
      rw [hf] at hgone
      cases hgone

theorem kept (h : Settled v p w (.ok s) calls x) :
    s.vpcId = p.vpcId ∧ s.bindingId = p.bindingId := by
  cases h with
  | recorded _ h => exact h.kept

/-- A binding that is named after a state was recorded was named before,
or is the one of the state. -/
theorem names_before (h : Settled u s w result calls x) (hx : Names x.store.records v b) :
    Names w.store.records v b ∨ s.bindingId = .str b := by
  cases h with
  | unrecorded _ hu => exact .inl (hu.records_eq ▸ hx)
  | recorded hu h =>
    rcases h.names_before hx with hnamed | hs
    · rw [Names, hu.records_eq, recordedBinding?_insert] at hnamed
      split at hnamed
      · exact .inr (Json.eq_str_of_finite (Option.some.inj hnamed))
      · exact .inl hnamed
    · exact .inr hs

/-- A state that was recorded and read back has its binding recorded. -/
theorem recordedBinding?_of_ok (h : Settled v p w (.ok s) calls x) :
    recordedBinding? x.store.records v = some p.bindingId.finite := by
  cases h with
  | recorded hu h =>
    refine h.recordedBinding?_of_ok ?_
    rw [hu.records_eq, recordedBinding?_insert, if_pos rfl]

end Settled

/-! ## Adopting -/

/-- **A state is adopted as it is or with one of the bindings** that were
listed. -/
theorem State.eq_of_adoptFrom {bindings : List Json} (h : p.adoptFrom bindings = .ok s) :
    s = p ∨ ∃ binding ∈ bindings, ∃ id name, binding.find "id" = .ok id ∧
      binding.find "name" = .ok name ∧ s = { p with bindingId := id, bindingName := name } := by
  induction bindings with
  | nil => cases h; exact .inl rfl
  | cons binding rest ih =>
    obtain ⟨found, -, h⟩ := bind_eq_ok_iff.1 h
    obtain ⟨leads, -, h⟩ := bind_eq_ok_iff.1 h
    cases leads with
    | true =>
      obtain ⟨id, hid, h⟩ := bind_eq_ok_iff.1 h
      obtain ⟨name, hname, h⟩ := bind_eq_ok_iff.1 h
      cases h
      exact .inr ⟨binding, List.mem_cons_self, id, name, hid, hname, rfl⟩
    | false =>
      refine (ih h).imp_right ?_
      rintro ⟨other, hmem, hother⟩
      exact ⟨other, List.mem_cons_of_mem _ hmem, hother⟩

end Dns

end NetSteward
