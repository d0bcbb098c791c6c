import NetSteward.Proofs.Dns.Custody
import NetSteward.Proofs.History
/-!
# Answers that name a removed binding

An operation that fails after the removal of a binding was answered, and
before the record was written again, leaves a record behind that names a
binding which is no more. Such a visit abandons the binding. A later
operation takes the record at its word. The main theorem says that this
is the only way in which an answer comes to name a removed binding: if
bindings have fresh identifiers, the answer does so exactly if an earlier
visit abandoned the binding.
-/

namespace NetSteward

namespace Dns

open Remote (Call Exchange Reply)

variable {calls more : List Exchange} {v b : String} {j : Json}
variable {w x : World} {d : Desired} {p s : State} {op : Operation}

/-! ## Which binding an operation leaves named -/

theorem Created.names_before {result : Except Failure State} (h : Created d w result calls x)
    (hx : Names x.store.records d.vpcId b) :
    Names w.store.records d.vpcId b ∨ BindingCreated calls d.vpcId (.str b) := by
  cases h with
  | violating => exact .inl hx
  | unopened _ _ hu | unapplied _ _ _ hu | unrealized _ _ _ _ hu => exact .inl (hu.records_eq ▸ hx)
  | applied _ hb _ hs hu h =>
    rcases h.names_before hx with hnamed | hid
    · exact .inl (hu.records_eq ▸ hnamed)
    · rw [(Desired.kept_of_realized hs).2.1] at hid
      rcases hb.null_or_bindingCreated with ⟨hnull, -⟩ | ⟨hc, -⟩
      · rw [hnull] at hid
        cases hid
      · rw [hid] at hc
        exact .inr (by simp only [bindingCreated_append, hc, true_or])

theorem Updated.names_before {changes : Changes} {result : Except Failure State}
    (h : Updated v changes w result calls x) (hx : Names x.store.records v b) :
    Names w.store.records v b ∨ BindingCreated calls v (.str b) := by
  cases h with
  | unfit | violating => exact .inl hx
  | unloaded _ _ _ hu | unprepared _ _ hu | unapplied _ _ _ hu | unreplaced _ _ _ _ hu =>
    exact .inl (hu.records_eq ▸ hx)
  | applied hs ht _ _ hu h =>
    rcases h.names_before hx with hnamed | hid
    · exact .inl (hu.records_eq ▸ hnamed)
    · rw [State.changed_bindingId] at hid
      rcases ht.id_cases with hnull | hkept | hc
      · rw [hnull] at hid
        cases hid
      · exact .inl (hs.loads.names (hkept ▸ hid))
      · rw [hid, hs.vpcId_eq] at hc
        exact .inr (by simp only [bindingCreated_append, hc, true_or])

theorem ReadBack.names_before {result : Except Failure State} (h : ReadBack v w result calls x)
    (hx : Names x.store.records v b) : Names w.store.records v b := by
  cases h with
  | unloaded _ hu => exact hu.records_eq ▸ hx
  | loaded hp hu h =>
    rcases h.names_before hx with hnamed | hid
    · exact hu.records_eq ▸ hnamed
    · exact hp.names hid

theorem Deleted.names_before {result : Except Failure Bool} (h : Deleted v w result calls x)
    (hx : Names x.store.records v b) : Names w.store.records v b := by
  cases h with
  | unmanaged _ hu | unread _ hu | unremoved _ _ hu | unreset _ _ _ hu | unforgotten _ _ _ _ hu =>
    exact hu.records_eq ▸ hx
  | forgotten _ _ _ hu =>
    rw [Names, hu.records_eq, recordedBinding?_erase, if_pos rfl] at hx
    cases hx

theorem Created.names_of_ok (h : Created d w (.ok s) calls x) (hs : s.bindingId = .str b) :
    Names x.store.records d.vpcId b := by
  cases h with
  | applied _ _ _ _ _ h => rw [Names, h.recordedBinding?_of_ok, ← h.kept.2, hs, Json.finite_str]

theorem Updated.names_of_ok {changes : Changes} (h : Updated v changes w (.ok s) calls x)
    (hs : s.bindingId = .str b) : Names x.store.records v b := by
  cases h with
  | applied _ _ _ _ _ h => rw [Names, h.recordedBinding?_of_ok, ← h.kept.2, hs, Json.finite_str]

theorem ReadBack.names_of_ok (h : ReadBack v w (.ok s) calls x) (hs : s.bindingId = .str b) :
    Names x.store.records v b := by
  cases h with
  | loaded hp hu h =>
    have hb := h.kept.2.symm.trans hs
    have hnamed := hp.names hb
    rw [Names, ← hu.records_eq, ← Json.finite_str, ← hb] at hnamed
    rw [Names, h.recordedBinding?_of_ok hnamed, hb, Json.finite_str]

/-! ## Which binding an operation removes -/

/-- A change removes no binding but the recorded one and the one that it
created. -/
theorem Updated.recorded_or_created {changes : Changes} {result : Except Failure State}
    (h : Updated v changes w result calls x) (hs : RemovalSent calls v j) :
    recordedBinding? w.store.records v = some j ∨ BindingCreated calls v j := by
  have prepared : ∀ {d p r before}, Started v changes w d p → Prepared p d r before →
      RemovalSent before v j → recordedBinding? w.store.records v = some j := by
    intro d p r before hstart ht hs
    obtain ⟨hj, hgiven⟩ := ht.eq_of_removalSent hs
    exact hstart.loads.recordedBinding?_of_given hj hgiven
  have created : ∀ {d p t before r calls}, Started v changes w d p →
      Prepared p d (.ok t) before → Applied d t.created r calls → RemovalSent calls v j →
      BindingCreated before v j := by
    intro d p t before r calls hstart ht hf hs
    obtain ⟨rfl, hgiven⟩ := hf.eq_of_removalSent hs
    rcases ht.created_cases with hnull | hc
    · rw [hnull] at hgiven
      cases hgiven
    · rwa [hstart.vpcId_eq] at hc
  have replaced : ∀ {d p t before r calls}, Started v changes w d p →
      Prepared p d (.ok t) before → GivenUp (.str v) t.replaced r calls →
      RemovalSent calls v j → recordedBinding? w.store.records v = some j := by
    intro d p t before r calls hstart ht hr hs
    obtain ⟨hj, hgiven⟩ := hr.eq_of_removalSent hs
    rcases ht.replaced_cases with hnull | hp
    · rw [hnull] at hgiven
      cases hgiven
    · rw [hp] at hj hgiven
      exact hstart.loads.recordedBinding?_of_given hj hgiven
  cases h with
  | unfit | violating | unloaded => exact absurd hs not_removalSent_nil
  | unprepared hstart hf => exact .inl (prepared hstart hf hs)
  | unapplied hstart ht hf =>
    rcases removalSent_append.1 hs with hs | hs
    · exact .inl (prepared hstart ht hs)
    · exact .inr (bindingCreated_append.2 (.inl (created hstart ht hf hs)))
  | unreplaced hstart ht ha hf =>
    rcases removalSent_append.1 hs with hs | hs
    · exact .inl (prepared hstart ht (hs.of_append ha.not_removalSent))
    · exact .inl (replaced hstart ht hf hs)
  | applied hstart ht ha hr hu h =>
    have hs := hs.of_append (inert_of_isReading h.isReading).2.1
    rcases removalSent_append.1 hs with hs | hs
    · exact .inl (prepared hstart ht (hs.of_append ha.not_removalSent))
    · exact .inl (replaced hstart ht hr hs)

theorem ReadBack.not_removalSent {result : Except Failure State}
    (h : ReadBack v w result calls x) : ¬ RemovalSent calls v j := by
  cases h with
  | unloaded => exact not_removalSent_nil
  | loaded _ _ h => exact (inert_of_isReading h.isReading).2.1

theorem Removed.eq_of_removalSent {k : Json} {result : Except Failure Unit}
    (h : Removed v k result calls) (hs : RemovalSent calls v j) :
    j = k ∧ k.isGiven = true := by
  cases h with
  | spared => exact absurd hs not_removalSent_nil
  | sent hk hsettles =>
    obtain ⟨reply, rfl⟩ := hsettles.mem
    obtain ⟨answer, hmem⟩ := hs
    cases List.mem_singleton.1 hmem
    exact ⟨rfl, hk⟩

/-- A deletion removes no binding but the recorded one. -/
theorem Deleted.recorded {result : Except Failure Bool} (h : Deleted v w result calls x)
    (hs : RemovalSent calls v j) : recordedBinding? w.store.records v = some j := by
  have removed : ∀ {p r calls}, Loads w.store.records v p → Removed v p.bindingId r calls →
      RemovalSent calls v j → recordedBinding? w.store.records v = some j := by
    intro p r calls hp hr hs
    obtain ⟨hj, hgiven⟩ := hr.eq_of_removalSent hs
    exact hp.recordedBinding?_of_given hj hgiven
  have reset : ∀ {r more}, Reset v r more → ¬ RemovalSent more v j := by
    rintro r more hreset ⟨reply, hmem⟩
    obtain ⟨answer, rfl⟩ := hreset.mem
    cases List.mem_singleton.1 hmem
  cases h with
  | unmanaged | unread => exact absurd hs not_removalSent_nil
  | unremoved hp hf => exact removed hp hf hs
  | unreset hp hr hreset | unforgotten hp hr hreset | forgotten hp hr hreset =>
    exact removed hp hr (hs.of_append (reset hreset))

/-! ## Which binding an operation abandons -/

/-- A creation that leaves a binding named did not send its removal, unless
the binding was named before and created a second time. -/
theorem Created.named_and_created {result : Except Failure State}
    (h : Created d w result calls x) (hs : RemovalSent calls d.vpcId (.str b))
    (hx : Names x.store.records d.vpcId b) :
    Names w.store.records d.vpcId b ∧ BindingCreated calls d.vpcId (.str b) := by
  refine ⟨?_, h.bindingCreated_of_removalSent hs⟩
  cases h with
  | violating => exact hx
  | unopened _ _ hu | unapplied _ _ _ hu | unrealized _ _ _ _ hu => exact hu.records_eq ▸ hx
  | applied _ hb ha _ _ h =>
    have hs := hs.of_append (inert_of_isReading h.isReading).2.1
    exact absurd hs (hb.not_removalSent_of_applied ha)

/-- A change that succeeds and leaves a binding named did not send its
removal, unless the binding was named before and created a second
time. -/
theorem Updated.named_and_created {changes : Changes} (h : Updated v changes w (.ok s) calls x)
    (hs : RemovalSent calls v (.str b)) (hx : Names x.store.records v b) :
    Names w.store.records v b ∧ BindingCreated calls v (.str b) := by
  cases h with
  | applied hstart ht ha hr hu h =>
    have hid := h.recordedBinding?_of_ok.symm.trans hx
    rw [State.changed_bindingId] at hid
    have hid := Json.eq_str_of_finite (Option.some.inj hid)
    have hs := hs.of_append (inert_of_isReading h.isReading).2.1
    obtain ⟨hunsent, hreplaced⟩ := ht.inert_of_id (by rw [hid]; exact fun h => by cases h)
    -- Only the binding that was replaced can have been removed.
    have hs := (removalSent_append.1 hs).resolve_left fun hs =>
      (removalSent_append.1 hs).elim hunsent ha.not_removalSent
    obtain ⟨hb, hgiven⟩ := hr.eq_of_removalSent hs
    rcases hreplaced with hnull | ⟨hp, hc⟩
    · rw [hnull] at hgiven
      cases hgiven
    · rw [hid, hstart.vpcId_eq] at hc
      exact ⟨hstart.loads.names (hp ▸ hb.symm),
        by simp only [bindingCreated_append, hc, true_or]⟩

/-- A deletion that succeeds leaves no binding named whose removal was
sent. -/
theorem Deleted.not_names {done : Bool} (h : Deleted v w (.ok done) calls x)
    (hs : RemovalSent calls v j) : ¬ Names x.store.records v b := by
  cases h with
  | unmanaged => exact absurd hs not_removalSent_nil
  | forgotten _ _ _ hu =>
    rw [Names, hu.records_eq, recordedBinding?_erase, if_pos rfl]
    exact fun h => by cases h

/-! ## Visits -/

/-- The operations that manage the configuration of a VPC. -/
inductive Manages (v : String) : Operation → Prop
  | create (d : Desired) (h : d.vpcId = v) : Manages v (.createDns d)
  | update (c : Changes) : Manages v (.updateDns (.str v) c)
  | read : Manages v (.readDns (.str v))
  | delete : Manages v (.deleteDns (.str v))

/-- The removal of a binding of a VPC was sent and answered. -/
def RemovalAnswered (calls : List Exchange) (v : String) (j : Json) : Prop :=
  ∃ body, (Call.deleteBinding (.str v) j, Reply.ok body) ∈ calls

theorem RemovalAnswered.sent (h : RemovalAnswered calls v j) : RemovalSent calls v j := by
  obtain ⟨body, h⟩ := h
  exact ⟨_, h⟩

@[simp] theorem removalAnswered_append :
    RemovalAnswered (calls ++ more) v j ↔
      RemovalAnswered calls v j ∨ RemovalAnswered more v j := by
  simp only [RemovalAnswered, List.mem_append, exists_or]

/-- **A visit abandons a binding**: it is a change or a deletion that fails
after the removal of the binding was answered, and leaves the binding in
the record. -/
def Abandons (x : Visit) (v b : String) : Prop :=
  ((∃ c, x.operation = .updateDns (.str v) c) ∨ x.operation = .deleteDns (.str v)) ∧
    (∃ f, x.outcome.result = .error f) ∧ RemovalAnswered x.outcome.calls v (.str b) ∧
    Names x.outcome.world.store.records v b

/-- **How an operation that manages the configuration of a VPC ends**: as
the action does that it stands for. -/
inductive Managed (v : String) (w : World) :
    Operation → Except Failure Json → List Exchange → World → Prop
  /-- A configuration is created. -/
  | create {d : Desired} {result : Except Failure State} {calls : List Exchange} {x : World}
      (hv : d.vpcId = v) (h : Created d w result calls x) :
      Managed v w (.createDns d) (result.map State.toJson) calls x
  /-- It is changed. -/
  | update {c : Changes} {result : Except Failure State} {calls : List Exchange} {x : World}
      (h : Updated v c w result calls x) :
      Managed v w (.updateDns (.str v) c) (result.map State.toJson) calls x
  /-- It is read back. -/
  | read {result : Except Failure State} {calls : List Exchange} {x : World}
      (h : ReadBack v w result calls x) :
      Managed v w (.readDns (.str v)) (result.map State.toJson) calls x
  /-- It is deleted. -/
  | delete {result : Except Failure Bool} {calls : List Exchange} {x : World}
      (h : Deleted v w result calls x) :
      Managed v w (.deleteDns (.str v)) (result.map Json.bool) calls x

theorem managed (hop : Manages v op) (w : World) :
    Managed v w op (op.run w).result (op.run w).calls (op.run w).world := by
  cases hop with
  | create d hv =>
    rw [Operation.run, Operation.one_apply]
    exact .create hv (created d w)
  | update c =>
    rw [Operation.run, Operation.one_apply]
    exact .update (updated v c w)
  | read =>
    rw [Operation.run, Operation.one_apply]
    exact .read (readBack v w)
  | delete =>
    rw [Operation.run, Operation.one_apply]
    exact .delete (deleted v w)

/-- The binding in an answer is the binding of its state. -/
theorem State.find_bindingId (s : State) :
    s.toJson.find "dns_resolution_binding_id" = .ok s.bindingId := rfl

namespace Managed

variable {result : Except Failure Json}

/-- An operation leaves named what was named before or what it created. -/
theorem names_before (h : Managed v w op result calls x) (hx : Names x.store.records v b) :
    Names w.store.records v b ∨ BindingCreated calls v (.str b) := by
  cases h with
  | create hv h => subst hv; exact h.names_before hx
  | update h => exact h.names_before hx
  | read h => exact .inl (h.names_before hx)
  | delete h => exact .inl (h.names_before hx)

/-- An operation removes what was recorded before or what it created. -/
theorem recorded_or_created (h : Managed v w op result calls x) (hs : RemovalSent calls v j) :
    recordedBinding? w.store.records v = some j ∨ BindingCreated calls v j := by
  cases h with
  | create hv h => subst hv; exact .inr (h.bindingCreated_of_removalSent hs)
  | update h => exact h.recorded_or_created hs
  | read h => exact absurd hs h.not_removalSent
  | delete h => exact .inl (h.recorded hs)

/-- What removes a binding and leaves it named is a change or a deletion,
and fails. -/
theorem failed_of_removed_and_named (h : Managed v w op result calls x)
    (hs : RemovalSent calls v (.str b)) (hx : Names x.store.records v b)
    (hfresh : ¬ (Names w.store.records v b ∧ BindingCreated calls v (.str b))) :
    ((∃ c, op = .updateDns (.str v) c) ∨ op = .deleteDns (.str v)) ∧
      ∃ f, result = .error f := by
  cases h with
  | create hv h => subst hv; exact absurd (h.named_and_created hs hx) hfresh
  | @update _ result _ _ h =>
    refine ⟨.inl ⟨_, rfl⟩, ?_⟩
    cases result with
    | error f => exact ⟨f, rfl⟩
    | ok s => exact absurd (h.named_and_created hs hx) hfresh
  | read h => exact absurd hs h.not_removalSent
  | @delete result _ _ h =>
    refine ⟨.inr rfl, ?_⟩
    cases result with
    | error f => exact ⟨f, rfl⟩
    | ok done => exact absurd hx (h.not_names hs)

/-- **The binding in an answer is the one that is recorded.** -/
theorem names_of_answer (h : Managed v w op (.ok j) calls x)
    (hj : j.find "dns_resolution_binding_id" = .ok (.str b)) : Names x.store.records v b := by
  have binding : ∀ {r : Except Failure State}, r.map State.toJson = .ok j →
      ∃ s, r = .ok s ∧ s.bindingId = .str b := by
    intro r hr
    obtain ⟨s, rfl, rfl⟩ := map_eq_ok_iff.1 hr
    rw [State.find_bindingId] at hj
    exact ⟨s, rfl, Except.ok.inj hj⟩
  -- The answer is the image of a result, and not yet known to be one.
  generalize hr : (Except.ok j : Except Failure Json) = r at h
  cases h with
  | create hv h =>
    subst hv
    obtain ⟨s, rfl, hid⟩ := binding hr.symm
    exact h.names_of_ok hid
  | update h =>
    obtain ⟨s, rfl, hid⟩ := binding hr.symm
    exact h.names_of_ok hid
  | read h =>
    obtain ⟨s, rfl, hid⟩ := binding hr.symm
    exact h.names_of_ok hid
  | delete =>
    obtain ⟨done, -, rfl⟩ := map_eq_ok_iff.1 hr.symm
    cases hj

end Managed

/-! ## Histories -/

/-- What was created is among the identifiers of what was created. -/
theorem BindingCreated.mem_boundIds (h : BindingCreated calls v (.str b)) : b ∈ boundIds calls := by
  obtain ⟨hub, name, body, hmem, hid⟩ := h
  exact List.mem_filterMap.2 ⟨_, hmem, by simp only [boundId?, hid]⟩

/-- A binding that is named after a history, in which it was not created,
was named before it. -/
theorem names_of_names_after {turns : List Turn} (hops : ∀ t ∈ turns, Manages v t.operation)
    (hc : b ∉ boundIds (callsOf (visits w turns)))
    (h : Names (worldAfter w turns).store.records v b) : Names w.store.records v b := by
  induction turns generalizing w with
  | nil => exact h
  | cons t rest ih =>
    simp only [visits, callsOf_cons, boundIds_append, List.mem_append, not_or] at hc
    have hlater := ih (fun u hu => hops u (List.mem_cons_of_mem _ hu)) hc.2 h
    rcases (managed (hops t List.mem_cons_self) _).names_before hlater with hnamed | hcreated
    · exact hnamed
    · exact absurd hcreated.mem_boundIds hc.1

/-- A binding that was removed in a history and is named after it was
abandoned by a visit, if it was created at most once and not at all when
it was named before. -/
theorem abandoned_of_removed_and_named {turns : List Turn}
    (hops : ∀ t ∈ turns, Manages v t.operation)
    (hfresh : (boundIds (callsOf (visits w turns))).Nodup)
    (hnew : Names w.store.records v b → b ∉ boundIds (callsOf (visits w turns)))
    (hremoved : RemovalAnswered (callsOf (visits w turns)) v (.str b))
    (hnamed : Names (worldAfter w turns).store.records v b) :
    ∃ x ∈ visits w turns, Abandons x v b := by
  induction turns generalizing w with
  | nil =>
    obtain ⟨body, hmem⟩ := hremoved
    cases hmem
  | cons t rest ih =>
    have hvisit := managed (hops t List.mem_cons_self) (t.opening w)
    have hrest : ∀ u ∈ rest, Manages v u.operation := fun u hu => hops u (List.mem_cons_of_mem _ hu)
    simp only [visits, callsOf_cons, boundIds_append, List.nodup_append, List.mem_append,
      not_or, removalAnswered_append] at hfresh hnew hremoved ⊢
    obtain ⟨-, hfreshRest, hdisjoint⟩ := hfresh
    -- What is named or created in the first turn is not created later on.
    have later : Names w.store.records v b ∨
        BindingCreated (t.visit w).outcome.calls v (.str b) →
        b ∉ boundIds (callsOf (visits (t.visit w).outcome.world rest)) := by
      rintro (hb | hb) hmem
      · exact (hnew hb).2 hmem
      · exact hdisjoint b hb.mem_boundIds b hmem rfl
    -- The last turn that removes the binding is the one that abandons it.
    by_cases hrestRemoved : RemovalAnswered (callsOf (visits (t.visit w).outcome.world rest)) v
        (.str b)
    · obtain ⟨x, hx, habandons⟩ := ih hrest hfreshRest
        (fun h => later (hvisit.names_before h)) hrestRemoved hnamed
      exact ⟨x, List.mem_cons_of_mem _ hx, habandons⟩
    · have hfirst := hremoved.resolve_right hrestRemoved
      have hnow : Names (t.visit w).outcome.world.store.records v b :=
        names_of_names_after hrest (later (hvisit.recorded_or_created hfirst.sent)) hnamed
      obtain ⟨hkind, hfailed⟩ := hvisit.failed_of_removed_and_named hfirst.sent hnow
        fun h => (hnew h.1).1 h.2.mem_boundIds
      exact ⟨t.visit w, List.mem_cons_self, hkind, hfailed, hfirst, hnow⟩

/-- **An answer names a removed binding exactly if an earlier visit
abandoned it.** The history starts without a record of the VPC, and no
two bindings that are created in it have one identifier. -/
theorem stale_answer_iff {turns : List Turn} {last : Turn}
    (hops : ∀ t ∈ turns ++ [last], Manages v t.operation)
    (hstart : w.store.records.get? (keyOf v) = none)
    (hfresh : (boundIds (callsOf (visits w (turns ++ [last])))).Nodup)
    (hr : (last.visit (worldAfter w turns)).outcome.result = .ok j)
    (hj : j.find "dns_resolution_binding_id" = .ok (.str b)) :
    RemovalAnswered (callsOf (visits w (turns ++ [last]))) v (.str b) ↔
      ∃ x ∈ visits w turns, Abandons x v b := by
  have hlast := hops last (List.mem_append_right _ List.mem_cons_self)
  have hnamed : Names (worldAfter w (turns ++ [last])).store.records v b := by
    rw [worldAfter_append]
    have hok : (last.operation.run (last.opening (worldAfter w turns))).result = .ok j := hr
    have hvisit := managed hlast (last.opening (worldAfter w turns))
    rw [hok] at hvisit
    exact hvisit.names_of_answer hj
  constructor
  · intro hremoved
    have hnew : ¬ Names w.store.records v b := by
      rw [Names, recordedBinding?_of_absent hstart]
      exact fun h => by cases h
    obtain ⟨x, hx, habandons⟩ :=
      abandoned_of_removed_and_named hops hfresh (fun h => absurd h hnew) hremoved hnamed
    rw [visits_append] at hx
    rcases List.mem_append.1 hx with hx | hx
    · exact ⟨x, hx, habandons⟩
    -- The last visit succeeded, so it abandons nothing.
    · cases List.mem_singleton.1 hx
      obtain ⟨-, ⟨f, hf⟩, -⟩ := habandons
      cases hr.symm.trans hf
  · rintro ⟨x, hx, -, -, ⟨body, hmem⟩, -⟩
    refine ⟨body, List.mem_flatMap.2 ⟨x, ?_, hmem⟩⟩
    rw [visits_append]
    exact List.mem_append_left _ hx

/-- What the service shows of a VPC that delegates to a hub. -/
def spokeVpc : Json :=
  .obj [("dns", .obj [("enable_hub", .bool false),
    ("resolver", .obj [("type", .str "delegated"), ("vpc", .obj [("id", .str "hub-1")])])])]

/-- A page of bindings. -/
def bindingsPage (bindings : List Json) : Json := .obj [("dns_resolution_bindings", .arr bindings)]

/-- A binding as the service answers with it. -/
def boundBody : Json := .obj [("id", .str "b-1"), ("name", .str "to-hub")]

/-- A turn without faults of the table. -/
def calmTurn (operation : Operation) (replies : List Reply) : Turn :=
  ⟨operation, replies, [], ⟨1700000000, 0⟩⟩

/-- A VPC starts to delegate. -/
def starting : Turn :=
  calmTurn (.createDns delegating)
    [.ok boundBody, .ok .null, .ok spokeVpc, .ok (bindingsPage [boundBody])]

/-- To stop delegating fails at the patch, after the binding was
removed. -/
def stopping : Turn := calmTurn (.updateDns (.str "vpc-1") plain.toChanges) [.ok .null, failing]

/-- The VPC is to delegate as before. -/
def returning : Turn :=
  calmTurn (.updateDns (.str "vpc-1") delegating.toChanges)
    [.ok .null, .ok spokeVpc, .ok (bindingsPage [])]

/-- What is recorded of the VPC from the first turn on. -/
def namedSpoke : State := { spoke with bindingName := .str "to-hub" }

/-- The records from the first turn on. -/
def startedRecords : Keyed (Keyed Json) :=
  [(keyOf "vpc-1",
    Memory.record .dnsConfig (.str "vpc-1") namedSpoke.attributes ⟨1700000000, 0⟩)]

/-- The visit of a turn in a calm world. -/
def calmVisit (t : Turn) (records : Keyed (Keyed Json)) : Visit :=
  ⟨t.operation, calm records t.replies, t.operation.run (calm records t.replies)⟩

theorem stopping_visit :
    stopping.visit (starting.visit (calm [] [])).outcome.world =
      calmVisit stopping startedRecords := by
  have h : stopping.opening (starting.visit (calm [] [])).outcome.world =
      calm startedRecords stopping.replies := rfl
  rw [Turn.visit, h, calmVisit]

theorem returning_visit :
    returning.visit (calmVisit stopping startedRecords).outcome.world =
      calmVisit returning startedRecords := by
  have h : returning.opening (calmVisit stopping startedRecords).outcome.world =
      calm startedRecords returning.replies := rfl
  rw [Turn.visit, h, calmVisit]

/-- The visits of the VPC, from a world without records on. The second one
leaves the record as it was. -/
theorem stale_visits :
    visits (calm [] []) [starting, stopping, returning] =
      [starting.visit (calm [] []), calmVisit stopping startedRecords,
        calmVisit returning startedRecords] := by
  rw [visits, visits, stopping_visit, visits, returning_visit, visits]

/-- All calls of the visits: the second removes the binding, and the third
creates none. -/
theorem stale_calls :
    callsOf (visits (calm [] []) [starting, stopping, returning]) =
      [(delegating.bindingCall, .ok boundBody), (delegating.patchCall, .ok .null),
        (.getVpc (.str "vpc-1"), .ok spokeVpc),
        (.list (bindingsOf "vpc-1") none (.int 50), .ok (bindingsPage [boundBody])),
        (.deleteBinding (.str "vpc-1") (.str "b-1"), .ok .null), (plain.patchCall, failing),
        (delegating.patchCall, .ok .null), (.getVpc (.str "vpc-1"), .ok spokeVpc),
        (.list (bindingsOf "vpc-1") none (.int 50), .ok (bindingsPage []))] := by
  rw [stale_visits]
  rfl

theorem stale_result :
    (returning.visit (worldAfter (calm [] []) [starting, stopping])).outcome.result =
      .ok namedSpoke.toJson := by
  rw [worldAfter, worldAfter, stopping_visit, worldAfter, returning_visit]
  rfl

theorem stale_manages :
    ∀ t ∈ [starting, stopping] ++ [returning], Manages "vpc-1" t.operation := by
  intro t ht
  simp only [List.cons_append, List.nil_append, List.mem_cons, List.not_mem_nil, or_false] at ht
  rcases ht with rfl | rfl | rfl
  · exact .create delegating rfl
  · exact .update plain.toChanges
  · exact .update delegating.toChanges

theorem stale_nodup :
    (boundIds (callsOf (visits (calm [] []) [starting, stopping, returning]))).Nodup := by
  rw [stale_calls]
  exact List.nodup_cons.2 ⟨List.not_mem_nil, List.nodup_nil⟩

theorem stale_answer_iff_returning :
    RemovalAnswered (callsOf (visits (calm [] []) [starting, stopping, returning])) "vpc-1"
        (.str "b-1") ↔
      ∃ x ∈ visits (calm [] []) [starting, stopping], Abandons x "vpc-1" "b-1" :=
  stale_answer_iff stale_manages rfl stale_nodup stale_result rfl

/-- **An answer can name a removed binding**: it says that the VPC
delegates through a binding whose removal was answered before. The history
starts without records, identifiers are fresh and no connection fails. -/
theorem stale_answer_returning :
    (∀ t ∈ [starting, stopping, returning], Manages "vpc-1" t.operation) ∧
      (boundIds (callsOf (visits (calm [] []) [starting, stopping, returning]))).Nodup ∧
      (∀ e ∈ callsOf (visits (calm [] []) [starting, stopping, returning]),
        ∀ reason, e.2 ≠ .disconnected reason) ∧
      (returning.visit (worldAfter (calm [] []) [starting, stopping])).outcome.result =
        .ok namedSpoke.toJson ∧
      namedSpoke.toJson.find "resolver_type" = .ok (.str "delegated") ∧
      namedSpoke.toJson.find "dns_resolution_binding_id" = .ok (.str "b-1") ∧
      RemovalAnswered (callsOf (visits (calm [] []) [starting, stopping])) "vpc-1"
        (.str "b-1") := by
  refine ⟨stale_manages, stale_nodup, ?_, stale_result, rfl, rfl, .null, ?_⟩
  · rw [stale_calls]
    simp [failing]
  · rw [visits, visits, stopping_visit, visits]
    exact List.mem_append_right _ (List.mem_cons_self)

end Dns

end NetSteward
