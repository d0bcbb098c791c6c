import NetSteward.Proofs.Deletion
/-!
# Taking a configuration down

The deletion of a recorded configuration follows a plan: its binding is
removed, if it has one, and then the VPC is reset. Every attempt makes a
first part of the planned calls, turns to the VPC only once the binding is
gone, and drops the record exactly if the VPC is reset. An attempt that
fails leaves the records as they are. The main result adds what follows for
attempts that are repeated: each one follows the same plan, and the first
one whose calls are all settled completes it.
-/

namespace NetSteward

open Remote (Call Exchange Refusal Reply)

/-- **A reply with which a deletion goes on.** -/
inductive Remote.Reply.IsSettling : Reply → Prop
  | answered (body : Json) : IsSettling (.ok body)
  /-- There is nothing left to delete. -/
  | missing {refusal : Refusal} (h : refusal.isNotFound = true) : IsSettling (.refused refusal)

theorem Remote.Reply.IsSettling.not_disconnected {reason : String} :
    ¬ IsSettling (.disconnected reason) := fun h => by cases h

theorem Remote.Reply.IsSettling.isNotFound {refusal : Refusal} (h : IsSettling (.refused refusal)) :
    refusal.isNotFound = true := by
  cases h with
  | missing h => exact h

namespace Dns

variable {v : String} {w x : World} {p : State} {k : Json} {calls more : List Exchange}

/-! ## The plan -/

/-- The deletion of the configuration of a VPC. -/
abbrev deletionOf (v : String) : Operation := .deleteDns (.str v)

/-- The call that resets a VPC to the system's resolver. -/
abbrev resetCall (v : String) : Call := .patchVpc (.str v) systemPatch

/-- **The calls that delete a configuration**, in order. -/
def State.teardown (p : State) (v : String) : List Call :=
  removalOf v p.bindingId ++ [resetCall v]

/-- The VPC was reset, or is no longer there. -/
def ResetSettled (v : String) (calls : List Exchange) : Prop :=
  ∃ reply, reply.IsSettling ∧ (resetCall v, reply) ∈ calls

/-- **How an attempt to delete a recorded configuration ends.** -/
structure Attempted (v : String) (p : State) (before : Keyed (Keyed Json))
    (result : Except Failure Json) (calls : List Exchange) (after : Keyed (Keyed Json)) : Prop where
  planned : calls.map Prod.fst <+: p.teardown v
  /-- The VPC is left alone until its binding is gone. -/
  removed_first : ∀ reply, (resetCall v, reply) ∈ calls → p.bindingId.isGiven = true →
    ∃ r, r.IsSettling ∧ (Call.deleteBinding (.str v) p.bindingId, r) ∈ calls
  forgotten_iff : result = .ok (.bool true) ∧ after = before.erase (keyOf v) ↔ ResetSettled v calls
  failed : ¬ ResetSettled v calls → (∃ f, result = .error f) ∧ after = before
  completed : (∀ e ∈ calls, e.2.IsSettling) → calls.map Prod.fst = p.teardown v

/-! ## One attempt -/

/-- A call that may find nothing ends well exactly if its reply is
settling. -/
theorem Settles.calls_eq {purpose : String} {call : Call} {result : Except Failure Unit}
    (h : Settles purpose call result calls) :
    ∃ reply, calls = [(call, reply)] ∧ (result = .ok () ↔ reply.IsSettling) := by
  cases h with
  | answered => exact ⟨_, rfl, iff_of_true rfl (.answered _)⟩
  | missing h => exact ⟨_, rfl, iff_of_true rfl (.missing h)⟩
  | refused h =>
    refine ⟨_, rfl, iff_of_false (fun h => by cases h) fun hsettling => ?_⟩
    rw [hsettling.isNotFound] at h
    cases h
  | cut => exact ⟨_, rfl, iff_of_false (fun h => by cases h) Reply.IsSettling.not_disconnected⟩

theorem Removed.calls_eq {result : Except Failure Unit} (h : Removed v k result calls) :
    k.isGiven = false ∧ result = .ok () ∧ calls = [] ∨
      k.isGiven = true ∧ ∃ reply, calls = [(.deleteBinding (.str v) k, reply)] ∧
        (result = .ok () ↔ reply.IsSettling) := by
  cases h with
  | spared h => exact .inl ⟨h, rfl, rfl⟩
  | sent h hs => exact .inr ⟨h, hs.calls_eq⟩

theorem Removed.map_fst {result : Except Failure Unit} (h : Removed v k result calls) :
    calls.map Prod.fst = removalOf v k := by
  rw [removalOf]
  rcases h.calls_eq with ⟨hk, -, rfl⟩ | ⟨hk, reply, rfl, -⟩
  · rw [hk]
    rfl
  · rw [if_pos hk]
    rfl

/-- To remove a binding is not to reset the VPC. -/
theorem Removed.not_reset {result : Except Failure Unit} (h : Removed v k result calls)
    (reply : Reply) : (resetCall v, reply) ∉ calls := by
  intro hmem
  rcases h.calls_eq with ⟨-, -, rfl⟩ | ⟨-, answer, rfl, -⟩
  · cases hmem
  · cases List.mem_singleton.1 hmem

/-- A binding that could not be removed ends the attempt. -/
theorem Removed.attempted {f : Failure} {records : Keyed (Keyed Json)}
    (h : Removed v p.bindingId (.error f) calls) :
    Attempted v p records (.error f) calls records := by
  have hreset : ¬ ResetSettled v calls := fun ⟨_, _, hmem⟩ => h.not_reset _ hmem
  refine ⟨h.map_fst ▸ List.prefix_append _ _, fun reply hmem => absurd hmem (h.not_reset reply),
    iff_of_false ?_ hreset, fun _ => ⟨⟨f, rfl⟩, rfl⟩, fun hsettling => ?_⟩
  · rintro ⟨hok, -⟩
    cases hok
  · rcases h.calls_eq with ⟨-, hok, -⟩ | ⟨-, reply, rfl, hreply⟩
    · cases hok
    · cases hreply.2 (hsettling _ List.mem_cons_self)

/-- What is left of an attempt after the binding is removed depends on the
reply to the reset. -/
theorem Removed.attempted_of_reset {reply : Reply} {result : Except Failure Json}
    {before after : Keyed (Keyed Json)} (h : Removed v p.bindingId (.ok ()) calls)
    (hdone : reply.IsSettling → result = .ok (.bool true) ∧ after = before.erase (keyOf v))
    (hfailed : ¬ reply.IsSettling → (∃ f, result = .error f) ∧ after = before) :
    Attempted v p before result (calls ++ [(resetCall v, reply)]) after := by
  have hreset : ResetSettled v (calls ++ [(resetCall v, reply)]) ↔ reply.IsSettling := by
    constructor
    · rintro ⟨r, hr, hmem⟩
      rcases List.mem_append.1 hmem with hmem | hmem
      · exact absurd hmem (h.not_reset r)
      · cases List.mem_singleton.1 hmem
        exact hr
    · exact fun hr => ⟨reply, hr, List.mem_append_right _ (List.mem_singleton.2 rfl)⟩
  have hplan : (calls ++ [(resetCall v, reply)]).map Prod.fst = p.teardown v := by
    rw [List.map_append, h.map_fst]
    rfl
  refine ⟨hplan ▸ List.prefix_rfl, fun _ _ hgiven => ?_, ⟨fun hresult => hreset.2 ?_,
    fun hr => hdone (hreset.1 hr)⟩, fun hr => hfailed (mt hreset.2 hr), fun _ => hplan⟩
  · rcases h.calls_eq with ⟨hspared, -, -⟩ | ⟨-, r, rfl, hr⟩
    · rw [hgiven] at hspared
      cases hspared
    · exact ⟨r, hr.1 rfl, List.mem_cons_self⟩
  · refine Classical.byContradiction fun hr => ?_
    obtain ⟨⟨f, hf⟩, -⟩ := hfailed hr
    rw [hf] at hresult
    cases hresult.1

/-- **Every attempt follows the plan**, and drops the record only at its
end. -/
theorem Deleted.attempted {result : Except Failure Bool} (h : Deleted v w result calls x)
    (hp : Loads w.store.records v p) (hfaults : w.store.faults = []) :
    Attempted v p w.store.records (result.map .bool) calls x.store.records := by
  cases h with
  | unmanaged h =>
    obtain ⟨record, hrecord, -⟩ := hp
    rw [hrecord] at h
    cases h
  | unread hf =>
    cases hf with
    | unfit h hc =>
      obtain ⟨record, hrecord, hread⟩ := hp
      cases hrecord.symm.trans h
      cases hread.symm.trans hc
    | faulty h => exact absurd hfaults h
  | unremoved hq hf hx =>
    cases hq.unique hp
    rw [hx.records_eq]
    exact hf.attempted
  | unreset hq hr hf hx =>
    cases hq.unique hp
    obtain ⟨reply, rfl, hreply⟩ := hf.calls_eq
    refine hr.attempted_of_reset (fun hsettling => ?_) fun _ => ⟨⟨_, rfl⟩, hx.records_eq⟩
    cases hreply.2 hsettling
  | unforgotten _ _ _ hf => exact absurd hfaults hf
  | forgotten hq hr hreset hx =>
    cases hq.unique hp
    obtain ⟨reply, rfl, hreply⟩ := hreset.calls_eq
    exact hr.attempted_of_reset (fun _ => ⟨rfl, hx.records_eq⟩)
      fun hsettling => absurd (hreply.1 rfl) hsettling

theorem attempted (hp : Loads w.store.records v p) (hfaults : w.store.faults = []) :
    Attempted v p w.store.records ((deletionOf v).run w).result ((deletionOf v).run w).calls
      ((deletionOf v).run w).world.store.records := by
  rw [Operation.run, Operation.one_apply]
  exact (deleted v w).attempted hp hfaults

/-- An attempt whose calls are all settled ends with the record gone. -/
theorem Attempted.gone {before after : Keyed (Keyed Json)} {result : Except Failure Json}
    (h : Attempted v p before result calls after) (hsettling : ∀ e ∈ calls, e.2.IsSettling) :
    result = .ok (.bool true) ∧ after = before.erase (keyOf v) := by
  refine h.forgotten_iff.2 ?_
  have hmem : resetCall v ∈ calls.map Prod.fst := by
    rw [h.completed hsettling]
    exact List.mem_append_right _ (List.mem_singleton.2 rfl)
  obtain ⟨⟨call, reply⟩, he, rfl⟩ := List.mem_map.1 hmem
  exact ⟨reply, hsettling _ he, he⟩

/-- Without a record there is nothing to do. -/
theorem Deleted.of_absent {result : Except Failure Bool} (h : Deleted v w result calls x)
    (habsent : w.store.records.get? (keyOf v) = none) (hfaults : w.store.faults = []) :
    result = .ok false ∧ calls = [] ∧ x.store.records = w.store.records := by
  have unloadable : ∀ {q}, ¬ Loads w.store.records v q := by
    rintro q ⟨record, hrecord, -⟩
    rw [habsent] at hrecord
    cases hrecord
  cases h with
  | unmanaged _ hx => exact ⟨rfl, rfl, hx.records_eq⟩
  | unread hf =>
    cases hf with
    | unfit h =>
      rw [habsent] at h
      cases h
    | faulty h => exact absurd hfaults h
  | unremoved hq | unreset hq | unforgotten hq | forgotten hq => exact absurd hq unloadable

/-- With a record that cannot be loaded nothing is done. -/
theorem Deleted.of_unloadable {result : Except Failure Bool} (h : Deleted v w result calls x)
    (hpresent : w.store.records.get? (keyOf v) ≠ none)
    (hunloadable : ∀ q, ¬ Loads w.store.records v q) :
    (∃ f, result = .error f) ∧ calls = [] ∧ x.store.records = w.store.records := by
  cases h with
  | unmanaged h => exact absurd h hpresent
  | unread _ hx => exact ⟨⟨_, rfl⟩, rfl, hx.records_eq⟩
  | unremoved hq | unreset hq | unforgotten hq | forgotten hq => exact absurd hq (hunloadable _)

/-! ## Attempts that are repeated -/

/-- **A deletion is ordered, drops its record only at the end, and can be
repeated.** Without a record it says so and does nothing, and with one that
cannot be loaded it fails and does nothing. With one that loads it is an
attempt at the plan. After any number of attempts that failed, the next one
is an attempt at the same plan, and goes through all of it as soon as all its
calls are settled, which leaves no record. -/
theorem deletion_follows_plan (v : String) (w : World) (hfaults : w.store.faults = []) :
    (w.store.records.get? (keyOf v) = none →
      ((deletionOf v).run w).result = .ok (.bool false) ∧ ((deletionOf v).run w).calls = [] ∧
        ((deletionOf v).run w).world.store.records = w.store.records) ∧
    (w.store.records.get? (keyOf v) ≠ none → (∀ q, ¬ Loads w.store.records v q) →
      (∃ f, ((deletionOf v).run w).result = .error f) ∧ ((deletionOf v).run w).calls = [] ∧
        ((deletionOf v).run w).world.store.records = w.store.records) ∧
    ∀ p, Loads w.store.records v p →
      Attempted v p w.store.records ((deletionOf v).run w).result ((deletionOf v).run w).calls
        ((deletionOf v).run w).world.store.records ∧
      ∀ (attempts : List Turn) (last : Turn),
        (∀ x ∈ visits w attempts, x.FailedAt (deletionOf v)) →
        last.operation = deletionOf v → last.faults = [] →
        let again := (last.visit (worldAfter w attempts)).outcome
        Attempted v p w.store.records again.result again.calls again.world.store.records ∧
        ((∀ e ∈ again.calls, e.2.IsSettling) →
          again.calls.map Prod.fst = p.teardown v ∧ again.result = .ok (.bool true) ∧
            again.world.store.records = w.store.records.erase (keyOf v)) := by
  refine ⟨fun habsent => ?_, fun hpresent hunloadable => ?_,
    fun p hp => ⟨attempted hp hfaults, fun attempts last hattempts hop hlast => ?_⟩⟩
  · rw [Operation.run, Operation.one_apply]
    obtain ⟨hresult, hcalls, hrecords⟩ := (deleted v w).of_absent habsent hfaults
    exact ⟨by rw [hresult]; rfl, hcalls, hrecords⟩
  · rw [Operation.run, Operation.one_apply]
    obtain ⟨⟨f, hf⟩, hcalls, hrecords⟩ := (deleted v w).of_unloadable hpresent hunloadable
    exact ⟨⟨f, by rw [hf]; rfl⟩, hcalls, hrecords⟩
  · -- The attempts that failed have left the record as it was.
    have hrecords : (last.opening (worldAfter w attempts)).store.records = w.store.records :=
      Operation.Deletes.records_worldAfter (.dnsConfig v) hattempts
    have hagain := attempted (hrecords.symm ▸ hp) hlast
    rw [hrecords] at hagain
    rw [Turn.visit, hop]
    exact ⟨hagain, fun hsettling => ⟨hagain.completed hsettling, hagain.gone hsettling⟩⟩

/-- A deletion that gets as far as the binding. -/
def interrupted : Turn := calmTurn (deletionOf "vpc-1") [.ok .null, failing]

/-- It is repeated, and there is no such binding any more. -/
def resumed : Turn := calmTurn (deletionOf "vpc-1") [.refused ⟨.int 404, "not found"⟩, .ok .null]

/-- What the repetition comes to. -/
def resumption : Outcome Json := (resumed.visit (worldAfter (spokeWorld []) [interrupted])).outcome

theorem resumption_calls :
    resumption.calls =
      [(.deleteBinding (.str "vpc-1") (.str "b-1"), .refused ⟨.int 404, "not found"⟩),
        (resetCall "vpc-1", .ok .null)] := rfl

/-- The deletion that was interrupted is completed: both calls are made once
more, and there is no record left. -/
theorem deletion_follows_plan_resumed :
    (spokeWorld []).store.faults = [] ∧ Loads (spokeWorld []).store.records "vpc-1" spoke ∧
      (∀ x ∈ visits (spokeWorld []) [interrupted], x.FailedAt (deletionOf "vpc-1")) ∧
      (∀ e ∈ resumption.calls, e.2.IsSettling) ∧
      resumption.calls.map Prod.fst = spoke.teardown "vpc-1" ∧
      resumption.result = .ok (.bool true) ∧ resumption.world.store.records = [] := by
  have hp : Loads (spokeWorld []).store.records "vpc-1" spoke := ⟨_, rfl, rfl⟩
  have hfailed : ∀ x ∈ visits (spokeWorld []) [interrupted], x.FailedAt (deletionOf "vpc-1") :=
    List.forall_mem_singleton.2 ⟨rfl, _, rfl⟩
  have hsettling : ∀ e ∈ resumption.calls, e.2.IsSettling := by
    rw [resumption_calls]
    exact List.forall_mem_cons.2 ⟨.missing rfl, List.forall_mem_singleton.2 (.answered .null)⟩
  obtain ⟨-, -, recorded⟩ := deletion_follows_plan "vpc-1" (spokeWorld []) rfl
  obtain ⟨-, repeated⟩ := recorded spoke hp
  obtain ⟨-, completed⟩ := repeated [interrupted] resumed hfailed rfl rfl
  exact ⟨rfl, hp, hfailed, hsettling, completed hsettling⟩

end Dns

end NetSteward
