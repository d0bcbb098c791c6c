import NetSteward.Proofs.Dns.Loading
/-!
# Whether the type of resolver and the binding agree

A VPC should have a binding exactly while it delegates. A change decides
what to do with the binding by the type of resolver that is recorded, and
reading back overwrites this type with what the VPC shows but keeps the
binding. So the two can drift apart before a change, and the change then
leaves the binding as it finds it. The main theorem says that this is the
only way in which a configuration that was applied with success disagrees
with its binding.
-/

namespace NetSteward

namespace Dns

open Remote (Call Exchange Reply)

variable {all calls : List Exchange} {v : String} {j : Json} {type : ResolverType}
variable {w x : World} {d : Desired} {p s : State} {op : Operation}

/-- Calls in which every binding that is shown has an identifier. -/
def Identified (calls : List Exchange) : Prop :=
  ∀ body, Shown calls body → ∃ b, b ≠ "" ∧ body.find "id" = .ok (.str b)

/-- A binding with its name, or neither. -/
def State.Paired (s : State) : Prop :=
  (s.bindingId = .null ∧ s.bindingName = .null) ∨ ∃ b, b ≠ "" ∧ s.bindingId = .str b

/-! ## States that were formed -/

theorem Showing.identified {id name : Json} (h : Showing all id name) (hall : Identified all) :
    ∃ b, b ≠ "" ∧ id = .str b := by
  obtain ⟨body, hshown, hid, -⟩ := h
  obtain ⟨b, hne, hfound⟩ := hall body hshown
  exact ⟨b, hne, Except.ok.inj (hid.symm.trans hfound)⟩

namespace State.Paired

variable (h : p.Paired)

include h

/-- A state with another name for a binding that it has. -/
theorem of_given (hid : s.bindingId = p.bindingId) (hgiven : p.bindingId.isGiven = true) :
    s.Paired := by
  rcases h with ⟨hnull, -⟩ | ⟨b, hne, hb⟩
  · rw [hnull] at hgiven
    cases hgiven
  · exact .inr ⟨b, hne, hid.trans hb⟩

theorem of_eq (hid : s.bindingId = p.bindingId) (hname : s.bindingName = p.bindingName) :
    s.Paired := by
  rw [State.Paired, hid, hname]
  exact h

theorem settled : p.settled.Paired ∧ p.settled.hasBinding = p.hasBinding := by
  obtain ⟨hid, hname⟩ | ⟨b, hne, hb⟩ := h
  · refine ⟨.inl ⟨?_, ?_⟩, ?_⟩
    · rw [State.settled, hid]; rfl
    · rw [State.settled, hname]; rfl
    · rw [State.hasBinding, State.hasBinding, State.settled, hid]; rfl
  · refine ⟨.inr ⟨b, hne, ?_⟩, ?_⟩
    · rw [State.settled, hb]; rfl
    · rw [State.hasBinding, State.hasBinding, State.settled, hb]; rfl

end State.Paired

/-- **A state that was formed has a binding with an identifier or none**,
and a name only with a binding. -/
theorem Formed.paired (h : Formed all s) (hall : Identified all) : s.Paired := by
  induction h with
  | blank => exact .inl ⟨rfl, rfl⟩
  | realized hb hsub hs =>
    obtain ⟨-, hid, hname⟩ := Desired.kept_of_realized hs
    rcases hb.null_or_showing hsub with rfl | hshown
    · exact .inl ⟨hid, hname⟩
    · obtain ⟨b, hne, hb⟩ := hshown.identified hall
      exact .inr ⟨b, hne, hid.trans hb⟩
  | changed _ ht hsub ih =>
    rcases ht.binding_cases hsub with hnull | ⟨hid, hname | ⟨hgiven, -⟩⟩ | hshown
    · exact .inl hnull
    · exact ih.of_eq hid hname
    · exact ih.of_given hid hgiven
    · exact .inr (hshown.identified hall)
  | overlaid _ _ hs ih =>
    obtain ⟨-, -, hname, hid⟩ := State.kept_of_overlaid hs
    exact ih.of_eq hid hname
  | named _ hs hsub ih =>
    rcases hs.eq_or_showing hsub with rfl | ⟨hgiven, body, name, -, -, rfl⟩
    · exact ih
    · exact ih.of_given rfl hgiven
  | adopted _ hlisted hsub hs ih =>
    rcases State.eq_of_adoptFrom hs with rfl | ⟨binding, hmem, id, name, hid, hname, rfl⟩
    · exact ih
    · have hshown : Showing all id name :=
        ⟨binding, shown_of_listed hlisted hsub hmem, hid, hname⟩
      exact .inr (hshown.identified hall)
  | loaded _ hp ih =>
    obtain ⟨-, n, -, rfl⟩ := State.check_toJson_eq_ok_iff.1 hp
    exact ih.settled.1.of_eq rfl rfl

/-! ## Agreement -/

/-- **A state agrees with a type of resolver**: it has a binding exactly if
the type is delegated, and else no name of one either. -/
structure Agrees (type : ResolverType) (state : Json) : Prop where
  binding : (∃ b, b ≠ "" ∧ state.find "dns_resolution_binding_id" = .ok (.str b)) ↔
    type = .delegated
  name : type ≠ .delegated → state.find "dns_binding_name" = .ok .null

/-- The attributes that are recorded of a VPC, if there is a record. -/
def recordedAttributes? (records : Keyed (Keyed Json)) (v : String) : Option Json :=
  (records.get? (keyOf v)).bind fun record => Keyed.get? record Store.attributesAttribute

theorem State.Paired.agrees_iff (h : s.Paired) :
    Agrees type s.toJson ↔ (s.hasBinding = true ↔ type = .delegated) := by
  have hid : s.toJson.find "dns_resolution_binding_id" = .ok s.bindingId := rfl
  have hname : s.toJson.find "dns_binding_name" = .ok s.bindingName := rfl
  have hgiven : (∃ b, b ≠ "" ∧ s.toJson.find "dns_resolution_binding_id" = .ok (.str b)) ↔
      s.hasBinding = true := by
    rw [hid, State.hasBinding]
    rcases h with ⟨hnull, -⟩ | ⟨b, hne, hb⟩
    · rw [hnull]
      exact iff_of_false (fun ⟨b, _, hb⟩ => by cases hb) (by decide)
    · rw [hb, Json.isGiven_str]
      exact ⟨fun _ => hne, fun _ => ⟨b, hne, rfl⟩⟩
  constructor
  · intro hagrees
    rw [← hgiven]
    exact hagrees.binding
  · intro hiff
    refine ⟨hgiven.trans hiff, fun htype => ?_⟩
    -- Without a binding there is no name of one.
    rcases h with ⟨-, hnull⟩ | ⟨b, hne, hb⟩
    · rw [hname, hnull]
    · refine absurd (hiff.1 ?_) htype
      rw [State.hasBinding, hb, Json.isGiven_str]
      exact hne

/-- What is answered and what is recorded agree alike. -/
theorem State.Paired.agrees_attributes_iff (h : s.Paired) :
    Agrees type s.attributes ↔ Agrees type s.toJson := by
  rw [State.attributes, h.settled.1.agrees_iff, h.settled.2, h.agrees_iff]

/-! ## Drift -/

/-- **A recorded state has drifted** with respect to a change that leaves
its binding alone. -/
inductive Drifted (p : State) (d : Desired) : Prop
  /-- It does not delegate and is not to, but names a binding. -/
  | clinging (hd : d.resolverType ≠ .delegated) (hp : p.isDelegated = false)
      (hb : p.hasBinding = true) : Drifted p d
  /-- It delegates and is to delegate to the same VPC, but names no
  binding. -/
  | bereft (hd : d.resolverType = .delegated) (he : enters p d = false)
      (hb : p.hasBinding = false) : Drifted p d

/-- A VPC that does not leave delegation, and is not to delegate, did not
delegate. -/
theorem isDelegated_of_leaves (h : leaves p d = false) (hd : d.resolverType ≠ .delegated) :
    p.isDelegated = false := by
  cases hp : p.isDelegated with
  | false => rfl
  | true =>
    have htype : p.resolverType = .str "delegated" := (Json.isStr_iff _ _).1 hp
    rw [leaves, hp, typeChanged, htype, Bool.and_true, Bool.not_eq_false', Json.isStr_iff] at h
    cases ht : d.resolverType with
    | delegated => exact absurd ht hd
    | system | manual =>
      rw [ht] at h
      exact absurd (Json.str.inj h) (by decide)

/-- A state that does not delegate has drifted if it names a binding. -/
theorem drifted_iff_of_plain (hd : d.resolverType ≠ .delegated) (hp : p.isDelegated = false) :
    Drifted p d ↔ p.hasBinding = true := by
  refine ⟨fun h => ?_, .clinging hd hp⟩
  cases h with
  | clinging _ _ hb => exact hb
  | bereft hdelegated => exact absurd hdelegated hd

/-- A state that goes on to delegate has drifted if it names no binding. -/
theorem drifted_iff_of_delegated (hd : d.resolverType = .delegated) (he : enters p d = false) :
    Drifted p d ↔ p.hasBinding = false := by
  refine ⟨fun h => ?_, .bereft hd he⟩
  cases h with
  | clinging hplain => exact absurd hd hplain
  | bereft _ _ hb => exact hb

/-- A change that gives up or creates a binding leaves nothing as it was. -/
theorem not_drifted (h : leaves p d = true ∨ d.resolverType = .delegated ∧ enters p d = true) :
    ¬ Drifted p d := by
  intro hdrift
  cases hdrift with
  | clinging hd hp =>
    rcases h with h | ⟨hdelegated, -⟩
    · rw [leaves, hp, Bool.and_false] at h
      cases h
    · exact hd hdelegated
  | bereft hd he =>
    rcases h with h | ⟨-, hentered⟩
    · exact ne_delegated_of_leaves h hd
    · rw [he] at hentered
      cases hentered

/-- **A change goes on with a binding exactly if it is to delegate**, unless
the state has drifted. -/
theorem Prepared.given_iff {t : Transition} (h : Prepared p d (.ok t) calls) (hsub : calls ⊆ all)
    (hall : Identified all) :
    (t.id.isGiven = true ↔ d.resolverType = .delegated) ↔ ¬ Drifted p d := by
  cases h with
  | left h =>
    exact iff_of_true (iff_of_false (by decide) (ne_delegated_of_leaves h)) (not_drifted (.inl h))
  | kept h hkept =>
    -- The binding stays as it is, so it is the recorded one that counts.
    by_cases hd : d.resolverType = .delegated
    · rw [drifted_iff_of_delegated hd (hkept hd).1, Bool.not_eq_false, State.hasBinding]
      exact iff_true_right hd
    · rw [drifted_iff_of_plain hd (isDelegated_of_leaves h hd), State.hasBinding]
      exact iff_false_right hd
  | entered hd he hb =>
    obtain ⟨id, hne, hid⟩ := (hb.showing hsub).identified hall
    refine iff_of_true (iff_of_true ?_ hd) (not_drifted (.inr ⟨hd, he⟩))
    rw [hid, Json.isGiven_str]
    exact hne
  | renamed hd he hrenamed =>
    have hgiven := isGiven_of_isRenamed hrenamed
    rw [drifted_iff_of_delegated hd he, Bool.not_eq_false, State.hasBinding]
    exact iff_of_true (iff_of_true hgiven hd) hgiven

/-! ## Operations that apply a configuration -/

/-- What is answered is recorded. -/
theorem Refreshed.recordedAttributes?_of_ok (h : Refreshed p w (.ok s) calls x)
    (hv : p.vpcId = v) : recordedAttributes? x.store.records v = some s.attributes := by
  have hvpc := h.kept.1.trans hv
  cases h with
  | shown _ _ hx =>
    rw [recordedAttributes?, hx.records_eq, Keyed.get?_insert, if_pos (by rw [hvpc])]
    rfl

theorem Settled.recordedAttributes?_of_ok (h : Settled v p w (.ok s) calls x)
    (hv : p.vpcId = v) : recordedAttributes? x.store.records v = some s.attributes := by
  cases h with
  | recorded _ h => exact h.recordedAttributes?_of_ok hv

/-- **An operation ended in agreement** with the type of resolver that it
asked for, in what it answered and in what is recorded. -/
structure Agreed (type : ResolverType) (v : String) (answer : Json)
    (records : Keyed (Keyed Json)) : Prop where
  answered : Agrees type answer
  recorded : ∃ attributes, recordedAttributes? records v = some attributes ∧
    Agrees type attributes

/-- A state that is answered and recorded agrees as its binding does. -/
theorem State.Paired.agreed_iff {records : Keyed (Keyed Json)} (h : s.Paired)
    (hr : recordedAttributes? records v = some s.attributes) :
    Agreed type v s.toJson records ↔ (s.hasBinding = true ↔ type = .delegated) := by
  rw [← h.agrees_iff]
  refine ⟨fun hagreed => hagreed.answered, fun hagrees => ⟨hagrees, s.attributes, hr, ?_⟩⟩
  exact h.agrees_attributes_iff.2 hagrees

/-- An operation that asks for a type of resolver. -/
inductive Requests (v : String) : Operation → ResolverType → Prop
  | create (d : Desired) (h : d.vpcId = v) : Requests v (.createDns d) d.resolverType
  | update (c : Changes) : Requests v (.updateDns (.str v) c) c.resolverType

/-- **An operation starts from a record that has drifted.** -/
inductive Adrift (records : Keyed (Keyed Json)) (v : String) : Operation → Prop
  | update {c : Changes} {p : State} (hp : Loads records v p) (h : Drifted p ⟨c, v⟩) :
      Adrift records v (.updateDns (.str v) c)

theorem Created.agreed (h : Created d w (.ok s) calls x) (hsub : calls ⊆ all)
    (hall : Identified all) (hw : AllFormed all w.store.records) :
    Agreed d.resolverType d.vpcId s.toJson x.store.records := by
  have hpaired := ((h.formed hsub hw).2 s rfl).paired hall
  cases h with
  | applied _ hb _ hs _ h =>
    obtain ⟨hvpc, hid, -⟩ := Desired.kept_of_realized hs
    refine (hpaired.agreed_iff (h.recordedAttributes?_of_ok hvpc)).2 ?_
    rw [State.hasBinding, h.kept.2, hid]
    have hbefore := (List.append_subset.1 (List.append_subset.1 hsub).1).1
    cases hb with
    | unneeded hd => exact iff_of_false (by decide) hd
    | needed hd hb =>
      obtain ⟨b, hne, hb⟩ := (hb.showing hbefore).identified hall
      refine iff_of_true ?_ hd
      rw [hb, Json.isGiven_str]
      exact hne

theorem Updated.agreed_iff {c : Changes} (h : Updated v c w (.ok s) calls x) (hsub : calls ⊆ all)
    (hall : Identified all) (hw : AllFormed all w.store.records) :
    Agreed c.resolverType v s.toJson x.store.records ↔
      ¬ Adrift w.store.records v (.updateDns (.str v) c) := by
  have hpaired := ((h.formed hsub hw).2 s rfl).paired hall
  cases h with
  | @applied d p t _ _ _ _ _ _ _ hs ht _ _ _ h =>
    have hvpc : (p.changed c t).vpcId = v := (hs.loads.formed hw).2
    have hbefore :=
      (List.append_subset.1 (List.append_subset.1 (List.append_subset.1 hsub).1).1).1
    cases Desired.eq_of_ofChanges hs.admitted
    have hadrift : Adrift w.store.records v (.updateDns (.str v) c) ↔ Drifted p ⟨c, v⟩ := by
      refine ⟨fun hadrift => ?_, .update hs.loads⟩
      cases hadrift with
      | update hp hdrift =>
        cases hp.unique hs.loads
        exact hdrift
    rw [hpaired.agreed_iff (h.recordedAttributes?_of_ok hvpc), hadrift, ← ht.given_iff hbefore hall,
      State.hasBinding, h.kept.2, State.changed_bindingId]

/-- An operation that succeeds ends in agreement exactly if it did not start
adrift. -/
theorem agreed_iff_of_run (hop : Requests v op type) (hsub : (op.run w).calls ⊆ all)
    (hall : Identified all) (hw : AllFormed all w.store.records)
    (hr : (op.run w).result = .ok j) :
    Agreed type v j (op.run w).world.store.records ↔ ¬ Adrift w.store.records v op := by
  cases hop with
  | create d hv =>
    subst hv
    rw [Operation.run, Operation.one_apply] at hsub hr ⊢
    obtain ⟨s, hs, rfl⟩ := map_eq_ok_iff.1 hr
    have h := created d w
    rw [hs] at h
    exact iff_of_true (h.agreed hsub hall hw) fun hadrift => by cases hadrift
  | update c =>
    rw [Operation.run, Operation.one_apply] at hsub hr ⊢
    obtain ⟨s, hs, rfl⟩ := map_eq_ok_iff.1 hr
    have h := updated v c w
    rw [hs] at h
    exact h.agreed_iff hsub hall hw

/-- **A configuration that was applied agrees with its binding unless the
record had drifted**: after any history of any operations that starts
without records, whatever VPCs the service shows, as long as its bindings
have identifiers. -/
theorem mode_agrees_iff {turns : List Turn} {last : Turn} (hop : Requests v last.operation type)
    (hstart : w.store.records = [])
    (hall : Identified (callsOf (visits w (turns ++ [last]))))
    (hr : (last.visit (worldAfter w turns)).outcome.result = .ok j) :
    Agreed type v j (worldAfter w (turns ++ [last])).store.records ↔
      ¬ Adrift (worldAfter w turns).store.records v last.operation := by
  have hsplit : callsOf (visits w (turns ++ [last])) =
      callsOf (visits w turns) ++ (last.visit (worldAfter w turns)).outcome.calls := by
    rw [visits_append, callsOf, List.flatMap_append]
    exact congrArg _ (List.append_nil _)
  have hw : AllFormed (callsOf (visits w (turns ++ [last]))) (worldAfter w turns).store.records := by
    refine formed_worldAfter (hsplit ▸ List.subset_append_left _ _) ?_
    rw [hstart]
    exact .nil
  rw [worldAfter_append]
  exact agreed_iff_of_run hop (hsplit ▸ List.subset_append_right _ _) hall hw hr

/-- The VPC is read back when it shows the system's resolver. -/
def unhubbed : Turn := calmTurn (.readDns (.str "vpc-1")) [.ok plainVpc]

/-- The VPC is to have the system's resolver, which it shows. -/
def settling : Turn :=
  calmTurn (.updateDns (.str "vpc-1") plain.toChanges) [.ok .null, .ok plainVpc]

/-- What is recorded of the VPC once it was read back. -/
def clingingState : State :=
  { State.ofText "vpc-1" with bindingName := .str "to-hub", bindingId := .str "b-1" }

/-- The records once the VPC was read back. -/
def clingingRecords : Keyed (Keyed Json) :=
  [(keyOf "vpc-1",
    Memory.record .dnsConfig (.str "vpc-1") clingingState.attributes ⟨1700000000, 0⟩)]

theorem unhubbed_visit :
    unhubbed.visit (starting.visit (calm [] [])).outcome.world =
      calmVisit unhubbed startedRecords := by
  have h : unhubbed.opening (starting.visit (calm [] [])).outcome.world =
      calm startedRecords unhubbed.replies := rfl
  rw [Turn.visit, h, calmVisit]

theorem settling_visit :
    settling.visit (calmVisit unhubbed startedRecords).outcome.world =
      calmVisit settling clingingRecords := by
  have h : settling.opening (calmVisit unhubbed startedRecords).outcome.world =
      calm clingingRecords settling.replies := rfl
  rw [Turn.visit, h, calmVisit]

/-- The world of the last turn is the one that drifted. -/
theorem clinging_world :
    settling.visit (worldAfter (calm [] []) [starting, unhubbed]) =
      calmVisit settling clingingRecords := by
  rw [worldAfter, worldAfter, unhubbed_visit, worldAfter, settling_visit]

/-- After the calls of the first turn no binding is shown any more. -/
theorem clinging_calls :
    callsOf (visits (calm [] []) ([starting, unhubbed] ++ [settling])) =
      callsOf (visits (calm [] []) [starting]) ++
        [(.getVpc (.str "vpc-1"), .ok plainVpc), (plain.patchCall, .ok .null),
          (.getVpc (.str "vpc-1"), .ok plainVpc)] := by
  rw [List.cons_append, List.cons_append, List.nil_append, visits, visits, unhubbed_visit, visits,
    settling_visit, visits, visits, visits]
  rfl

theorem started_identified : Identified (callsOf (visits (calm [] []) [starting])) := by
  intro body hshown
  rw [eq_of_started_shown hshown]
  exact ⟨"b-1", by decide, rfl⟩

theorem clinging_identified :
    Identified (callsOf (visits (calm [] []) ([starting, unhubbed] ++ [settling]))) := by
  rw [clinging_calls]
  intro body hshown
  rcases hshown.of_append with hshown | hshown
  · exact started_identified body hshown
  · cases hshown with
    | created hmem => simp [Desired.patchCall] at hmem
    | listed hmem => simp [Desired.patchCall] at hmem

theorem clinging_typed :
    TypedReplies (callsOf (visits (calm [] []) ([starting, unhubbed] ++ [settling]))) := by
  rw [clinging_calls]
  refine started_typed.append ⟨fun id body hmem => ?_, fun body hshown => ?_⟩
  · simp [Desired.patchCall] at hmem
    exact hmem.2 ▸ plainVpc_typed
  · cases hshown with
    | created hmem => simp [Desired.patchCall] at hmem
    | listed hmem => simp [Desired.patchCall] at hmem

theorem clinging_result :
    (settling.visit (worldAfter (calm [] []) [starting, unhubbed])).outcome.result =
      .ok clingingState.toJson := by
  rw [clinging_world]
  rfl

theorem mode_agrees_iff_settling :
    Agreed .system "vpc-1" clingingState.toJson
        (worldAfter (calm [] []) ([starting, unhubbed] ++ [settling])).store.records ↔
      ¬ Adrift (worldAfter (calm [] []) [starting, unhubbed]).store.records "vpc-1"
        settling.operation :=
  mode_agrees_iff (.update plain.toChanges) rfl clinging_identified clinging_result

/-- **A change can succeed and disagree with its binding**: the VPC is to
have the system's resolver, and does, but goes on to name a binding. All
that the service shows is typed. -/
theorem mode_disagrees_settling :
    Requests "vpc-1" settling.operation .system ∧
      TypedReplies (callsOf (visits (calm [] []) ([starting, unhubbed] ++ [settling]))) ∧
      (settling.visit (worldAfter (calm [] []) [starting, unhubbed])).outcome.result =
        .ok clingingState.toJson ∧
      ¬ Agrees .system clingingState.toJson := by
  refine ⟨.update plain.toChanges, clinging_typed, clinging_result, fun h => ?_⟩
  have hdelegated := h.binding.1 ⟨"b-1", by decide, rfl⟩
  cases hdelegated

end Dns

end NetSteward
