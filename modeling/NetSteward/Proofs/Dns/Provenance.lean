import NetSteward.Proofs.Dns.Custody
import NetSteward.Proofs.Dns.Upkeep
/-!
# Where recorded states come from

A recorded state is the result of a few steps, over one operation or over
many: a configuration was applied, a VPC was read back, a binding was
adopted, a record was loaded. `Formed` lists these steps, with the calls
that they take their values from. The main result is that in any history
of operations every recorded state was formed from the calls of the
history. So a fact about recorded states is proved once for each step.
-/

namespace NetSteward

namespace Dns

open Remote (Call Exchange Listed Reply)

variable {all calls : List Exchange} {records : Keyed (Keyed Json)} {v : String}
variable {w x : World} {d : Desired} {p s : State} {op : Operation}

/-- **How a state comes about** from some calls. -/
inductive Formed (all : List Exchange) : State → Prop
  /-- Nothing is known of the VPC. -/
  | blank (v : String) : Formed all (State.ofText v)
  /-- A configuration was applied. -/
  | realized {d : Desired} {b : NewBinding} {s : State} {calls : List Exchange}
      (hb : Opened d (.ok b) calls) (hsub : calls ⊆ all) (hs : d.realized b = .ok s) :
      Formed all s
  /-- A change was applied. -/
  | changed {p : State} {c : Changes} {v : String} {t : Transition} {calls : List Exchange}
      (hp : Formed all p) (ht : Prepared p ⟨c, v⟩ (.ok t) calls) (hsub : calls ⊆ all) :
      Formed all (p.changed c t)
  /-- The VPC was read back. -/
  | overlaid {p s : State} {vpcId body : Json} (hp : Formed all p)
      (hmem : (Call.getVpc vpcId, Reply.ok body) ∈ all) (hs : p.overlaid body = .ok s) :
      Formed all s
  /-- The name of the binding was looked up. -/
  | named {p s : State} {calls : List Exchange} (hp : Formed all p)
      (hs : Named p (.ok s) calls) (hsub : calls ⊆ all) : Formed all s
  /-- A binding was adopted. -/
  | adopted {p s : State} {v : String} {bindings : List Json} {calls : List Exchange}
      (hp : Formed all p) (hlisted : Listed (bindingsOf v) calls bindings) (hsub : calls ⊆ all)
      (hs : p.adoptFrom bindings = .ok s) : Formed all s
  /-- The record was loaded. -/
  | loaded {p s : State} (hs : Formed all s) (hp : State.check .data s.attributes = .ok p) :
      Formed all p

/-- A record of a DNS configuration is one of a state that was formed, and
belongs to the VPC of the state. -/
def RecordsFormed (all : List Exchange) (kind : ResourceKind) (id attributes : Json) : Prop :=
  kind = .dnsConfig → ∃ s, Formed all s ∧ id = .str s.vpcId ∧ attributes = s.attributes

/-- All recorded states were formed from some calls. -/
abbrev AllFormed (all : List Exchange) : Keyed (Keyed Json) → Prop := Admitted (RecordsFormed all)

/-- What is loaded from a record was formed as well, and of its VPC. -/
theorem Loads.formed (h : AllFormed all records) (hp : Loads records v p) :
    Formed all p ∧ p.vpcId = v := by
  obtain ⟨record, hr, hread⟩ := hp
  obtain ⟨id, attributes, written, hid, rfl, hadmitted⟩ := h.of_get? hr
  obtain ⟨s, hs, rfl, rfl⟩ := hadmitted rfl
  have hcheck : State.check .data s.attributes = .ok p := checked_eq_ok_iff.1 hread
  obtain ⟨-, n, -, rfl⟩ := State.check_toJson_eq_ok_iff.1 hcheck
  exact ⟨.loaded hs hcheck, hid⟩

/-- **Every operation on a VPC keeps recorded states formed**, from its
calls and those before it. -/
theorem formed_upkeep : Upkeep v all (fun s => Formed all s ∧ s.vpcId = v) (AllFormed all) where
  blank := ⟨.blank v, rfl⟩
  realized hd hb hsub hs := ⟨.realized hb hsub hs, (Desired.kept_of_realized hs).1.trans hd⟩
  changed hp ht hsub := ⟨.changed hp.1 ht hsub, hp.2⟩
  overlaid hp hmem hs :=
    ⟨.overlaid hp.1 hmem hs, (State.kept_of_overlaid hs).2.1.trans hp.2⟩
  named hp hs hsub := ⟨.named hp.1 hs hsub, hs.kept.1.trans hp.2⟩
  adopted hp hlisted hsub hs := by
    refine ⟨.adopted hp.1 hlisted hsub hs, ?_⟩
    -- What is adopted is a binding, and the VPC stays.
    rcases State.eq_of_adoptFrom hs with rfl | ⟨binding, -, id, name, -, -, rfl⟩
    · exact hp.2
    · exact hp.2
  loaded hr hp := hp.formed hr
  vpcId_eq hs := hs.2
  record hs written hr := Admitted.insert hr fun _ => ⟨_, hs.1, by rw [hs.2], rfl⟩
  erase hr := hr.erase

/-- Records of other kinds are no concern of the rule. -/
theorem allFormed_outlastsAnswers : OutlastsAnswers (AllFormed all) where
  binding _ _ _ hr := Admitted.insert hr fun h => by cases h
  group _ _ hr := Admitted.insert hr fun h => by cases h
  erase _ hr := hr.erase

theorem Created.formed {result : Except Failure State} (h : Created d w result calls x)
    (hsub : calls ⊆ all) (hw : AllFormed all w.store.records) :
    AllFormed all x.store.records ∧ ∀ s, result = .ok s → Formed all s :=
  (formed_upkeep.created h rfl hsub hw).imp_right fun hs t ht => (hs t ht).1

theorem Updated.formed {c : Changes} {result : Except Failure State}
    (h : Updated v c w result calls x) (hsub : calls ⊆ all)
    (hw : AllFormed all w.store.records) :
    AllFormed all x.store.records ∧ ∀ s, result = .ok s → Formed all s :=
  (formed_upkeep.updated h hsub hw).imp_right fun hs t ht => (hs t ht).1

/-- **In any history recorded states are formed from its calls.** -/
theorem formed_worldAfter {turns : List Turn} (hsub : callsOf (visits w turns) ⊆ all)
    (hw : AllFormed all w.store.records) :
    AllFormed all (worldAfter w turns).store.records :=
  upheld_worldAfter (fun _ => formed_upkeep) allFormed_outlastsAnswers hsub hw

/-! ## Bindings that were shown -/

/-- **A binding as the service showed it**, when it was created or
listed. -/
inductive Shown (calls : List Exchange) : Json → Prop
  | created {vpcId hub name body : Json}
      (h : (Call.createBinding vpcId hub name, Reply.ok body) ∈ calls) : Shown calls body
  | listed {vpcId limit page binding : Json} {start : Option String} {onPage : List Json}
      (h : (Call.list (.bindings vpcId) start limit, Reply.ok page) ∈ calls)
      (hitems : Remote.pageItems (.bindings vpcId) page = .ok onPage) (hmem : binding ∈ onPage) :
      Shown calls binding

theorem Shown.of_append {more : List Exchange} {body : Json} (h : Shown (calls ++ more) body) :
    Shown calls body ∨ Shown more body := by
  cases h with
  | created h => exact (List.mem_append.1 h).imp .created .created
  | listed h hitems hmem =>
    exact (List.mem_append.1 h).imp (.listed · hitems hmem) (.listed · hitems hmem)

theorem Shown.mono {body : Json} (h : Shown calls body) (hsub : calls ⊆ all) : Shown all body := by
  cases h with
  | created h => exact .created (hsub h)
  | listed h hitems hmem => exact .listed (hsub h) hitems hmem

/-- The identifier and the name of a binding that was shown. -/
def Showing (calls : List Exchange) (id name : Json) : Prop :=
  ∃ body, Shown calls body ∧ body.find "id" = .ok id ∧ body.find "name" = .ok name

theorem shown_of_listed {bindings : List Json} {binding : Json}
    (h : Listed (bindingsOf v) calls bindings) (hsub : calls ⊆ all) (hmem : binding ∈ bindings) :
    Shown all binding := by
  obtain ⟨start, limit, page, onPage, hcall, hitems, hon⟩ := h binding hmem
  exact .listed (hsub hcall) hitems hon

theorem Bound.showing {b : NewBinding} (h : Bound d (.ok b) calls) (hsub : calls ⊆ all) :
    Showing all b.id b.name := by
  cases h with
  | created hid hname =>
    exact ⟨_, .created (hsub List.mem_cons_self), Json.find_eq_of_require hid, hname⟩

/-- A configuration is created without a binding or with one that was
shown. -/
theorem Opened.null_or_showing {b : NewBinding} (h : Opened d (.ok b) calls) (hsub : calls ⊆ all) :
    b = ⟨.null, .null⟩ ∨ Showing all b.id b.name := by
  cases h with
  | unneeded => exact .inl rfl
  | needed _ hb => exact .inr (hb.showing hsub)

/-- **A change gives up the binding, keeps it, perhaps under another name,
or goes on with one that was shown.** -/
theorem Prepared.binding_cases {t : Transition} (h : Prepared p d (.ok t) calls)
    (hsub : calls ⊆ all) :
    (t.id = .null ∧ t.name = .null) ∨
    (t.id = p.bindingId ∧ (t.name = p.bindingName ∨
      p.bindingId.isGiven = true ∧ t.name = .ofOption d.bindingName)) ∨
    Showing all t.id t.name := by
  cases h with
  | left => exact .inl ⟨rfl, rfl⟩
  | kept => exact .inr (.inl ⟨rfl, .inl rfl⟩)
  | entered _ _ hb => exact .inr (.inr (hb.showing hsub))
  | renamed _ _ hrenamed =>
    exact .inr (.inl ⟨rfl, .inr ⟨isGiven_of_isRenamed hrenamed, rfl⟩⟩)

theorem find_of_nameOfBinding {id name : Json} {bindings : List Json}
    (h : nameOfBinding id bindings = .ok name) :
    name = .null ∨ ∃ binding ∈ bindings, binding.find "name" = .ok name := by
  induction bindings with
  | nil => cases h; exact .inl rfl
  | cons binding rest ih =>
    obtain ⟨found, -, h⟩ := bind_eq_ok_iff.1 h
    split at h
    · exact .inr ⟨binding, List.mem_cons_self, h⟩
    · refine (ih h).imp_right ?_
      rintro ⟨other, hmem, hname⟩
      exact ⟨other, List.mem_cons_of_mem _ hmem, hname⟩

/-- **Looking the name of a binding up changes nothing but this name**, to
one that was shown. -/
theorem Named.eq_or_showing (h : Named p (.ok s) calls) (hsub : calls ⊆ all) :
    s = p ∨ p.hasBinding = true ∧ ∃ body name, Shown all body ∧ body.find "name" = .ok name ∧
      s = { p with bindingName := name } := by
  cases h with
  | unasked | unlisted => exact .inl rfl
  | @listed bindings name _ hasked _ hlisted hname =>
    split
    next hgiven =>
      rcases find_of_nameOfBinding hname with rfl | ⟨binding, hmem, hfound⟩
      · cases hgiven
      · refine .inr ⟨(Bool.and_eq_true_iff.1 hasked).2, binding, name, ?_, hfound, rfl⟩
        exact shown_of_listed hlisted hsub hmem
    next => exact .inl rfl

end Dns

end NetSteward
