import NetSteward.Remote.Exchange
/-!
# How actions end

An action ends with a value or with a failure, after some calls to the
service and in some world. `Action.Ends` states what holds then, in
terms of the calls so far: it is told the calls before the action and
hands all of them on, so that the statements about the steps of an
operation chain into one about the operation. Accesses to the state
table are left out; what they do shows in the records.
-/

namespace NetSteward

namespace Remote

/-- A call with its reply. -/
abbrev Exchange : Type := Call × Reply

end Remote

open Remote (Exchange)

/-- A sequence of readings succeeds exactly when each of them does. -/
theorem bind_eq_ok_iff {ε α β : Type} {x : Except ε α} {f : α → Except ε β} {b : β} :
    x >>= f = .ok b ↔ ∃ a, x = .ok a ∧ f a = .ok b := by
  cases x with
  | error e =>
    constructor
    · intro h
      cases h
    · rintro ⟨a, ha, -⟩
      cases ha
  | ok a =>
    constructor
    · exact fun h => ⟨a, rfl, h⟩
    · rintro ⟨a, ha, hb⟩
      cases ha
      exact hb

/-- A result fails with a mapped value exactly when it fails without. -/
theorem map_eq_error_iff {ε α β : Type} {x : Except ε α} {f : α → β} {e : ε} :
    x.map f = .error e ↔ x = .error e := by
  cases x <;> simp [Except.map]

/-- A result is a mapped value exactly when it is a value before. -/
theorem map_eq_ok_iff {ε α β : Type} {x : Except ε α} {f : α → β} {b : β} :
    x.map f = .ok b ↔ ∃ a, x = .ok a ∧ f a = b := by
  cases x <;> simp [Except.map]

/-- The exchange that an event is, none for an access to the state
table. -/
def Event.exchange? : Event → Option Exchange
  | exchange call reply => some (call, reply)
  | access _ => none

/-- The calls of a run with their replies, in order. -/
def Outcome.calls {α : Type} (o : Outcome α) : List Exchange := o.events.filterMap Event.exchange?

/-- Whether a failure is about a resource that is not managed or no
longer exists. -/
def Failure.isGone : Failure → Bool
  | gone _ _ => true
  | _ => false

/-- Whether a failure comes of an exchange with the service: a call was
refused or cut off, or its answer cannot be read. -/
def Failure.isOfExchange : Failure → Bool
  | refused _ _ | disconnected _ | unreadable _ => true
  | _ => false

/-- What comes of an exchange is not about a resource that is gone. -/
theorem Failure.isGone_of_isOfExchange {f : Failure} (h : f.isOfExchange = true) :
    f.isGone = false := by
  cases f with
  | gone kind id => cases h
  | violation | unlinked | refused | disconnected | unreadable | store => rfl

/-- Whether a failure reports a constraint that is violated. -/
def Failure.isViolation : Failure → Bool
  | violation _ => true
  | _ => false

/-- No exchange violates a constraint. -/
theorem Failure.isViolation_of_isOfExchange {f : Failure} (h : f.isOfExchange = true) :
    f.isViolation = false := by
  cases f with
  | violation => cases h
  | unlinked | refused | disconnected | gone | unreadable | store => rfl

/-- A world that another one leads to, with these records: the clock and
the faults of the state table are the same. -/
structure World.Leads (w : World) (records : Keyed (Keyed Json)) (v : World) : Prop where
  records_eq : v.store.records = records
  faults_eq : v.store.faults = w.store.faults
  clock_eq : v.clock = w.clock

namespace World.Leads

variable {u v w : World} {records more : Keyed (Keyed Json)}

theorem refl (w : World) : w.Leads w.store.records w := ⟨rfl, rfl, rfl⟩

theorem trans (h : u.Leads records v) (h' : v.Leads more w) : u.Leads more w :=
  ⟨h'.records_eq, h'.faults_eq.trans h.faults_eq, h'.clock_eq.trans h.clock_eq⟩

/-- What leaves the records alone leaves them as they came. -/
theorem still (h : u.Leads records v) (h' : v.Leads v.store.records w) : u.Leads records w :=
  h.records_eq ▸ h.trans h'

end World.Leads

namespace Action

variable {α β : Type}
variable {past : List Exchange} {w : World}

/-- An action whose value is mapped ends as it does without. -/
theorem map_apply (f : α → β) (x : Action α) (w : World) :
    (f <$> x) w = ⟨(x w).result.map f, (x w).events, (x w).world⟩ := by
  change (x w).andThen _ = _
  rcases x w with ⟨_ | a, events, v⟩
  · rfl
  · simp [Outcome.andThen, Outcome.preceded, Except.map, done]

/-- **How an action ends**, started in a world after some calls: as `done`
says if with a value, as `failed` says if with a failure. Both are told
the calls so far, the earlier ones included, and the world. -/
def Ends (x : Action α) (past : List Exchange) (w : World)
    (done : α → List Exchange → World → Prop)
    (failed : Failure → List Exchange → World → Prop) : Prop :=
  match (x w).result with
  | .ok a => done a (past ++ (x w).calls) (x w).world
  | .error f => failed f (past ++ (x w).calls) (x w).world

section Rules

variable {done : α → List Exchange → World → Prop}
variable {failed : Failure → List Exchange → World → Prop}

/-- A statement about the end of a first action is one about its
outcome. -/
theorem ends_nil_iff (ending : Except Failure α → List Exchange → World → Prop) {x : Action α} :
    x.Ends [] w (fun a => ending (.ok a)) (fun f => ending (.error f)) ↔
      ending (x w).result (x w).calls (x w).world := by
  unfold Ends
  cases (x w).result <;> exact Iff.rfl

@[simp] theorem ends_pure {a : α} :
    (pure a : Action α).Ends past w done failed ↔ done a past w := by
  simp [Ends, Outcome.calls]

@[simp] theorem ends_fail {f : Failure} :
    (fail f : Action α).Ends past w done failed ↔ failed f past w := by
  simp [Ends, Outcome.calls]

/-- **One action after another**: the second one starts where the first
one is done. -/
theorem ends_bind {x : Action β} {f : β → Action α} :
    (x >>= f).Ends past w done failed ↔
      x.Ends past w (fun b calls v => (f b).Ends calls v done failed) failed := by
  unfold Ends
  rw [bind_apply]
  rcases x w with ⟨_ | b, events, v⟩
  · exact Iff.rfl
  · simp [Outcome.andThen, Outcome.preceded, Outcome.calls, List.append_assoc]

theorem ends_map {x : Action β} {f : β → α} :
    (f <$> x).Ends past w done failed ↔ x.Ends past w (fun b => done (f b)) failed := by
  rw [← bind_pure_comp, ends_bind]
  simp only [ends_pure]

/-- An action that is recovered from some of its failures. -/
theorem ends_recover {x : Action α} {handler : Failure → Option (Action α)} :
    (x.recover handler).Ends past w done failed ↔
      x.Ends past w done fun f calls v => match handler f with
        | some y => y.Ends calls v done failed
        | none => failed f calls v := by
  unfold Ends recover
  rcases x w with ⟨f | a, events, v⟩
  · cases hf : handler f with
    | none => simp [hf]
    | some y => simp [hf, Outcome.preceded, Outcome.calls, List.append_assoc]
  · exact Iff.rfl

@[simp] theorem ends_world {done : World → List Exchange → World → Prop} :
    world.Ends past w done failed ↔ done w past w := by
  simp [Ends, world, Outcome.calls]

theorem ends_ofRead {r : Read α} (ok : ∀ a, r = .ok a → done a past w)
    (error : ∀ cause, r = .error cause → failed (.unreadable cause) past w) :
    (ofRead r).Ends past w done failed := by
  cases r with
  | ok a => exact ends_pure.2 (ok a rfl)
  | error cause => exact ends_fail.2 (error cause rfl)

theorem ends_ofShape {r : Except Mismatch α} (ok : ∀ a, r = .ok a → done a past w)
    (error : ∀ m, r = .error m → failed (.unreadable (.shape m)) past w) :
    (ofShape r).Ends past w done failed := by
  cases r with
  | ok a => exact ends_pure.2 (ok a rfl)
  | error m => exact ends_fail.2 (error m rfl)

theorem ends_ofChecked {r : Checked α} (ok : ∀ a, r = .ok a → done a past w)
    (error : ∀ issues, r = .failed issues → failed (.unreadable (.invalid issues)) past w) :
    (ofChecked r).Ends past w done failed := by
  cases r with
  | ok a => exact ends_pure.2 (ok a rfl)
  | failed issues => exact ends_fail.2 (error issues rfl)

/-- An action ends as its outcome is known to be. -/
theorem Ends.of_outcome (ending : Except Failure α → List Exchange → World → Prop) {x : Action α}
    (h : ending (x w).result (x w).calls (x w).world)
    (hd : ∀ a calls v, ending (.ok a) calls v → done a (past ++ calls) v)
    (hf : ∀ f calls v, ending (.error f) calls v → failed f (past ++ calls) v) :
    x.Ends past w done failed := by
  unfold Ends
  cases hr : (x w).result with
  | ok a => rw [hr] at h; exact hd _ _ _ h
  | error f => rw [hr] at h; exact hf _ _ _ h

end Rules

/-! ## Actions that leave the records alone -/

/-- An action that leaves the records alone in any world, with a relation
between its result and its calls. -/
def Still (x : Action α) (ending : Except Failure α → List Exchange → Prop) : Prop :=
  ∀ w, ending (x w).result (x w).calls ∧ w.Leads w.store.records (x w).world

namespace Still

variable {x : Action α} {ending : Except Failure α → List Exchange → Prop}

theorem of_ends
    (h : ∀ w, x.Ends [] w (fun a calls v => ending (.ok a) calls ∧ w.Leads w.store.records v)
      fun f calls v => ending (.error f) calls ∧ w.Leads w.store.records v) :
    x.Still ending := fun w =>
  (ends_nil_iff fun r calls v => ending r calls ∧ w.Leads w.store.records v).1 (h w)

theorem ends {done : α → List Exchange → World → Prop}
    {failed : Failure → List Exchange → World → Prop} (h : x.Still ending)
    (hd : ∀ a calls v, ending (.ok a) calls → w.Leads w.store.records v →
      done a (past ++ calls) v)
    (hf : ∀ f calls v, ending (.error f) calls → w.Leads w.store.records v →
      failed f (past ++ calls) v) : x.Ends past w done failed :=
  Ends.of_outcome (fun r calls v => ending r calls ∧ w.Leads w.store.records v) (h w)
    (fun a calls v hv => hd a calls v hv.1 hv.2) fun f calls v hv => hf f calls v hv.1 hv.2

end Still

end Action

/-! ## Calls to the service -/

namespace Remote

variable {past : List Exchange} {w : World}
variable {failed : Failure → List Exchange → World → Prop}

/-- The next reply leaves the records alone. -/
theorem leads_nextReply (w : World) : w.Leads w.store.records w.nextReply.2 := by
  have hclock : w.nextReply.2.clock = w.clock := by
    rw [World.nextReply]
    split <;> rfl
  refine ⟨?_, ?_, hclock⟩ <;> rw [World.nextReply_store]

/-- **A call is answered, refused or cut off**, and is one exchange in any
case. -/
theorem ends_sendFor {done : Json → List Exchange → World → Prop} {purpose : String} {call : Call}
    (answered : ∀ body v, w.Leads w.store.records v →
      done body (past ++ [(call, .ok body)]) v)
    (refused : ∀ refusal v, w.Leads w.store.records v →
      failed (.refused purpose refusal) (past ++ [(call, .refused refusal)]) v)
    (cut : ∀ reason v, w.Leads w.store.records v →
      failed (.disconnected reason) (past ++ [(call, .disconnected reason)]) v) :
    (sendFor purpose call).Ends past w done failed := by
  have h := leads_nextReply w
  simp only [Action.Ends, Outcome.calls, sendFor, List.filterMap_cons, List.filterMap_nil,
    Event.exchange?]
  cases w.nextReply.1 with
  | ok body => exact answered body _ h
  | refused refusal => exact refused refusal _ h
  | disconnected reason => exact cut reason _ h

/-- A call that lists a collection. -/
def Call.Lists (collection : Collection) (call : Call) : Prop :=
  ∃ start limit, call = .list collection start limit

/-- Items that were listed stand on pages that were answered. -/
def Listed (collection : Collection) (calls : List Exchange) (items : List Json) : Prop :=
  ∀ j ∈ items, ∃ start limit page onPage,
    (Call.list collection start limit, Reply.ok page) ∈ calls ∧
      pageItems collection page = .ok onPage ∧ j ∈ onPage

/-- What a page is read as starts with its items. -/
theorem pageItems_of_readPage {collection : Collection} {page : Json} {items : List Json}
    {next : Option String} (h : readPage collection page = .ok (items, next)) :
    pageItems collection page = .ok items := by
  obtain ⟨found, hfound, h⟩ := bind_eq_ok_iff.1 h
  obtain ⟨token, -, h⟩ := bind_eq_ok_iff.1 h
  cases h
  exact hfound

/-- A reply that is no body fails as an exchange does. -/
theorem Reply.isOfExchange_of_result {purpose : String} {r : Reply} {f : Failure}
    (h : r.result purpose = .error f) : f.isOfExchange = true := by
  cases r with
  | ok body => cases h
  | refused refusal => cases h; rfl
  | disconnected reason => cases h; rfl

/-- **How a walk through a collection goes** from a token on: page by page,
each one asked for with the token that the page before it names. -/
inductive Walked (collection : Collection) :
    Option String → Except Failure (List Json) → List Exchange → Prop
  /-- There is no answer. -/
  | unanswered {start : Option String} {limit : Json} {reply : Reply} {f : Failure}
      (h : reply.result collection.purpose = .error f) :
      Walked collection start (.error f) [(.list collection start limit, reply)]
  /-- The page cannot be read. -/
  | garbled {start : Option String} {limit page : Json} {m : Mismatch}
      (h : readPage collection page = .error m) :
      Walked collection start (.error (.unreadable (.shape m)))
        [(.list collection start limit, .ok page)]
  /-- The page is the last one. -/
  | last {start : Option String} {limit page : Json} {items : List Json}
      (h : readPage collection page = .ok (items, none)) :
      Walked collection start (.ok items) [(.list collection start limit, .ok page)]
  /-- The page names the next one, from which the walk goes on. -/
  | next {start : Option String} {limit page : Json} {items : List Json} {token : String}
      {result : Except Failure (List Json)} {calls : List Exchange}
      (h : readPage collection page = .ok (items, some token))
      (hrest : Walked collection (some token) result calls) :
      Walked collection start (result.map (items ++ ·))
        ((.list collection start limit, .ok page) :: calls)

theorem walked {collection : Collection} {limit : Json} {exhausted : Refusal}
    (replies : List Reply) (start : Option String) :
    Walked collection start (walk collection limit exhausted replies start).result
      ((walk collection limit exhausted replies start).events.filterMap Event.exchange?) := by
  -- Each page says where the next one starts, so the start varies.
  induction replies generalizing start with
  | nil => exact .unanswered rfl
  | cons reply rest ih =>
    simp only [walk]
    split
    · rename_i hf
      exact .unanswered hf
    · rename_i page hpage
      cases Reply.result_eq_ok_iff.1 hpage
      split
      · rename_i hread
        exact .garbled hread
      · rename_i hread
        exact .last hread
      · rename_i hread
        exact .next hread (ih _)

/-- A listing is a walk from the first page on, and leaves the records
alone. -/
theorem listAll_still (collection : Collection) :
    (listAll collection).Still (Walked collection none) :=
  fun _ => ⟨walked _ none, rfl, rfl, rfl⟩

namespace Walked

variable {collection : Collection} {start : Option String} {calls : List Exchange}
variable {result : Except Failure (List Json)}

/-- A walk makes at least one call. -/
theorem ne_nil (h : Walked collection start result calls) : calls ≠ [] := by
  cases h <;> exact List.cons_ne_nil _ _

/-- A walk only lists. -/
theorem lists (h : Walked collection start result calls) :
    ∀ e ∈ calls, e.1.Lists collection := by
  induction h with
  | unanswered | garbled | last => exact List.forall_mem_singleton.2 ⟨_, _, rfl⟩
  | next _ _ ih => exact List.forall_mem_cons.2 ⟨⟨_, _, rfl⟩, ih⟩

/-- What a walk yields was listed on its way. -/
theorem listed (h : Walked collection start result calls) :
    ∀ items, result = .ok items → Listed collection calls items := by
  induction h with
  | unanswered | garbled =>
    intro items hitems
    cases hitems
  | last hread =>
    intro items hitems j hj
    cases hitems
    exact ⟨_, _, _, _, List.mem_singleton.2 rfl, pageItems_of_readPage hread, hj⟩
  | next hread _ ih =>
    intro items hitems
    obtain ⟨others, hothers, rfl⟩ := map_eq_ok_iff.1 hitems
    intro j hj
    rcases List.mem_append.1 hj with hj | hj
    · exact ⟨_, _, _, _, List.mem_cons_self, pageItems_of_readPage hread, hj⟩
    · obtain ⟨s, limit, page, onPage, hmem, hitems, hj⟩ := ih others hothers j hj
      exact ⟨s, limit, page, onPage, List.mem_cons_of_mem _ hmem, hitems, hj⟩

/-- A walk breaks off as an exchange does. -/
theorem isOfExchange (h : Walked collection start result calls) :
    ∀ f, result = .error f → f.isOfExchange = true := by
  induction h with
  | unanswered hreply =>
    intro f hf
    cases hf
    exact Reply.isOfExchange_of_result hreply
  | garbled =>
    intro f hf
    cases hf
    rfl
  | last =>
    intro f hf
    cases hf
  | next _ _ ih => exact fun f hf => ih f (map_eq_error_iff.1 hf)

end Walked

/-- **A listing only lists**, and yields what it listed. -/
theorem ends_listAll {done : List Json → List Exchange → World → Prop} {collection : Collection}
    (listed : ∀ items calls v, (∀ e ∈ calls, e.1.Lists collection) →
      Listed collection calls items → w.Leads w.store.records v → done items (past ++ calls) v)
    (broken : ∀ f calls v, f.isOfExchange = true → (∀ e ∈ calls, e.1.Lists collection) →
      w.Leads w.store.records v → failed f (past ++ calls) v) :
    (listAll collection).Ends past w done failed :=
  (listAll_still collection).ends
    (fun items calls v h hv => listed items calls v h.lists (h.listed items rfl) hv)
    fun f calls v h hv => broken f calls v (h.isOfExchange f rfl) h.lists hv

end Remote

end NetSteward
