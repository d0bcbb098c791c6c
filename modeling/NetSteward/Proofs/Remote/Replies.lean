import NetSteward.Proofs.Remote.Paging
import NetSteward.Proofs.Store.Ending
/-!
# The same replies again

What an action learns of the service is what its calls are answered. Here
this is made precise for worlds that differ in everything else: a world
repeats some calls if the replies to come begin with the ones that those
calls got. An action that leaves the service alone leaves the replies to
come as they are, and a listing that is repeated has the same result. Its
calls are the same as well if the page limit is.
-/

namespace NetSteward

open Remote (Exchange Refusal Reply)

/-! ## The service as a world has it -/

/-- **The replies to come begin with those that some calls got**, in the same
order. -/
def World.Repeats (w : World) : List Exchange → Prop
  | [] => True
  | e :: calls => w.nextReply.1 = e.2 ∧ w.nextReply.2.Repeats calls

/-- Two worlds that have the same of the service: its replies and the page
limit. -/
structure World.SameService (w v : World) : Prop where
  replies_eq : v.replies = w.replies
  exhausted_eq : v.exhausted = w.exhausted
  pageLimit_eq : v.pageLimit = w.pageLimit

namespace World.SameService

variable {u v w : World}

theorem refl (w : World) : w.SameService w := ⟨rfl, rfl, rfl⟩

theorem symm (h : w.SameService v) : v.SameService w :=
  ⟨h.replies_eq.symm, h.exhausted_eq.symm, h.pageLimit_eq.symm⟩

theorem trans (h : u.SameService v) (h' : v.SameService w) : u.SameService w :=
  ⟨h'.replies_eq.trans h.replies_eq, h'.exhausted_eq.trans h.exhausted_eq,
    h'.pageLimit_eq.trans h.pageLimit_eq⟩

/-- Both give the same next reply, and then have the same again. -/
theorem nextReply (h : w.SameService v) :
    v.nextReply.1 = w.nextReply.1 ∧ w.nextReply.2.SameService v.nextReply.2 := by
  cases hw : w.replies with
  | nil =>
    rw [nextReply_of_nil hw, nextReply_of_nil (h.replies_eq.trans hw), h.exhausted_eq]
    exact ⟨rfl, h⟩
  | cons reply rest =>
    rw [nextReply_of_cons hw, nextReply_of_cons (h.replies_eq.trans hw)]
    exact ⟨rfl, rfl, h.exhausted_eq, h.pageLimit_eq⟩

theorem repeats {calls : List Exchange} (h : w.SameService v) (hw : w.Repeats calls) :
    v.Repeats calls := by
  induction calls generalizing v w with
  | nil => trivial
  | cons e calls ih => exact ⟨h.nextReply.1.trans hw.1, ih h.nextReply.2 hw.2⟩

end World.SameService

/-! ## Runs that succeed -/

/-- The calls of a run with earlier events. -/
theorem Outcome.calls_preceded {α : Type} (o : Outcome α) (earlier : List Event) :
    (o.preceded earlier).calls = earlier.filterMap Event.exchange? ++ o.calls :=
  List.filterMap_append

namespace Action

variable {α β : Type} {w : World} {b : β}

/-- **A sequence that succeeds**, taken apart: the first action succeeds, and
so does the second one where the first one left off. -/
theorem of_bind_ok {x : Action α} {f : α → Action β} (h : ((x >>= f) w).result = .ok b) :
    ∃ a events u, x w = ⟨.ok a, events, u⟩ ∧ (f a u).result = .ok b ∧
      (x >>= f) w = (f a u).preceded events := by
  rw [bind_apply] at h ⊢
  rcases hx : x w with ⟨f' | a, events, u⟩
  · rw [hx] at h
    cases h
  · rw [hx] at h
    exact ⟨a, events, u, rfl, h, rfl⟩

/-- What is known of how an action ends is known of a value that it
yields. -/
theorem Ends.of_ok {x : Action α} {past : List Exchange} {a : α} {events : List Event} {u : World}
    {done : α → List Exchange → World → Prop} {failed : Failure → List Exchange → World → Prop}
    (h : x.Ends past w done failed) (hx : x w = ⟨.ok a, events, u⟩) :
    done a (past ++ events.filterMap Event.exchange?) u := by
  unfold Ends at h
  rw [hx] at h
  exact h

/-- An action that cannot fail yields a value. -/
theorem Ends.exists_ok {x : Action α} {past : List Exchange}
    {done : α → List Exchange → World → Prop}
    (h : x.Ends past w done fun _ _ _ => False) :
    ∃ a events u, x w = ⟨.ok a, events, u⟩ ∧ done a (past ++ events.filterMap Event.exchange?) u := by
  unfold Ends at h
  rcases hx : x w with ⟨f | a, events, u⟩
  · rw [hx] at h
    exact h.elim
  · rw [hx] at h
    exact ⟨a, events, u, rfl, h⟩

end Action

/-! ## Actions that leave the service alone -/

/-- An action that makes no calls and leaves the replies to come as they
are. -/
def Action.Offline {α : Type} (x : Action α) : Prop :=
  ∀ w, (x w).calls = [] ∧ w.SameService (x w).world

namespace Action.Offline

variable {α β : Type}

theorem of_ok {x : Action α} {w u : World} {a : α} {events : List Event} (h : x.Offline)
    (hx : x w = ⟨.ok a, events, u⟩) : events.filterMap Event.exchange? = [] ∧ w.SameService u := by
  have hw := h w
  rw [hx] at hw
  exact hw

theorem pure {a : α} : (Pure.pure a : Action α).Offline := fun w => ⟨rfl, .refl w⟩

theorem fail {f : Failure} : (Action.fail f : Action α).Offline := fun w => ⟨rfl, .refl w⟩

theorem world : Action.world.Offline := fun w => ⟨rfl, .refl w⟩

theorem ofRead (r : Read α) : (Action.ofRead r).Offline := by
  cases r with
  | ok a => exact pure
  | error cause => exact fail

theorem ofShape (r : Except Mismatch α) : (Action.ofShape r).Offline := ofRead (shaped r)

theorem bind {x : Action α} {f : α → Action β} (hx : x.Offline) (hf : ∀ a, (f a).Offline) :
    (x >>= f).Offline := by
  intro w
  have hw := hx w
  rw [bind_apply]
  rcases hxw : x w with ⟨g | a, events, u⟩
  · rw [hxw] at hw
    exact hw
  · rw [hxw] at hw
    obtain ⟨hcalls, hservice⟩ := hf a u
    have hevents : events.filterMap Event.exchange? = [] := hw.1
    refine ⟨?_, hw.2.trans hservice⟩
    change ((f a u).preceded events).calls = []
    rw [Outcome.calls_preceded, hevents, hcalls]
    rfl

theorem recover {x : Action α} {handler : Failure → Option (Action α)} (hx : x.Offline)
    (hhandler : ∀ f y, handler f = some y → y.Offline) : (x.recover handler).Offline := by
  intro w
  have hw := hx w
  unfold Action.recover
  rcases hxw : x w with ⟨g | a, events, u⟩
  · rw [hxw] at hw
    cases hy : handler g with
    | none => simpa only [hy] using hw
    | some y =>
      obtain ⟨hcalls, hservice⟩ := hhandler g y hy u
      have hevents : events.filterMap Event.exchange? = [] := hw.1
      simp only [hy]
      refine ⟨?_, hw.2.trans hservice⟩
      rw [Outcome.calls_preceded, hevents, hcalls]
      rfl
  · rw [hxw] at hw
    exact hw

end Action.Offline

namespace Store

theorem access_offline (a : Access) : (access a).Offline := fun w => ⟨rfl, .refl w⟩

theorem attempt_offline (operation : Operation) : (attempt operation).Offline :=
  fun _ => ⟨rfl, rfl, rfl, rfl⟩

theorem modify_offline (f : Store → Store) : (modify f).Offline := fun _ => ⟨rfl, rfl, rfl, rfl⟩

theorem createTable_offline (name : Json) : (createTable name).Offline := by
  refine .bind (access_offline _) fun _ => .bind (attempt_offline _) fun _ =>
    .bind .world fun w => ?_
  split
  · exact .fail
  · exact .bind (modify_offline _) fun _ => .bind (access_offline _) fun _ => attempt_offline _

/-- An access to the state table leaves the service alone, also if it opens
the connection. -/
theorem connect_offline : connect.Offline := by
  refine .bind .world fun w => ?_
  split
  · exact .pure
  · unfold openConnection
    refine .bind .world fun w => .bind (access_offline _) fun _ =>
      .bind (.recover (createTable_offline _) fun f y hy => ?_) fun _ => modify_offline _
    cases f with
    | store e =>
      simp only at hy
      split at hy
      · cases hy
        exact access_offline _
      · cases hy
    | violation | unlinked | refused | disconnected | gone | unreadable => cases hy

theorem save_offline (record : Keyed Json) : (save record).Offline :=
  .bind connect_offline fun _ => .bind (access_offline _) fun _ => .bind (attempt_offline _)
    fun _ => .bind (.ofShape _) fun _ => modify_offline _

theorem get_offline (key : String) : (get key).Offline :=
  .bind connect_offline fun _ => .bind (access_offline _) fun _ => .bind (attempt_offline _)
    fun _ => .bind .world fun _ => .pure

end Store

namespace Memory

variable {α : Type} {kind : ResourceKind} {id : Json} {check : Json → Checked α}

theorem remember_offline (attributes : Json) : (remember kind id attributes).Offline :=
  .bind (.ofShape _) fun _ => .bind .world fun _ => .bind (.ofShape _) fun _ =>
    Store.save_offline _

theorem retrieveManaged_offline : (retrieveManaged kind id check).Offline := by
  refine .bind (.bind (Store.get_offline _) fun record => ?_) fun found => ?_
  · cases record with
    | none => exact .pure
    | some record =>
      dsimp only
      rw [← bind_pure_comp]
      exact .bind (.ofRead _) fun _ => .pure
  · cases found with
    | none => exact .fail
    | some a => exact .pure

end Memory

namespace Remote

variable {c : Collection} {limit : Json} {exhausted : Refusal} {v w : World}

/-! ## Calls that are answered -/

/-- A call that is answered yields the answer. -/
theorem sendFor_of_ok {body : Json} (h : w.nextReply.1 = .ok body) (purpose : String)
    (call : Call) :
    sendFor purpose call w = ⟨.ok body, [.exchange call (.ok body)], w.nextReply.2⟩ := by
  unfold sendFor
  rw [h]
  rfl

/-! ## Listings -/

/-- **A walk takes one reply at a time.** When there are none left, the next
one is a refusal. -/
theorem walk_step (v : World) (start : Option String) :
    walk c v.pageLimit v.exhausted v.replies start =
      walk c v.pageLimit v.exhausted (v.nextReply.1 :: v.nextReply.2.replies) start := by
  cases h : v.replies with
  | nil =>
    rw [World.nextReply_of_nil h, h]
    rfl
  | cons reply rest => rw [World.nextReply_of_cons h]

/-- The next reply leaves the page limit and the last refusal alone. -/
theorem nextReply_kept (v : World) :
    v.nextReply.2.pageLimit = v.pageLimit ∧ v.nextReply.2.exhausted = v.exhausted := by
  rw [World.nextReply]
  split <;> exact ⟨rfl, rfl⟩

/-- **A walk that is repeated ends in the same way**, with the same calls if
the page limit is the same. -/
theorem walk_again (replies : List Reply) (start : Option String)
    (h : v.Repeats ((walk c limit exhausted replies start).events.filterMap Event.exchange?)) :
    (walk c v.pageLimit v.exhausted v.replies start).result =
        (walk c limit exhausted replies start).result ∧
      (v.pageLimit = limit → (walk c v.pageLimit v.exhausted v.replies start).events =
        (walk c limit exhausted replies start).events) := by
  -- Each page says where the next one starts, and takes a reply.
  induction replies generalizing start v with
  | nil =>
    have hbroken : (Reply.refused exhausted).page c = .error (.refused c.purpose exhausted) := rfl
    have hreply : v.nextReply.1 = .refused exhausted := h.1
    rw [walk_step, hreply, walk_broken hbroken]
    refine ⟨rfl, fun hlimit => ?_⟩
    rw [hlimit]
    rfl
  | cons reply rest ih =>
    rcases reply.page_cases c with ⟨p, rfl⟩ | ⟨f, hf⟩
    · cases hnext : p.next with
      | none =>
        rw [walk_last hnext] at h ⊢
        have hreply : v.nextReply.1 = p.reply := h.1
        rw [walk_step, hreply, walk_last hnext]
        exact ⟨rfl, fun hlimit => by rw [hlimit]⟩
      | some token =>
        rw [walk_next hnext] at h ⊢
        have hreply : v.nextReply.1 = p.reply := h.1
        obtain ⟨hresult, hevents⟩ := ih (some token) h.2
        obtain ⟨hpageLimit, hexhausted⟩ := nextReply_kept v
        rw [hpageLimit, hexhausted] at hresult hevents
        rw [walk_step, hreply, walk_next hnext]
        refine ⟨?_, fun hlimit => ?_⟩
        · dsimp only
          rw [hresult]
        · dsimp only
          rw [hevents hlimit, hlimit]
    · rw [walk_broken hf] at h ⊢
      have hreply : v.nextReply.1 = reply := h.1
      rw [walk_step, hreply, walk_broken hf]
      exact ⟨rfl, fun hlimit => by rw [hlimit]⟩

/-- A walk is answered by the replies to come. -/
theorem repeats_walk (replies : List Reply) (start : Option String) (hw : w.replies = replies) :
    w.Repeats ((walk c w.pageLimit w.exhausted replies start).events.filterMap
      Event.exchange?) := by
  induction replies generalizing start w with
  | nil =>
    have hreply : w.nextReply.1 = .refused w.exhausted := by rw [World.nextReply_of_nil hw]
    exact ⟨hreply, trivial⟩
  | cons reply rest ih =>
    have hnextReply := World.nextReply_of_cons hw
    have hreply : w.nextReply.1 = reply := by rw [hnextReply]
    rcases reply.page_cases c with ⟨p, rfl⟩ | ⟨f, hf⟩
    · cases hnext : p.next with
      | none =>
        rw [walk_last hnext]
        exact ⟨hreply, trivial⟩
      | some token =>
        rw [walk_next hnext]
        refine ⟨hreply, ?_⟩
        rw [hnextReply]
        exact ih (some token) rfl
    · rw [walk_broken hf]
      exact ⟨hreply, trivial⟩

/-- **A listing that is repeated has the same result**, with the same calls if
the page limit is the same. -/
theorem listAll_again (h : v.Repeats (listAll c w).calls) :
    (listAll c v).result = (listAll c w).result ∧
      (v.pageLimit = w.pageLimit → (listAll c v).events = (listAll c w).events) :=
  walk_again w.replies none h

theorem repeats_listAll (c : Collection) (w : World) : w.Repeats (listAll c w).calls :=
  repeats_walk w.replies none rfl

end Remote

end NetSteward
