import NetSteward.Binding.Lifecycle
import NetSteward.Placement.Lifecycle
import NetSteward.Proofs.Ending
import NetSteward.Proofs.Remote.Cursor
import NetSteward.Route.Lookup
/-!
# Listings page by page

A collection is listed by following the tokens that its pages name. The
replies to come decide how that goes. Either they start with pages of which
each one but the last names the next, and the listing is all of their items
in order; or the first reply that is no such page breaks the listing off,
and nothing that was listed before it is yielded. A listing that is read
item by item is as long as the listing of the service, or fails.
-/

namespace NetSteward

namespace Remote

variable {c : Collection}

/-! ## Pages -/

/-- What a reply to a listing is read as: the items of a page, and the token
of the page after it. -/
def Reply.page (c : Collection) (reply : Reply) : Except Failure (List Json × Option String) :=
  match reply.result c.purpose with
  | .error f => .error f
  | .ok body => match readPage c body with
    | .error m => .error (.unreadable (.shape m))
    | .ok page => .ok page

/-- A page of a collection: a body with what it is read as. -/
structure Page (c : Collection) where
  body : Json
  items : List Json
  next : Option String
  read : readPage c body = .ok (items, next)

/-- The reply that brings a page. -/
def Page.reply (p : Page c) : Reply := .ok p.body

/-- A reply is a page, or it is a failure. -/
theorem Reply.page_cases (c : Collection) (reply : Reply) :
    (∃ p : Page c, reply = p.reply) ∨ ∃ f, reply.page c = .error f := by
  unfold Reply.page
  cases h : reply.result c.purpose with
  | error f => exact .inr ⟨f, rfl⟩
  | ok body =>
    cases Reply.result_eq_ok_iff.1 h
    cases hread : readPage c body with
    | error m =>
      refine .inr ⟨.unreadable (.shape m), ?_⟩
      simp only [hread]
    | ok page => exact .inl ⟨⟨body, page.1, page.2, hread⟩, rfl⟩

/-- **How a page names the next one**: with a token in the address that its
link has, if it has a link and the link an address. -/
inductive Links (members : Keyed Json) : Option String → Prop
  | unlinked (h : ((Keyed.get? members "next").getD .null).isGiven = false) : Links members none
  | unaddressed {link : Keyed Json} (h : Keyed.get? members "next" = some (.obj link))
      (hlink : ((Keyed.get? link "href").getD .null).isGiven = false) : Links members none
  | addressed {link : Keyed Json} {address : String} {token : Option String}
      (h : Keyed.get? members "next" = some (.obj link))
      (hlink : Keyed.get? link "href" = some (.str address)) (hne : address ≠ "")
      (htoken : startOfAddress address = .ok token) : Links members token

/-- A page names the next one as its link does. -/
theorem Links.nextStart {members : Keyed Json} {token : Option String}
    (h : Links members token) : nextStart (.obj members) = .ok token := by
  cases h with
  | unlinked h =>
    refine bind_eq_ok_iff.2 ⟨_, Json.find_obj members "next", ?_⟩
    rw [h]
    rfl
  | @unaddressed link h hlink =>
    have hgiven : (Json.obj link).isGiven = true ∨ link = [] := by cases link <;> simp [Json.isGiven]
    refine bind_eq_ok_iff.2 ⟨_, Json.find_obj members "next", ?_⟩
    rw [h, Option.getD_some]
    rcases hgiven with hgiven | rfl
    · rw [if_pos hgiven]
      refine bind_eq_ok_iff.2 ⟨_, Json.find_obj link "href", ?_⟩
      rw [hlink]
      rfl
    · rfl
  | addressed h hlink _ htoken =>
    exact (nextStart_of_linksTo ⟨_, _, rfl, h, hlink⟩).trans htoken

/-- **A page of the expected form is read as what it holds**, and one without
the member of the collection holds nothing. -/
theorem readPage_of_links {members : Keyed Json} {items : List Json} {token : Option String}
    (hitems : (Keyed.get? members c.itemsMember).getD (.arr []) = .arr items)
    (hlinks : Links members token) : readPage c (.obj members) = .ok (items, token) := by
  have hread : pageItems c (.obj members) = .ok items := by
    unfold pageItems
    refine bind_eq_ok_iff.2 ⟨Keyed.get? members c.itemsMember, rfl, ?_⟩
    cases h : Keyed.get? members c.itemsMember with
    | none =>
      rw [h] at hitems
      cases hitems
      rfl
    | some found =>
      rw [h, Option.getD_some] at hitems
      cases hitems
      rfl
  rw [readPage, hread, hlinks.nextStart]
  rfl

/-! ## Walks -/

section Walks

variable {limit : Json} {exhausted : Refusal} {w : World}
variable {replies rest : List Reply} {reply : Reply} {f : Failure}

/-- The calls that ask for pages from these tokens, with the replies to
them. -/
def asked (c : Collection) (limit : Json) (starts : List (Option String))
    (replies : List Reply) : List Event :=
  List.zipWith (fun start reply => .exchange (.list c start limit) reply) starts replies

/-- A walk ends at a page that names no other. -/
theorem walk_last {p : Page c} (h : p.next = none) (start : Option String) :
    walk c limit exhausted (p.reply :: rest) start =
      ⟨.ok p.items, [.exchange (.list c start limit) p.reply], rest⟩ := by
  have hread : readPage c p.body = .ok (p.items, none) := h ▸ p.read
  simp only [walk, Page.reply, Reply.result, hread]

/-- A walk breaks off at a reply that is no page. -/
theorem walk_broken (h : reply.page c = .error f) (start : Option String) :
    walk c limit exhausted (reply :: rest) start =
      ⟨.error f, [.exchange (.list c start limit) reply], rest⟩ := by
  unfold Reply.page at h
  unfold walk
  cases hresult : reply.result c.purpose with
  | error g =>
    rw [hresult] at h
    cases h
    rfl
  | ok body =>
    rw [hresult] at h
    cases hread : readPage c body with
    | error m =>
      simp only [hread] at h ⊢
      cases h
      rfl
    | ok page =>
      simp only [hread] at h
      cases h

/-- A walk goes on from a page that names the next one. -/
theorem walk_next {p : Page c} {token : String} (h : p.next = some token) (start : Option String) :
    walk c limit exhausted (p.reply :: rest) start =
      let more := walk c limit exhausted rest (some token)
      ⟨more.result.map (p.items ++ ·),
        .exchange (.list c start limit) p.reply :: more.events, more.left⟩ := by
  have hread : readPage c p.body = .ok (p.items, some token) := h ▸ p.read
  simp only [walk, Page.reply, Reply.result, hread]

/-- **A walk collects the pages that name the next one**, up to a reply at
which it ends from wherever it is. -/
theorem walk_leading {result : Except Failure (List Json)} (leading : List (Page c))
    (follows : ∀ p ∈ leading, p.next.isSome = true)
    (hend : ∀ start, walk c limit exhausted replies start =
      ⟨result, [.exchange (.list c start limit) reply], rest⟩) (start : Option String) :
    walk c limit exhausted (leading.map Page.reply ++ replies) start =
      ⟨result.map (leading.flatMap Page.items ++ ·),
        asked c limit (start :: leading.map Page.next) (leading.map Page.reply ++ [reply]),
        rest⟩ := by
  -- Each page says where the next one starts, so the start varies.
  induction leading generalizing start with
  | nil =>
    have hmap : result.map (([] : List Json) ++ ·) = result := by cases result <;> rfl
    rw [List.map_nil, List.nil_append, hend, List.flatMap_nil, hmap]
    rfl
  | cons p leading ih =>
    obtain ⟨token, htoken⟩ := Option.isSome_iff_exists.1 (follows p List.mem_cons_self)
    have hrest := ih (fun q hq => follows q (List.mem_cons_of_mem p hq)) (some token)
    have hmap : (result.map (leading.flatMap Page.items ++ ·)).map (p.items ++ ·) =
        result.map ((p :: leading).flatMap Page.items ++ ·) := by
      cases result with
      | error f => rfl
      | ok items => simp [Except.map]
    rw [List.map_cons, List.cons_append, walk_next htoken, hrest]
    dsimp only
    rw [hmap, List.map_cons, htoken]
    rfl

/-! ## Listings -/

/-- **Replies that answer a listing in full**: pages that name the next one,
and then one that does not. -/
structure Answers (c : Collection) (replies : List Reply) (leading : List (Page c))
    (last : Page c) (rest : List Reply) : Prop where
  replies_eq : replies = leading.map Page.reply ++ last.reply :: rest
  follows : ∀ p ∈ leading, p.next.isSome = true
  ends : last.next = none

/-- **Replies at which a listing breaks off**: pages that name the next one,
and then a reply that is no page. Once there are no more replies, the call is
refused. -/
structure Breaks (c : Collection) (replies : List Reply) (exhausted : Refusal)
    (leading : List (Page c)) (reply : Reply) (f : Failure) (rest : List Reply) : Prop where
  replies_eq : replies = leading.map Page.reply ++ reply :: rest ∨
    replies = leading.map Page.reply ∧ reply = .refused exhausted ∧ rest = []
  follows : ∀ p ∈ leading, p.next.isSome = true
  fails : reply.page c = .error f

/-- Any replies do one or the other. -/
theorem answers_or_breaks (c : Collection) (exhausted : Refusal) (replies : List Reply) :
    (∃ leading last rest, Answers c replies leading last rest) ∨
      ∃ leading reply f rest, Breaks c replies exhausted leading reply f rest := by
  induction replies with
  | nil => exact .inr ⟨[], .refused exhausted, _, [], .inr ⟨rfl, rfl, rfl⟩, by simp, rfl⟩
  | cons reply replies ih =>
    rcases reply.page_cases c with ⟨p, rfl⟩ | ⟨f, hf⟩
    · cases hnext : p.next with
      | none => exact .inl ⟨[], p, replies, rfl, by simp, hnext⟩
      | some token =>
        have hp : p.next.isSome = true := by rw [hnext]; rfl
        rcases ih with ⟨leading, last, rest, h⟩ | ⟨leading, reply, f, rest, h⟩
        · have hreplies := congrArg (p.reply :: ·) h.replies_eq
          exact .inl ⟨p :: leading, last, rest, hreplies,
            List.forall_mem_cons.2 ⟨hp, h.follows⟩, h.ends⟩
        · have hreplies := h.replies_eq.imp (congrArg (p.reply :: ·))
            (And.imp_left (congrArg (p.reply :: ·)))
          exact .inr ⟨p :: leading, reply, f, rest, hreplies,
            List.forall_mem_cons.2 ⟨hp, h.follows⟩, h.fails⟩
    · exact .inr ⟨[], reply, f, replies, .inl rfl, by simp, hf⟩

theorem Answers.listAll {leading : List (Page c)} {last : Page c}
    (h : Answers c w.replies leading last rest) :
    listAll c w = ⟨.ok (leading.flatMap Page.items ++ last.items),
      asked c w.pageLimit (none :: leading.map Page.next)
        (leading.map Page.reply ++ [last.reply]),
      { w with replies := rest }⟩ := by
  have hend : ∀ start, walk c w.pageLimit w.exhausted (last.reply :: rest) start =
      ⟨.ok last.items, [.exchange (.list c start w.pageLimit) last.reply], rest⟩ :=
    walk_last h.ends
  have hwalk := walk_leading leading h.follows hend none
  unfold Remote.listAll
  rw [h.replies_eq, hwalk]
  rfl

theorem Breaks.listAll {leading : List (Page c)}
    (h : Breaks c w.replies w.exhausted leading reply f rest) :
    listAll c w = ⟨.error f,
      asked c w.pageLimit (none :: leading.map Page.next) (leading.map Page.reply ++ [reply]),
      { w with replies := rest }⟩ := by
  unfold Remote.listAll
  rcases h.replies_eq with hreplies | ⟨hreplies, rfl, rfl⟩
  · have hend : ∀ start, walk c w.pageLimit w.exhausted (reply :: rest) start =
        ⟨.error f, [.exchange (.list c start w.pageLimit) reply], rest⟩ := walk_broken h.fails
    have hwalk := walk_leading leading h.follows hend none
    rw [hreplies, hwalk]
    rfl
  · -- The call after the last reply is refused.
    have hf : f = .refused c.purpose w.exhausted := (Except.error.inj h.fails).symm
    have hend : ∀ start, walk c w.pageLimit w.exhausted [] start =
        ⟨.error (.refused c.purpose w.exhausted),
          [.exchange (.list c start w.pageLimit) (.refused w.exhausted)], []⟩ := fun _ => rfl
    have hwalk := walk_leading leading h.follows hend none
    rw [List.append_nil] at hwalk
    rw [hreplies, hwalk, hf]
    rfl

/-- **How a listing goes**, whatever the replies to come and the page
limit. -/
structure Paged (c : Collection) (w : World) (o : Outcome (List Json)) : Prop where
  succeeds_iff : (∃ items, o.result = .ok items) ↔
    ∃ leading last rest, Answers c w.replies leading last rest
  /-- Each page is asked for with the token of the page before it, and its
  items stand where it came. -/
  answered : ∀ leading last rest, Answers c w.replies leading last rest →
    o = ⟨.ok (leading.flatMap Page.items ++ last.items),
      asked c w.pageLimit (none :: leading.map Page.next)
        (leading.map Page.reply ++ [last.reply]),
      { w with replies := rest }⟩
  /-- Nothing is yielded, and nothing is asked for after the failure. -/
  broken : (¬ ∃ leading last rest, Answers c w.replies leading last rest) →
    ∃ leading reply f rest, Breaks c w.replies w.exhausted leading reply f rest ∧
      o = ⟨.error f,
        asked c w.pageLimit (none :: leading.map Page.next) (leading.map Page.reply ++ [reply]),
        { w with replies := rest }⟩

theorem listAll_paged (c : Collection) (w : World) : Paged c w (listAll c w) where
  succeeds_iff := by
    constructor
    · rintro ⟨items, hitems⟩
      rcases answers_or_breaks c w.exhausted w.replies with h | ⟨leading, reply, f, rest, h⟩
      · exact h
      · rw [h.listAll] at hitems
        cases hitems
    · rintro ⟨leading, last, rest, h⟩
      exact ⟨_, congrArg Outcome.result h.listAll⟩
  answered _ _ _ h := h.listAll
  broken hnot := by
    rcases answers_or_breaks c w.exhausted w.replies with h | ⟨leading, reply, f, rest, h⟩
    · exact absurd h hnot
    · exact ⟨leading, reply, f, rest, h, h.listAll⟩

end Walks

/-! ## Listings that are read -/

section Readings

variable {α : Type} {read : Json → Read α} {items : List Json}

/-- Items are read exactly if each of them is. -/
theorem readEach_eq_ok_iff {as : List α} :
    readEach read items = .ok as ↔ items.map read = as.map .ok := by
  induction items generalizing as with
  | nil =>
    rw [readEach, List.map_nil]
    constructor
    · intro h
      cases h
      rfl
    · intro h
      rw [List.map_eq_nil_iff.1 h.symm]
  | cons j rest ih =>
    simp only [readEach, bind_eq_ok_iff]
    constructor
    · rintro ⟨a, ha, more, hmore, h⟩
      cases h
      rw [List.map_cons, List.map_cons, ha, ih.1 hmore]
    · intro h
      cases as with
      | nil => cases h
      | cons a more =>
        obtain ⟨ha, hmore⟩ := List.cons_eq_cons.1 h
        exact ⟨a, ha, more, ih.2 hmore, rfl⟩

/-- The first item that cannot be read says why. -/
theorem readEach_of_error {before after : List Json} {j : Json} {cause : Unreadable}
    (hbefore : ∀ i ∈ before, ∃ a, read i = .ok a) (hj : read j = .error cause) :
    readEach read (before ++ j :: after) = .error cause := by
  induction before with
  | nil =>
    rw [List.nil_append, readEach, hj]
    rfl
  | cons i before ih =>
    obtain ⟨⟨a, ha⟩, hbefore⟩ := List.forall_mem_cons.1 hbefore
    rw [List.cons_append, readEach, ha, ih hbefore]
    rfl

/-- **How a listing ends whose items are read**, given how the listing
goes. -/
structure Itemized (read : Json → Read α) (listing : Outcome (List Json))
    (o : Outcome (List α)) : Prop where
  events_eq : o.events = listing.events
  world_eq : o.world = listing.world
  /-- All items are read, in order, or there is no result. -/
  succeeds_iff : ∀ as, o.result = .ok as ↔
    ∃ items, listing.result = .ok items ∧ items.map read = as.map .ok
  broken : ∀ f, listing.result = .error f → o.result = .error f
  /-- The first item that cannot be read says why. -/
  unread : ∀ before j after cause, listing.result = .ok (before ++ j :: after) →
    (∀ i ∈ before, ∃ a, read i = .ok a) → read j = .error cause →
    o.result = .error (.unreadable cause)

/-- The result of a listing whose items are read. -/
def itemsRead (read : Json → Read α) (listed : Except Failure (List Json)) :
    Except Failure (List α) :=
  match listed with
  | .error f => .error f
  | .ok items => match readEach read items with
    | .error cause => .error (.unreadable cause)
    | .ok as => .ok as

/-- Reading items makes no calls. -/
theorem bind_readEach_apply (x : Action (List Json)) (read : Json → Read α) (w : World) :
    (x >>= fun items => Action.ofRead (readEach read items)) w =
      ⟨itemsRead read (x w).result, (x w).events, (x w).world⟩ := by
  rw [Action.bind_apply]
  rcases x w with ⟨f | items, events, v⟩
  · rfl
  · cases hread : readEach read items <;>
      simp [Outcome.andThen, Outcome.preceded, itemsRead, hread]

theorem itemsRead_eq_ok_iff {listed : Except Failure (List Json)} {as : List α} :
    itemsRead read listed = .ok as ↔
      ∃ items, listed = .ok items ∧ items.map read = as.map .ok := by
  simp only [← readEach_eq_ok_iff]
  cases listed with
  | error f => simp [itemsRead]
  | ok items => cases hread : readEach read items <;> simp [itemsRead, hread]

theorem itemized (c : Collection) (read : Json → Read α) (w : World) :
    Itemized read (listAll c w)
      ((listAll c >>= fun items => Action.ofRead (readEach read items)) w) := by
  rw [bind_readEach_apply]
  refine ⟨rfl, rfl, fun as => itemsRead_eq_ok_iff, fun f h => ?_, ?_⟩
  · rw [h]
    rfl
  · intro before j after cause h hbefore hj
    simp only [h, itemsRead, readEach_of_error hbefore hj]

end Readings

/-- **Listings yield every item once, in order, or fail as a whole.** A page of
the expected form is read as the items and the token that it holds. -/
theorem listings_are_paged :
    (∀ (c : Collection) (w : World), Paged c w (listAll c w)) ∧
      (∀ (c : Collection) members items token,
        (Keyed.get? members c.itemsMember).getD (.arr []) = .arr items → Links members token →
          readPage c (.obj members) = .ok (items, token)) ∧
      (∀ vpcId w, Itemized (Binding.ofAnswer vpcId) (listAll (.bindings vpcId) w)
        (Binding.list vpcId w)) ∧
      (∀ w, Itemized PlacementGroup.ofAnswer (listAll .groups w) (PlacementGroup.list w)) ∧
      ∀ vpcId tableId w, Itemized Route.ofAnswer (listAll (.routes vpcId tableId) w)
        (Route.list vpcId tableId w) := by
  refine ⟨listAll_paged, fun c members items token => readPage_of_links, ?_, ?_, ?_⟩
  · exact fun vpcId w => itemized _ _ w
  · exact fun w => itemized _ _ w
  · exact fun vpcId tableId w => itemized _ _ w

end Remote

end NetSteward
