import NetSteward.Proofs.Objection
import NetSteward.Web.Front
/-!
# Requests that are rejected

A request is taken through stages before anything is done for it. One whose
caller is not known gets no further than the stage that asks for the caller,
and one whose values are refused gets no further than the stage that checks
them. The main result is that nothing is done for either, and that the answer
to an unknown caller says nothing of what is recorded or of what the service
would reply: it is the same in all worlds with the same settings and the same
time.
-/

namespace NetSteward

/-- A value is the same as at most one whole number. -/
theorem Json.eq_of_same_int {j : Json} {a b : Int} (ha : j.same (.int a) = true)
    (hb : j.same (.int b) = true) : a = b := by
  cases j with
  | null | str | arr | obj => simp [same, number?] at ha
  | bool | int | float => simp_all [same, number?, sameNumber]

namespace Web

open Time (Instant)

variable {α β : Type} {s : Settings} {now : Instant}

/-! ## Statuses -/

namespace Response

/-- The answer says that something was done as asked. -/
def IsSuccess (r : Response) : Prop :=
  ∃ n : Int, 200 ≤ n ∧ n < 300 ∧ r.status.same (.int n) = true

/-- The answer says that the request is refused as it stands. -/
def IsRejection (r : Response) : Prop :=
  r.status.same (.int 400) = true ∨ r.status.same (.int 422) = true

variable {r : Response} {n : Int}

theorem not_isSuccess_of_status (h : r.status = .int n) (hn : n < 200 ∨ 300 ≤ n) :
    ¬ r.IsSuccess := by
  rintro ⟨m, hlow, hhigh, hm⟩
  have : n = m := by simpa [h, Json.same, Json.number?, Json.sameNumber] using hm
  omega

theorem not_isSuccess_internal : ¬ internal.IsSuccess :=
  not_isSuccess_of_status rfl (by decide)

theorem not_isSuccess_unauthenticated (message : String) :
    ¬ (unauthenticated message).IsSuccess :=
  not_isSuccess_of_status rfl (by decide)

theorem not_isRejection_of_status (h : r.status = .int n) (hn : n ≠ 400 ∧ n ≠ 422) :
    ¬ r.IsRejection := by
  simpa [IsRejection, h, Json.same, Json.number?, Json.sameNumber] using hn

theorem not_isRejection_ok (body : Json) : ¬ (ok body).IsRejection :=
  not_isRejection_of_status rfl (by decide)

theorem not_isRejection_created (body : Json) : ¬ (created body).IsRejection :=
  not_isRejection_of_status rfl (by decide)

theorem not_isRejection_noContent : ¬ noContent.IsRejection :=
  not_isRejection_of_status rfl (by decide)

/-- A status with which a refusal is passed on rejects nothing. -/
theorem not_isRejection_of_same (h : r.status.same (.int n) = true) (hn : n ≠ 400 ∧ n ≠ 422) :
    ¬ r.IsRejection := by
  rintro (hr | hr)
  · exact hn.1 (Json.eq_of_same_int h hr)
  · exact hn.2 (Json.eq_of_same_int h hr)

/-- A refused call rejects nothing: it is answered with a status of its own
or as an error of what is behind the front. -/
theorem not_isRejection_refused (status : Json) (message : String) :
    ¬ (detail (Failure.Kind.refused status).httpStatus message).IsRejection := by
  by_cases h : (status.same (.int 404) || status.same (.int 409)) = true
  · have hstatus : (Failure.Kind.refused status).httpStatus = status := if_pos h
    rw [hstatus]
    rcases Bool.or_eq_true_iff.1 h with hsame | hsame
    · exact not_isRejection_of_same hsame (by decide)
    · exact not_isRejection_of_same hsame (by decide)
  · exact not_isRejection_of_status (if_neg h) (by decide)

/-- **Of all failures, only a violated constraint rejects a request.** -/
theorem isViolation_of_isRejection {f : Failure} (h : (ofFailure f).IsRejection) :
    f.isViolation = true := by
  contrapose h
  cases f with
  | violation => exact absurd rfl h
  | refused purpose refusal => exact not_isRejection_refused refusal.status _
  | unlinked | gone | disconnected | store => exact not_isRejection_of_status rfl (by decide)
  | unreadable cause => cases cause <;> exact not_isRejection_of_status rfl (by decide)

/-- Sending an answer does not make a rejection or a success of it. -/
theorem status_sent (q : Request) (r : Response) :
    (sent q r).status = r.status ∨ (sent q r).status = .int 500 := by
  unfold sent
  by_cases hbody : r.body.isSendable = true <;> by_cases hhead : q.method = "HEAD" <;>
    simp [hbody, hhead, bare, internal, withBody]

theorem not_isSuccess_sent {q : Request} (h : ¬ r.IsSuccess) : ¬ (sent q r).IsSuccess := by
  rcases status_sent q r with hstatus | hstatus
  · simpa [IsSuccess, hstatus] using h
  · exact not_isSuccess_of_status hstatus (by decide)

theorem isRejection_of_sent {q : Request} (h : (sent q r).IsRejection) : r.IsRejection := by
  rcases status_sent q r with hstatus | hstatus
  · simpa [IsRejection, hstatus] using h
  · exact absurd h (not_isRejection_of_status hstatus (by decide))

end Response

/-! ## Callers that are not known -/

/-- The endpoint that a request names, if it names one. -/
def Request.endpoint? (r : Request) : Option Endpoint :=
  match Target.ofText r.target with
  | .ok t => Keyed.get? (Endpoint.ofPath (Target.segments t.path)) r.method
  | .error _ => none

/-- A request as it is received: if its target names a user, no token that
its headers show counts. -/
def Request.received (r : Request) : Request :=
  match Target.ofText r.target with
  | .ok t => if t.hasUser then r.ofUser else r
  | .error _ => r

/-- The request shows no token that names a subject. -/
def Request.NamesNoSubject (r : Request) (s : Settings) (now : Instant) : Prop :=
  ∀ token, bearerToken? r = some token →
    ∀ subject, Token.subjectOf s now token ≠ .ok (some subject)

/-- All endpoints but two are those of resources. -/
theorem Endpoint.isGuarded_iff {e : Endpoint} :
    e.isGuarded = true ↔ e ≠ .issueToken ∧ e ≠ .health := by
  cases e <;> simp [isGuarded]

/-- **An action that denies a request**: in all worlds with some settings and
a time it ends in the same way, not with a success, and nothing is done. -/
def Denies (s : Settings) (now : Instant) (x : Action Response) : Prop :=
  ∃ result : Except Failure Response,
    (∀ response, result = .ok response → ¬ response.IsSuccess) ∧
      ∀ w : World, w.settings = s → w.clock = now → x w = ⟨result, [], w⟩

theorem denies_pure {r : Response} (h : ¬ r.IsSuccess) : Denies s now (pure r) :=
  ⟨.ok r, fun _ hr => Except.ok.inj hr ▸ h, fun _ _ _ => rfl⟩

theorem denies_ofShape_bind {e : Except Mismatch α} {k : α → Action Response}
    (h : ∀ a, e = .ok a → Denies s now (k a)) : Denies s now (Action.ofShape e >>= k) := by
  cases e with
  | error m => exact ⟨.error (.unreadable (.shape m)), fun _ hr => (nomatch hr), fun _ _ _ => rfl⟩
  | ok a => exact h a rfl

theorem denies_sent {q : Request} {x : Action Response} (h : Denies s now x) :
    Denies s now (sent q <$> x) := by
  obtain ⟨result, hresult, hx⟩ := h
  refine ⟨result.map (sent q), fun response hr => ?_, fun w hs hnow => ?_⟩
  · obtain ⟨a, ha, rfl⟩ := map_eq_ok_iff.1 hr
    exact Response.not_isSuccess_sent (hresult a ha)
  · rw [Action.map_apply, hx w hs hnow]

variable {r : Request} {e : Endpoint} {f : Front}

/-- Who shows no token that names a subject is objected to. -/
theorem exists_objectionToCaller (h : r.NamesNoSubject s now) :
    ∃ answer, objectionToCaller s now r = some answer ∧ ¬ answer.IsSuccess := by
  unfold objectionToCaller
  cases htoken : bearerToken? r with
  | none => exact ⟨_, rfl, Response.not_isSuccess_unauthenticated _⟩
  | some token =>
    cases hsubject : Token.subjectOf s now token with
    | error => exact ⟨_, by simp only [hsubject], Response.not_isSuccess_internal⟩
    | ok subject? =>
      cases subject? with
      | none =>
        exact ⟨.unauthenticated "Invalid or expired token", by simp only [hsubject],
          Response.not_isSuccess_unauthenticated _⟩
      | some subject => exact absurd hsubject (h token htoken subject)

theorem not_isSuccess_refusal (fault : Body.Fault) : ¬ (refusal fault).IsSuccess := by
  cases fault <;> exact Response.not_isSuccess_of_status rfl (by decide)

/-- The caller is asked for before the link is set up and before the values
are checked, but after the body is read. -/
theorem Front.denies_serve (hf : f.checksTokens = true) (he : e.isGuarded = true)
    (hr : r.NamesNoSubject s now) (bytes : Bytes) : Denies s now (f.serve e r bytes) := by
  obtain ⟨answer, hanswer, hsuccess⟩ := exists_objectionToCaller hr
  -- A body that cannot be read is refused before the caller is asked for.
  cases hbody : readBody e r bytes with
  | error fault =>
    refine ⟨.ok (refusal fault), fun _ h => Except.ok.inj h ▸ not_isSuccess_refusal fault,
      fun w _ _ => ?_⟩
    rw [serve, hbody]
    rfl
  | ok body =>
    have hobjection : f.objection s now e r = some answer := by
      rw [objection, hf, he, Bool.and_true, if_pos rfl, hanswer]
    refine ⟨.ok answer, fun _ h => Except.ok.inj h ▸ hsuccess, fun w hs hnow => ?_⟩
    subst hs hnow
    rw [serve, Action.bind_of_ok (x := Action.world) rfl, Outcome.preceded_nil, hbody]
    simp only [hobjection]
    rfl

theorem not_isSuccess_elsewhere (t : Target) : ¬ (elsewhere r t).IsSuccess := by
  unfold elsewhere
  dsimp only
  split <;> exact Response.not_isSuccess_of_status rfl (by decide)

theorem Front.denies_route (hf : f.checksTokens = true) {t : Target}
    (he : ∀ e, Keyed.get? (Endpoint.ofPath (Target.segments t.path)) r.method = some e →
      e.isGuarded = true)
    (hr : r.NamesNoSubject s now) (bytes : Bytes) : Denies s now (f.route r t bytes) := by
  unfold route
  split
  · exact denies_pure (not_isSuccess_elsewhere t)
  · split
    · rename_i e hget
      exact denies_serve hf (he e hget) hr bytes
    · exact denies_pure (Response.not_isSuccess_of_status rfl (by decide))

theorem Front.denies_answer (hf : f.checksTokens = true)
    (he : ∀ e, r.endpoint? = some e → e.isGuarded = true)
    (hr : r.received.NamesNoSubject s now) : Denies s now (f.answer r) := by
  refine denies_ofShape_bind fun t ht => denies_ofShape_bind fun bytes _ => ?_
  simp only [Request.endpoint?, ht] at he
  simp only [Request.received, ht] at hr
  cases hfault : t.schemeFault? with
  | some fault =>
    exact ⟨.error (.unreadable (.shape fault)), fun _ hr => (nomatch hr), fun _ _ _ => rfl⟩
  | none =>
    refine denies_sent (denies_route hf (fun e hget => he e ?_) hr bytes)
    split at hget <;> exact hget

/-! ## Requests that are rejected -/

open Response (not_isRejection_ok not_isRejection_created not_isRejection_noContent
  not_isRejection_of_status)

/-- **An action that does nothing before it rejects a request**, if it
does. -/
def RejectsFirst (x : Action Response) : Prop :=
  ∀ w response, (x w).result = .ok response → response.IsRejection →
    (x w).events = [] ∧ (x w).world = w

theorem rejectsFirst_pure (r : Response) : RejectsFirst (pure r) := fun _ _ _ _ => ⟨rfl, rfl⟩

theorem rejectsFirst_ofShape_bind {e : Except Mismatch α} {k : α → Action Response}
    (h : ∀ a, RejectsFirst (k a)) : RejectsFirst (Action.ofShape e >>= k) := by
  cases e with
  | error m => exact fun _ _ _ _ => ⟨rfl, rfl⟩
  | ok a => exact h a

theorem rejectsFirst_sent {q : Request} {x : Action Response} (h : RejectsFirst x) :
    RejectsFirst (sent q <$> x) := by
  intro w response hresponse hrejection
  rw [Action.map_apply] at hresponse ⊢
  obtain ⟨a, ha, rfl⟩ := map_eq_ok_iff.1 hresponse
  exact h w a ha (Response.isRejection_of_sent hrejection)

/-- An action that objects first, answered with what rejects nothing. -/
theorem rejectsFirst_settle {y : Action α} {respond : α → Response} (hy : y.ObjectsFirst)
    (hrespond : ∀ a, ¬ (respond a).IsRejection) : RejectsFirst (settle (answering respond y)) := by
  intro w response hresponse hrejection
  have hw := hy w
  rw [settle, Action.recover, answering, Action.map_apply] at hresponse ⊢
  cases hresult : (y w).result with
  | ok a =>
    rw [hresult] at hresponse
    cases hresponse
    exact absurd hrejection (hrespond a)
  | error f =>
    -- The failure is answered in the world that it leaves, which a violation has not changed.
    rw [hresult] at hresponse
    cases hresponse
    simpa [hresult, Except.map, Outcome.preceded] using
      hw f hresult (Response.isViolation_of_isRejection hrejection)

/-- An action that leaves everything as it is, whatever it answers. -/
theorem rejectsFirst_of_still {x : Action Response} (h : ∀ w, (x w).events = [] ∧ (x w).world = w) :
    RejectsFirst (settle x) := by
  intro w _ _ _
  have hw := h w
  unfold settle Action.recover
  rcases hx : x w with ⟨_ | a, events, v⟩ <;> rw [hx] at hw
  · simpa [Outcome.preceded] using hw
  · exact hw

/-- Issuing a token does nothing outside. -/
theorem issueToken_still (c : Body.Credentials) (w : World) :
    (issueToken c w).events = [] ∧ (issueToken c w).world = w := by
  rw [issueToken, Action.bind_of_ok (x := Action.world) rfl, Outcome.preceded_nil]
  cases Caller.authenticate w.settings (.str c.id) (.str c.secret) with
  | error => exact ⟨rfl, rfl⟩
  | ok known =>
    cases known with
    | false => exact ⟨rfl, rfl⟩
    | true =>
      cases Token.issue w.settings w.clock (.str c.id) none with
      | error => exact ⟨rfl, rfl⟩
      | ok token =>
        cases Token.secondsGranted w.settings with
        | error => exact ⟨rfl, rfl⟩
        | ok seconds => exact ⟨rfl, rfl⟩

/-- **Whatever an endpoint does, it does nothing before it rejects a
request.** -/
theorem rejectsFirst_handler {e : Endpoint} {body : Body} {x : Action Response}
    (h : handler e body = .ok x) : RejectsFirst (settle x) := by
  cases e with
  | issueToken =>
    obtain ⟨c, -, rfl⟩ := Checked.map_eq_ok_iff.1 h
    exact rejectsFirst_of_still (issueToken_still c)
  | health =>
    cases h
    exact rejectsFirst_of_still fun _ => ⟨rfl, rfl⟩
  | createDns =>
    obtain ⟨d, -, rfl⟩ := Checked.map_eq_ok_iff.1 h
    exact rejectsFirst_settle (Dns.create_objectsFirst d) fun _ => not_isRejection_created _
  | listDns =>
    cases h
    exact rejectsFirst_settle Dns.list_objectsFirst fun _ => not_isRejection_ok _
  | readDns vpcId =>
    obtain ⟨v, -, rfl⟩ := Checked.map_eq_ok_iff.1 h
    exact rejectsFirst_settle (Dns.read_objectsFirst v) fun _ => not_isRejection_ok _
  | updateDns vpcId =>
    obtain ⟨_, c, hv, -, rfl⟩ := Checked.seq_eq_ok_iff.1 h
    obtain ⟨v, -, rfl⟩ := Checked.map_eq_ok_iff.1 hv
    exact rejectsFirst_settle (Dns.update_objectsFirst v c) fun _ => not_isRejection_ok _
  | importDns vpcId =>
    obtain ⟨v, -, rfl⟩ := Checked.map_eq_ok_iff.1 h
    exact rejectsFirst_settle (Dns.adopt_objectsFirst v) fun _ => not_isRejection_ok _
  | deleteDns vpcId =>
    obtain ⟨v, -, rfl⟩ := Checked.map_eq_ok_iff.1 h
    refine rejectsFirst_settle (Dns.delete_objectsFirst (.str v)) fun found => ?_
    cases found with
    | true => exact not_isRejection_noContent
    | false => exact not_isRejection_of_status rfl (by decide)
  | createBinding vpcId =>
    obtain ⟨q, -, rfl⟩ := Checked.map_eq_ok_iff.1 h
    exact rejectsFirst_settle (Binding.create_objectsFirst _ q) fun _ => not_isRejection_created _
  | listBindings vpcId =>
    cases h
    exact rejectsFirst_settle (Binding.list_objectsFirst _) fun _ => not_isRejection_ok _
  | readBinding vpcId id =>
    cases h
    exact rejectsFirst_settle (Binding.read_objectsFirst _ _) fun _ => not_isRejection_ok _
  | lookUpBinding vpcId id =>
    cases h
    exact rejectsFirst_settle (Binding.fetch_objectsFirst _ _) fun _ => not_isRejection_ok _
  | renameBinding vpcId id =>
    obtain ⟨q, -, rfl⟩ := Checked.map_eq_ok_iff.1 h
    exact rejectsFirst_settle (Binding.rename_objectsFirst _ _ q) fun _ => not_isRejection_ok _
  | deleteBinding vpcId id =>
    cases h
    exact rejectsFirst_settle (Binding.delete_objectsFirst _ _) fun _ => not_isRejection_noContent
  | createGroup =>
    obtain ⟨q, -, rfl⟩ := Checked.map_eq_ok_iff.1 h
    exact rejectsFirst_settle (PlacementGroup.create_objectsFirst q)
      fun _ => not_isRejection_created _
  | listGroups =>
    cases h
    exact rejectsFirst_settle PlacementGroup.list_objectsFirst fun _ => not_isRejection_ok _
  | readGroup id =>
    cases h
    exact rejectsFirst_settle (PlacementGroup.read_objectsFirst _) fun _ => not_isRejection_ok _
  | lookUpGroup id =>
    cases h
    exact rejectsFirst_settle (PlacementGroup.fetch_objectsFirst _) fun _ => not_isRejection_ok _
  | renameGroup id =>
    obtain ⟨q, -, rfl⟩ := Checked.map_eq_ok_iff.1 h
    exact rejectsFirst_settle (PlacementGroup.rename_objectsFirst _ q) fun _ => not_isRejection_ok _
  | deleteGroup id =>
    cases h
    exact rejectsFirst_settle (PlacementGroup.delete_objectsFirst _)
      fun _ => not_isRejection_noContent
  | listRoutes vpcId tableId =>
    cases h
    exact rejectsFirst_settle (Route.list_objectsFirst _ _) fun _ => not_isRejection_ok _

theorem Front.rejectsFirst_serve (f : Front) (e : Endpoint) (r : Request) (bytes : Bytes) :
    RejectsFirst (f.serve e r bytes) := by
  -- Only the last stage does anything, so the world that is looked at first can be fixed.
  intro w
  suffices ∃ x, f.serve e r bytes w = x w ∧ RejectsFirst x by
    obtain ⟨x, hx, hrejects⟩ := this
    rw [hx]
    exact hrejects w
  rw [serve, Action.bind_of_ok (x := Action.world) rfl, Outcome.preceded_nil]
  refine ⟨_, rfl, ?_⟩
  cases readBody e r bytes with
  | error fault => exact rejectsFirst_pure _
  | ok body =>
    dsimp only
    split
    · exact rejectsFirst_pure _
    · split
      · exact rejectsFirst_pure _
      · rename_i x hhandler
        exact rejectsFirst_handler hhandler

theorem Front.rejectsFirst_route (f : Front) (r : Request) (t : Target) (bytes : Bytes) :
    RejectsFirst (f.route r t bytes) := by
  unfold route
  split
  · exact rejectsFirst_pure _
  · split
    · exact f.rejectsFirst_serve _ r bytes
    · exact rejectsFirst_pure _

theorem Front.rejectsFirst_answer (f : Front) (r : Request) : RejectsFirst (f.answer r) := by
  refine rejectsFirst_ofShape_bind fun t => rejectsFirst_ofShape_bind fun bytes => ?_
  cases t.schemeFault? with
  | some fault => exact fun _ _ _ _ => ⟨rfl, rfl⟩
  | none => exact rejectsFirst_sent (f.rejectsFirst_route _ t bytes)

/-- **A rejected request does nothing and gives nothing away.** If tokens are
asked for, a request for a resource that shows no token naming a subject is
never answered with a success: whatever is recorded and whatever the service
would reply, it is answered in the same way, nothing is done and nothing is
changed. And whoever asks, a request that is answered with the status 400 or
422 has made no call, has not touched the state table and has left the world
as it was. -/
theorem Front.rejection_does_nothing (f : Front) (r : Request) :
    (f.checksTokens = true → ∀ s now,
      (∀ e, r.endpoint? = some e → e ≠ .issueToken ∧ e ≠ .health) →
      r.received.NamesNoSubject s now →
      ∃ result : Except Failure Response,
        (∀ response, result = .ok response → ¬ response.IsSuccess) ∧
          ∀ w : World, w.settings = s → w.clock = now → f.answer r w = ⟨result, [], w⟩) ∧
      ∀ w response, (f.answer r w).result = .ok response → response.IsRejection →
        (f.answer r w).events = [] ∧ (f.answer r w).world = w := by
  refine ⟨fun hf s now he hr => ?_, f.rejectsFirst_answer r⟩
  exact f.denies_answer hf (fun e hget => Endpoint.isGuarded_iff.2 (he e hget)) hr

/-- A request for a configuration that shows no token. -/
def tokenless : Request where
  method := "GET"
  target := "/dns-configs/vpc-1"
  headers := []
  content := .text ""

/-- A request to delegate that does not say to whom. -/
def unaddressed : Request where
  method := "POST"
  target := "/dns-configs"
  headers := [("content-type", .str "application/json")]
  content := .json (.obj [("vpc_id", .str "vpc-1"), ("resolver_type", .str "delegated")])

/-- The outcome of the latter where no tokens are asked for. -/
def unaddressedOutcome : Outcome Response :=
  Front.answer ⟨false, false⟩ unaddressed (Dns.calm [] [])

theorem unaddressed_rejected :
    ∃ response, unaddressedOutcome.result = .ok response ∧ response.IsRejection := by
  have h : (match unaddressedOutcome.result with
    | .ok response => response.status.same (.int 400)
    | .error _ => false) = true := by decide +kernel
  split at h
  · rename_i response hresponse
    exact ⟨response, hresponse, .inl h⟩
  · cases h

/-- A request without a token is denied in all worlds, and one that violates a
constraint is rejected before anything is done. -/
theorem Front.rejection_does_nothing_tokenless :
    tokenless.endpoint? = some (.readDns "vpc-1") ∧
      (∃ result : Except Failure Response,
        (∀ response, result = .ok response → ¬ response.IsSuccess) ∧
          ∀ w : World, w.settings = .default → w.clock = ⟨1700000000, 0⟩ →
            Front.answer ⟨true, true⟩ tokenless w = ⟨result, [], w⟩) ∧
      (∃ response, unaddressedOutcome.result = .ok response ∧ response.IsRejection) ∧
      unaddressedOutcome.events = [] ∧ unaddressedOutcome.world = Dns.calm [] [] := by
  have hendpoint : tokenless.endpoint? = some (.readDns "vpc-1") := by decide +kernel
  have htoken : bearerToken? tokenless.received = none := by decide +kernel
  obtain ⟨denied, -⟩ := Front.rejection_does_nothing ⟨true, true⟩ tokenless
  obtain ⟨-, rejects⟩ := Front.rejection_does_nothing ⟨false, false⟩ unaddressed
  obtain ⟨response, hresponse, hrejection⟩ := unaddressed_rejected
  refine ⟨hendpoint, denied rfl .default ⟨1700000000, 0⟩ (fun e he => ?_) (fun token ht => ?_),
    unaddressed_rejected, rejects _ response hresponse hrejection⟩
  · cases hendpoint.symm.trans he
    exact ⟨nofun, nofun⟩
  · cases htoken.symm.trans ht

end Web

end NetSteward
