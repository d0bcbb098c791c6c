import NetSteward.Proofs.Dns.Custody
import NetSteward.Proofs.Token.Reading
import NetSteward.Token.Lifetime
import NetSteward.Web.Front
/-!
# Tokens hold until they expire

A token is issued on a clock that can be read, for a lifetime that ends
at a date. From then on it names its subject up to the second in which it
expires, that one included, and after it names nobody; a caller that got
the token in exchange for its secret is let in for as many seconds as it
was told: `issued_token_holds` is the main result.

The algorithm that is set has to be one that signs with a secret. And two
things are assumed of what is set as the key. It has to be a key, or no
token is issued. And for checking a signature a text that is JSON is read
first, so the key has to be among those that are named by what is read.
That is so for every text that is no JSON.
-/

namespace NetSteward

open Time (Instant Duration)

namespace Token

variable {s : Settings} {a : Algorithm} {key : Bytes} {subject : String} {expiry : Int}
variable {now : Instant}

/-! ## Accepting -/

/-- Whether a token is accepted as one of a subject up to a second, and
after it no longer. -/
def HoldsUntil (s : Settings) (token subject : String) (expiry : Int) : Prop :=
  ∀ now : Instant, now.hasDate = true →
    subjectOf s now token = .ok (if now.seconds ≤ expiry then some subject else none)

/-- A second that has a date is not too long to be read back. -/
theorem fits_of_hasDate {t : Instant} (dated : t.hasDate = true) : Json.Fits t.seconds := by
  rw [Instant.hasDate, Bool.and_eq_true, decide_eq_true_eq, decide_eq_true_eq,
    Instant.firstSecond, Instant.lastSecond] at dated
  have short : (Nat.toDigits 10 t.seconds.natAbs).length ≤ 12 :=
    (Nat.length_toDigits_le_iff (by decide) (by decide)).2 (by omega)
  exact Nat.le_trans short (by decide)

/-- The members of a payload are read back. -/
theorem payload_plain (settled : Json.Settled subject) (fits : Json.Fits expiry) :
    ∀ e ∈ [("sub", Json.str subject), ("exp", Json.int expiry)], Json.PlainMember e := by
  have sub : Json.Settled "sub" := Json.settled_of_plain (by decide)
  have exp : Json.Settled "exp" := Json.settled_of_plain (by decide)
  simp only [List.mem_cons, List.not_mem_nil, or_false, forall_eq_or_imp, forall_eq]
  exact ⟨⟨sub, .str settled⟩, ⟨exp, .int fits⟩⟩

/-- A token is accepted as its claims are, under settings that name its
algorithm and its key. -/
theorem subjectOf_write (named : s.tokenAlgorithm = .str a.name)
    (found : Key.Found key s.tokenKey) (settled : Json.Settled subject)
    (fits : Json.Fits expiry) :
    subjectOf s now (String.ofList (write a key (payload (.str subject) expiry))) =
      match checkClaims [("sub", .str subject), ("exp", .int expiry)] now with
      | .ok () => .ok (some subject)
      | .error .invalid => .ok none
      | .error (.unfit m) => .error m := by
  have claims := claims?_write (a := a) found (payload_plain settled fits)
  have members : Keyed.ofPairs [("sub", Json.str subject), ("exp", Json.int expiry)] =
      [("sub", .str subject), ("exp", .int expiry)] := rfl
  rw [members] at claims
  rw [subjectOf, named, payload, claims]
  rfl

/-- What an issued token claims is accepted up to its expiry, on a clock
that can be read. -/
theorem checkClaims_issued :
    checkClaims [("sub", .str subject), ("exp", .int expiry)] now =
      match now.read with
      | .ok now => if now.seconds ≤ expiry then .ok () else .error .invalid
      | .error m => .error (.unfit m) := by
  rcases hread : now.read with m | shown
  · simp [checkClaims, checkTime, secondsOf, currentSecond, hread, bind, Except.bind]
  · by_cases h : shown.seconds ≤ expiry <;>
      simp [checkClaims, checkTime, checkAbsent, checkText, secondsOf, currentSecond, hread, h,
        bind, Except.bind, pure, Except.pure]

/-- **A token holds until it expires**, under settings that name its
algorithm and its key. -/
theorem holdsUntil_write (named : s.tokenAlgorithm = .str a.name)
    (found : Key.Found key s.tokenKey) (settled : Json.Settled subject)
    (fits : Json.Fits expiry) :
    HoldsUntil s (String.ofList (write a key (payload (.str subject) expiry))) subject expiry := by
  intro now dated
  rw [subjectOf_write named found settled fits, checkClaims_issued, Instant.read_of_hasDate dated]
  by_cases h : now.seconds ≤ expiry <;> simp only [h, if_true, if_false]

/-- **A token is issued** on a readable clock, for a lifetime whose end has
a date. -/
theorem issue_eq {asked : Option Duration} {d : Duration}
    (named : s.tokenAlgorithm = .str a.name) (accepted : Key.bytes s.tokenKey = .ok key)
    (granted : lifetime s asked = .ok d)
    (readable : now.hasDate = true) (dated : (now.add d).hasDate = true) (subject : Json) :
    issue s now subject asked =
      .ok (String.ofList (write a key (payload subject (now.add d).seconds))) := by
  simp only [issue, Instant.read_of_hasDate readable, granted, dated, named,
    Algorithm.ofSetting_name, accepted, bind, Except.bind, if_true]
  rfl

/-! ## Requests that show a token -/

/-- The token that a request shows is read off its header. -/
theorem bearerToken?_write {r : Web.Request} {key : Bytes} {payload : Json}
    (shown : r.header? "authorization" = some ("Bearer " ++ String.ofList (write a key payload))) :
    Web.bearerToken? r = some (String.ofList (write a key payload)) := by
  have unblank : ∀ c ∈ write a key payload, Text.isBlank c = false :=
    forall_mem_write (by decide) (by decide) a key payload
  have whole : ("Bearer " ++ String.ofList (write a key payload)).toList =
      "Bearer".toList ++ ' ' :: write a key payload := by
    rw [String.toList_append, String.toList_ofList (l := write a key payload)]
    rfl
  have cut : Text.cutAt ' ' ("Bearer " ++ String.ofList (write a key payload)).toList =
      ("Bearer".toList, write a key payload) := by
    rw [whole, Text.cutAt, Text.splitFirst?_append (by decide), Option.getD_some]
  rw [Web.bearerToken?, shown, Option.getD_some, cut]
  dsimp only
  rw [Text.strip_of_not unblank, if_pos (by decide)]

/-- A request that shows a token is objected to once the token has
expired, and otherwise only for what else is wrong. -/
theorem objection_of_holdsUntil {token : String} (holds : HoldsUntil s token subject expiry)
    (dated : now.hasDate = true) {f : Web.Front} {e : Web.Endpoint} {r : Web.Request}
    (checks : f.checksTokens = true) (guarded : e.isGuarded = true)
    (shown : Web.bearerToken? r = some token) :
    f.objection s now e r =
      if now.seconds ≤ expiry then { f with checksTokens := false }.objection s now e r
      else some (.unauthenticated "Invalid or expired token") := by
  have subject := holds now dated
  have caller : Web.objectionToCaller s now r =
      if now.seconds ≤ expiry then none
      else some (.unauthenticated "Invalid or expired token") := by
    rw [Web.objectionToCaller, shown]
    dsimp only
    rw [subject]
    by_cases h : now.seconds ≤ expiry
    · rw [if_pos h, if_pos h]
    · rw [if_neg h, if_neg h]
  simp only [Web.Front.objection, checks, guarded, Bool.and_self, if_true, caller,
    Bool.false_and, Bool.false_eq_true, if_false]
  by_cases h : now.seconds ≤ expiry
  · rw [if_pos h, if_pos h]
  · rw [if_neg h, if_neg h]

/-- A lifetime of whole minutes ends a whole number of seconds later. -/
theorem seconds_add_minutes (m : Int) (below : now.micros < 1000000) :
    (now.add (Time.ofWhole Time.minute m)).seconds = now.seconds + m * 60 := by
  simp only [Instant.add, Time.ofWhole, Time.minute, Time.second]
  omega

/-- A caller that knows its secret gets the token that is issued to it,
with the seconds of its lifetime. -/
theorem issueToken_eq {w : World} {token secret : String} {m : Int}
    (known : Caller.authenticate w.settings (.str subject) (.str secret) = .ok true)
    (issued : issue w.settings w.clock (.str subject) none = .ok token)
    (minutes : w.settings.tokenMinutes = .int m) :
    Web.issueToken ⟨subject, secret⟩ w =
      ⟨.ok (.ok (Web.tokenJson token (m * 60))), [], w⟩ := by
  have seconds : secondsGranted w.settings = .ok (m * 60) := by rw [secondsGranted, minutes]
  simp only [Web.issueToken, Action.bind_apply, Action.world, Outcome.andThen, known, issued,
    seconds, Action.ofShape, shaped_ok, Action.ofRead_ok, Action.pure_apply, if_true]
  rfl

/-! ## Issuing and accepting -/

/-- **An issued token holds until it expires**, under settings that name a
keyed hash, as they do by default. Every clock that shows a date at or
before the second of the expiry finds its subject in it, and every later
one finds nobody. A caller that asks for a token is told the minutes that
are set, in seconds, and the endpoints that ask for a token do not object
to it for just as long. -/
theorem issued_token_holds {w : World} {asked : Option Duration} {d : Duration} {a : Algorithm}
    {key : Bytes} {subject : String} (settled : Json.Settled subject)
    (named : w.settings.tokenAlgorithm = .str a.name)
    (accepted : Key.bytes w.settings.tokenKey = .ok key)
    (found : Key.Found key w.settings.tokenKey) (granted : lifetime w.settings asked = .ok d)
    (readable : w.clock.hasDate = true) (dated : (w.clock.add d).hasDate = true) :
    ∃ token, issue w.settings w.clock (.str subject) asked = .ok token ∧
      (∀ wait : Int, (w.clock.wait wait).hasDate = true →
        subjectOf w.settings (w.clock.wait wait) token =
          .ok (if w.clock.seconds + wait ≤ (w.clock.add d).seconds then some subject else none)) ∧
      ∀ (m : Int) (secret : String), asked = none → w.settings.tokenMinutes = .int m →
        w.clock.micros < 1000000 →
        Caller.authenticate w.settings (.str subject) (.str secret) = .ok true →
        Web.issueToken ⟨subject, secret⟩ w =
            ⟨.ok (.ok (Web.tokenJson token (m * 60))), [], w⟩ ∧
          ∀ (f : Web.Front) (e : Web.Endpoint) (r : Web.Request) (wait : Int),
            f.checksTokens = true → e.isGuarded = true →
            r.header? "authorization" = some ("Bearer " ++ token) →
            (w.clock.wait wait).hasDate = true →
            f.objection w.settings (w.clock.wait wait) e r =
              if wait ≤ m * 60 then
                { f with checksTokens := false }.objection w.settings (w.clock.wait wait) e r
              else some (.unauthenticated "Invalid or expired token") := by
  have issued := issue_eq named accepted granted readable dated (.str subject)
  have holds := holdsUntil_write named found settled (fits_of_hasDate dated)
  refine ⟨_, issued, fun wait shown => holds _ shown, ?_⟩
  intro m secret unasked minutes below known
  subst unasked
  -- No lifetime was asked for, so it is the one of the settings, which ends on the second.
  have granted' : lifetime w.settings none = .ok (Time.ofWhole Time.minute m) := by
    rw [lifetime, defaultLifetime, minutes]
    rfl
  obtain rfl : Time.ofWhole Time.minute m = d := Except.ok.inj (granted'.symm.trans granted)
  refine ⟨issueToken_eq known issued minutes, ?_⟩
  intro f e r wait checks guarded header shown
  have objection := objection_of_holdsUntil holds shown checks guarded (bearerToken?_write header)
  rw [objection, seconds_add_minutes m below, Instant.wait]
  have boundary : w.clock.seconds + wait ≤ w.clock.seconds + m * 60 ↔ wait ≤ m * 60 := by omega
  simp only [boundary]

/-- By default a caller is given a token for an hour, and it is accepted in
the last second of it. -/
theorem issued_token_holds_hour :
    ∃ token, issue .default ⟨1700000000, 0⟩ (.str "terraform") none = .ok token ∧
      subjectOf .default ⟨1700003600, 0⟩ token = .ok (some "terraform") ∧
      subjectOf .default ⟨1700003601, 0⟩ token = .ok none ∧
      Web.issueToken ⟨"terraform", "secret"⟩ (Dns.calm [] []) =
        ⟨.ok (.ok (Web.tokenJson token 3600)), [], Dns.calm [] []⟩ := by
  have settled : Json.Settled "terraform" := Json.settled_of_plain (by decide)
  obtain ⟨key, accepted⟩ : ∃ key, Key.bytes (Dns.calm [] []).settings.tokenKey = .ok key :=
    ⟨_, rfl⟩
  have unreadable : Json.readAll .verbatim "changeme-super-secret-key".toList =
      .error (.malformed "changeme-super-secret-key".toList) := rfl
  have found : Key.Found key (Dns.calm [] []).settings.tokenKey :=
    Key.found_of_unreadable unreadable accepted
  have granted : lifetime (Dns.calm [] []).settings none = .ok 3600000000 := rfl
  have known : Caller.authenticate (Dns.calm [] []).settings (.str "terraform") (.str "secret") =
      .ok true := rfl
  obtain ⟨token, issued, holds, login⟩ :=
    issued_token_holds (a := .hs256) settled rfl accepted found granted (by decide) (by decide)
  have last := holds 3600 (by decide)
  have past := holds 3601 (by decide)
  rw [if_pos (by decide)] at last
  rw [if_neg (by decide)] at past
  exact ⟨token, issued, last, past, (login 60 "secret" rfl rfl (by decide) known).1⟩

/-! ## Tokens that are not accepted -/

/-- The settings with a key that is JSON text, for a set of no keys. -/
def emptySet : Settings := { Settings.default with tokenKey := .str "\x7b\"keys\":[]\x7d" }

theorem candidates_emptySet : Key.candidates emptySet.tokenKey = .ok [] := by
  have read : Json.readAll .verbatim "\x7b\"keys\":[]\x7d".toList =
      .ok (.obj [("keys", .arr [])]) := by
    simp [Json.readAll, Json.readValue, Json.skipGap, Json.isGap, Json.depthLimit,
      Json.readMembers, Json.readString, Json.readChars, bind, Except.bind, pure, Except.pure,
      Keyed.insert]
  rw [Key.candidates, emptySet, Key.opened, read]
  rfl

/-- A token is refused under a setting that names no keys. -/
theorem subjectOf_write_of_no_keys {payload : Json} (named : s.tokenAlgorithm = .str a.name)
    (noKeys : Key.candidates s.tokenKey = .ok []) :
    subjectOf s now (String.ofList (write a key payload)) = .ok none := by
  simp only [subjectOf, named, claims?, parse?_write, namesAlgorithm_parsed, if_true, noKeys,
    bind, Except.bind, isSignedBy]
  rfl

/-- Two halves of a pair, which stand next to each other as two code
points. -/
def halves : String := String.ofList (Text.ofCodePoints [0xD83D, 0xDE00])

/-- They are written like the character of the pair. -/
theorem writeString_halves : Json.writeString halves = Json.writeString "😀" := by
  rw [Json.writeString, halves, String.toList_ofList, Text.codePoints_ofCodePoints (by decide)]
  decide

/-- **A token need not hold for its subject until it expires**: it is
refused under a key that is JSON text for other keys, it is an error on a
clock that shows no date, and it names another subject than one with two
halves of a pair next to each other. -/
theorem issued_token_refused :
    (∃ token, issue emptySet ⟨1700000000, 0⟩ (.str "ci") none = .ok token ∧
      subjectOf emptySet ⟨1700000000, 0⟩ token = .ok none) ∧
    (∃ token, issue .default ⟨1700000000, 0⟩ (.str "a") (some 100000000) = .ok token ∧
      subjectOf .default ⟨1001700000000, 0⟩ token = .error .malformed) ∧
    ∃ token, issue .default ⟨1700000000, 0⟩ (.str halves) (some 100000000) = .ok token ∧
      subjectOf .default ⟨1700000000, 0⟩ token = .ok (some "😀") ∧ halves ≠ "😀" := by
  obtain ⟨key, accepted⟩ : ∃ key, Key.bytes Settings.default.tokenKey = .ok key := ⟨_, rfl⟩
  have unreadable : Json.readAll .verbatim "changeme-super-secret-key".toList =
      .error (.malformed "changeme-super-secret-key".toList) := rfl
  have found : Key.Found key Settings.default.tokenKey :=
    Key.found_of_unreadable unreadable accepted
  have granted : lifetime .default (some 100000000) = .ok 100000000 := rfl
  have dated : (Instant.add ⟨1700000000, 0⟩ 100000000).hasDate = true := by decide
  refine ⟨?_, ?_, ?_⟩
  · obtain ⟨key, accepted⟩ : ∃ key, Key.bytes emptySet.tokenKey = .ok key := ⟨_, rfl⟩
    have granted : lifetime emptySet none = .ok 3600000000 := rfl
    exact ⟨_, issue_eq (a := .hs256) rfl accepted granted (by decide) (by decide) _,
      subjectOf_write_of_no_keys rfl candidates_emptySet⟩
  · have settled : Json.Settled "a" := Json.settled_of_plain (by decide)
    have clock : Instant.read ⟨1001700000000, 0⟩ = .error .malformed := by
      rw [Instant.read, if_neg (by decide), if_pos (by decide)]
    refine ⟨_, issue_eq (a := .hs256) rfl accepted granted (by decide) dated _, ?_⟩
    rw [subjectOf_write rfl found settled (fits_of_hasDate dated), checkClaims_issued, clock]
  · have settled : Json.Settled "😀" := Json.settled_of_plain (by decide)
    have same (expiry : Int) : write .hs256 key (payload (.str halves) expiry) =
        write .hs256 key (payload (.str "😀") expiry) := by
      simp only [write, segment, payload, Json.write, Json.writeMember, writeString_halves]
    refine ⟨_, issue_eq (a := .hs256) rfl accepted granted (by decide) dated _, ?_, by decide⟩
    rw [same, holdsUntil_write rfl found settled (fits_of_hasDate dated) _ (by decide),
      if_pos (by decide)]

end Token

end NetSteward
