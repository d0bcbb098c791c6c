import NetSteward.Proofs.Token.Acceptance
/-!
# Only what is signed is accepted

Whatever text is shown as a token, it names a subject only if it is made of
three segments of which the last is the keyed hash of the others under a key
that is set, the first an object that names the algorithm that is set, and
the one in between an object that names the subject and claims nothing
against it; and where all that is set are keys, every such text does. From
this it follows that a text with another signature is never accepted, and
that a token is accepted in one stretch of time: `accepted_token_is_signed`
is the main result.
-/

namespace NetSteward

open Time (Instant)

namespace Token

variable {s : Settings} {a : Algorithm} {token : String}

/-- **The segments of a text**: it is split at its last point and, before
that, at its first. -/
theorem segments?_eq_some_iff {cs : List Char} {g : Segments} :
    segments? cs = some g ↔
      cs = g.signed ++ '.' :: g.signature ∧ '.' ∉ g.signature ∧ '.' ∉ g.header := by
  simp only [segments?, Option.bind_eq_bind, Option.bind_eq_some_iff, Prod.exists,
    Text.splitLast?_eq_some_iff, Text.splitFirst?_eq_some_iff, Option.pure_def, Option.some.injEq]
  constructor
  · rintro ⟨signed, signature, ⟨rfl, hlast⟩, header, payload, ⟨rfl, hfirst⟩, rfl⟩
    exact ⟨rfl, hlast, hfirst⟩
  · rintro ⟨rfl, hlast, hfirst⟩
    exact ⟨_, _, ⟨rfl, hlast⟩, _, _, ⟨rfl, hfirst⟩, rfl⟩

/-! ## Objects -/

/-- The object that a segment writes: the segment holds the bytes of its
text. -/
def Writes (segment : List Char) (members : Keyed Json) : Prop :=
  ∃ bytes text, segmentBytes? segment = some bytes ∧ Utf8.decode? bytes = some text ∧
    Json.read (Text.ofCharacters text) = .ok (.obj members)

theorem object?_of_writes {segment : List Char} {members : Keyed Json}
    (h : Writes segment members) :
    ∃ bytes, segmentBytes? segment = some bytes ∧ object? bytes = .ok (some members) := by
  obtain ⟨bytes, text, hbytes, htext, hread⟩ := h
  refine ⟨bytes, hbytes, ?_⟩
  rw [object?, htext]
  simp only [hread]

theorem writes_of_object? {segment : List Char} {bytes : Bytes} {members : Keyed Json}
    (hbytes : segmentBytes? segment = some bytes) (h : object? bytes = .ok (some members)) :
    Writes segment members := by
  unfold object? at h
  split at h
  · cases h
  · rename_i text htext
    split at h
    · rename_i members hread
      cases h
      exact ⟨bytes, text, hbytes, htext, hread⟩
    · cases h
    · cases h

/-- What a token is read as, if its form is right. -/
theorem exists_of_parse? {t : Parsed} (h : parse? token = .ok (some t)) :
    ∃ g : Segments, Text.characters? token.toList = some (g.signed ++ '.' :: g.signature) ∧
      '.' ∉ g.signature ∧ '.' ∉ g.header ∧ t.signed = g.signed ∧ Writes g.header t.header ∧
      segmentBytes? g.payload = some t.payload ∧ segmentBytes? g.signature = some t.signature := by
  unfold parse? at h
  split at h
  · cases h
  · rename_i cs hcs
    split at h
    · cases h
    · rename_i g hg
      obtain ⟨rfl, hlast, hfirst⟩ := segments?_eq_some_iff.1 hg
      obtain ⟨header?, hheader, h⟩ := bind_eq_ok_iff.1 h
      have hparts := Except.ok.inj h
      simp only [Option.bind_eq_bind, Option.bind_eq_some_iff, Option.pure_def,
        Option.some.injEq] at hparts
      obtain ⟨header, rfl, payload, hpayload, signature, hsignature, rfl⟩ := hparts
      unfold Segments.header? at hheader
      split at hheader
      · cases hheader
      · rename_i bytes hbytes
        exact ⟨g, hcs, hlast, hfirst, rfl, writes_of_object? hbytes hheader, hpayload, hsignature⟩

/-- A text of three segments is read as such, if the first is an object and the
others hold bytes. -/
theorem parse?_eq {g : Segments} {header : Keyed Json} {payload given : Bytes}
    (hcs : Text.characters? token.toList = some (g.signed ++ '.' :: g.signature))
    (hlast : '.' ∉ g.signature) (hfirst : '.' ∉ g.header) (hheader : Writes g.header header)
    (hpayload : segmentBytes? g.payload = some payload)
    (hgiven : segmentBytes? g.signature = some given) :
    parse? token = .ok (some ⟨header, payload, given, g.signed⟩) := by
  obtain ⟨bytes, hbytes, hobject⟩ := object?_of_writes hheader
  have hread : g.header? = .ok (some header) := by
    rw [Segments.header?, hbytes]
    exact hobject
  rw [parse?, hcs]
  simp only [segments?_eq_some_iff.2 ⟨rfl, hlast, hfirst⟩, hread, hpayload, hgiven]
  rfl

/-! ## Keys -/

/-- A setting names a key: it is the one of a value that the setting
names. -/
def Key.NamedBy (setting : Json) (key : Bytes) : Prop :=
  ∃ keys, Key.candidates setting = .ok keys ∧ ∃ j ∈ keys, Key.bytes j = .ok key

/-- All that a setting names are keys. -/
def Key.AllUsable (setting : Json) : Prop :=
  ∃ keys, Key.candidates setting = .ok keys ∧ ∀ j ∈ keys, ∃ key, Key.bytes j = .ok key

/-- A text that is no JSON names its own bytes and nothing else. -/
theorem Key.bytes_of_namedBy {secret : String} {fault : Json.Fault} {key : Bytes}
    (hsecret : Json.readAll .verbatim secret.toList = .error fault)
    (h : Key.NamedBy (.str secret) key) : Text.bytes? secret.toList = some key := by
  obtain ⟨keys, hkeys, j, hj, hkey⟩ := h
  cases hkeys.symm.trans (candidates_of_unreadable hsecret)
  cases List.mem_singleton.1 hj
  rw [Key.bytes] at hkey
  split at hkey
  · cases hkey
  · rename_i bytes hbytes
    split at hkey
    · cases hkey
    · cases hkey
      exact hbytes

/-- A signature is accepted only if it is made with one of the keys. -/
theorem exists_key_of_isSignedBy {t : Parsed} {keys : List Json}
    (h : isSignedBy (.str a.name) t keys = .ok true) :
    ∃ j ∈ keys, ∃ key, Key.bytes j = .ok key ∧ t.signature = signature a key t.signed := by
  induction keys with
  | nil => cases h
  | cons j rest ih =>
    rw [isSignedBy_cons] at h
    obtain ⟨key, hkey, h⟩ := bind_eq_ok_iff.1 h
    split at h
    · rename_i hsigned
      exact ⟨j, List.mem_cons_self, key, hkey, hsigned⟩
    · obtain ⟨other, hother, hsigned⟩ := ih h
      exact ⟨other, List.mem_cons_of_mem j hother, hsigned⟩

/-- If all of them are keys, a signature that is made with one of them is
accepted. -/
theorem isSignedBy_eq_true {t : Parsed} {keys : List Json}
    (husable : ∀ j ∈ keys, ∃ key, Key.bytes j = .ok key)
    (h : ∃ j ∈ keys, ∃ key, Key.bytes j = .ok key ∧ t.signature = signature a key t.signed) :
    isSignedBy (.str a.name) t keys = .ok true := by
  induction keys with
  | nil =>
    obtain ⟨j, hj, -⟩ := h
    cases hj
  | cons first rest ih =>
    obtain ⟨⟨key, hkey⟩, hrest⟩ := List.forall_mem_cons.1 husable
    by_cases hsigned : t.signature = signature a key t.signed
    · simp only [isSignedBy_cons, hkey, bind, Except.bind, if_pos hsigned]
    · -- The key that it is made with comes later.
      obtain ⟨j, hj, other, hother, hmade⟩ := h
      rcases List.mem_cons.1 hj with rfl | hj
      · cases hkey.symm.trans hother
        exact absurd hmade hsigned
      · simp only [isSignedBy_cons, hkey, bind, Except.bind, if_neg hsigned,
          ih hrest ⟨j, hj, other, hother, hmade⟩]

/-- If all of them are keys and it is made with none, it is refused. -/
theorem isSignedBy_eq_false {t : Parsed} {keys : List Json}
    (husable : ∀ j ∈ keys, ∃ key, Key.bytes j = .ok key)
    (h : ∀ j ∈ keys, ∀ key, Key.bytes j = .ok key → t.signature ≠ signature a key t.signed) :
    isSignedBy (.str a.name) t keys = .ok false := by
  induction keys with
  | nil => rfl
  | cons first rest ih =>
    obtain ⟨⟨key, hkey⟩, hrest⟩ := List.forall_mem_cons.1 husable
    obtain ⟨hunmade, hunmaderest⟩ := List.forall_mem_cons.1 h
    simp only [isSignedBy_cons, hkey, bind, Except.bind, if_neg (hunmade key hkey),
      ih hrest hunmaderest]

/-! ## Claims -/

/-- **A text is a signed token** with some claims, under a key that a setting
names: it is split at its last point into what is signed and a signature, and
the former at its first point into a header and a payload; the signature is
the keyed hash of what is signed, by the algorithm that the header names, and
the payload writes the claims. -/
structure Signed (a : Algorithm) (setting : Json) (token : String) (g : Segments) (key : Bytes)
    (header claims : Keyed Json) : Prop where
  split : Text.characters? token.toList = some (g.signed ++ '.' :: g.signature)
  last : '.' ∉ g.signature
  first : '.' ∉ g.header
  named : Key.NamedBy setting key
  signature_eq : segmentBytes? g.signature = some (a.hash key (Utf8.encode g.signed))
  writes_header : Writes g.header header
  algorithm_eq : Keyed.get? header "alg" = some (.str a.name)
  writes_payload : Writes g.payload claims

/-- **Claims are read only of a signed token.** -/
theorem exists_signed_of_claims? {setting : Json} {claims : Keyed Json}
    (h : claims? (.str a.name) setting token = .ok (some claims)) :
    ∃ g key header, Signed a setting token g key header claims := by
  unfold claims? at h
  split at h
  · cases h
  · cases h
  · rename_i t ht
    obtain ⟨g, hcs, hlast, hfirst, hsigned, hheader, hpayload, hsignature⟩ := exists_of_parse? ht
    split at h
    · rename_i halg
      obtain ⟨keys, hkeys, h⟩ := bind_eq_ok_iff.1 h
      obtain ⟨accepted, hby, h⟩ := bind_eq_ok_iff.1 h
      cases accepted with
      | false => cases h
      | true =>
        -- The keys are tried in order; it does not matter here which one fits.
        obtain ⟨j, hj, key, hkey, hmade⟩ := exists_key_of_isSignedBy hby
        refine ⟨g, key, t.header, hcs, hlast, hfirst, ⟨keys, hkeys, j, hj, hkey⟩, ?_, hheader,
          namesAlgorithm_iff.1 halg, writes_of_object? hpayload h⟩
        rw [hsignature, hmade, hsigned, signature]
    · cases h

/-- **The claims of a signed token are read**, if all that the setting names are
keys. -/
theorem claims?_of_signed {setting : Json} {g : Segments} {key : Bytes}
    {header claims : Keyed Json} (h : Signed a setting token g key header claims)
    (husable : Key.AllUsable setting) :
    claims? (.str a.name) setting token = .ok (some claims) := by
  obtain ⟨payload, hpayload, hobject⟩ := object?_of_writes h.writes_payload
  obtain ⟨keys, hkeys, j, hj, hkey⟩ := h.named
  obtain ⟨keys', hkeys', hall⟩ := husable
  cases hkeys.symm.trans hkeys'
  have hby : isSignedBy (.str a.name)
      ⟨header, payload, a.hash key (Utf8.encode g.signed), g.signed⟩ keys = .ok true :=
    isSignedBy_eq_true hall ⟨j, hj, key, hkey, rfl⟩
  rw [claims?, parse?_eq h.split h.last h.first h.writes_header hpayload h.signature_eq]
  simp only [namesAlgorithm_iff.2 h.algorithm_eq, if_true, hkeys, bind, Except.bind, hby, hobject]

/-- A claim that is a time writes a number of seconds that is as it should
be, if it is made. -/
def TimeClaim (claims : Keyed Json) (name : String) (fits : Int → Prop) : Prop :=
  ∀ j, Keyed.get? claims name = some j → ∃ n, secondsOf j = .ok n ∧ fits n

/-- A claim that is a text, if it is made. -/
def TextClaim (claims : Keyed Json) (name : String) : Prop :=
  ∀ j, Keyed.get? claims name = some j → ∃ text, j = .str text

/-- Nothing that is claimed speaks against a token at an instant. -/
structure Unopposed (claims : Keyed Json) (now : Instant) : Prop where
  issued : TimeClaim claims "iat" fun _ => True
  started : TimeClaim claims "nbf" fun n => now.hasDate = true ∧ n ≤ now.seconds
  unexpired : TimeClaim claims "exp" fun n => now.hasDate = true ∧ now.seconds ≤ n
  unaddressed : Keyed.get? claims "aud" = none
  subject : TextClaim claims "sub"
  identifier : TextClaim claims "jti"
  unhashed : Keyed.get? claims "at_hash" = none

variable {claims : Keyed Json} {name : String} {now : Instant}

theorem checkTime_eq_ok_iff {accepts : Int → Except Objection Bool} :
    checkTime claims name accepts = .ok () ↔ TimeClaim claims name (accepts · = .ok true) := by
  unfold checkTime TimeClaim
  cases Keyed.get? claims name with
  | none => simp
  | some j =>
    simp only [Option.some.injEq, forall_eq', bind_eq_ok_iff]
    refine exists_congr fun n => and_congr_right fun _ => ⟨?_, fun h => ⟨true, h, rfl⟩⟩
    rintro ⟨accepted, h, haccepted⟩
    cases accepted with
    | true => exact h
    | false => cases haccepted

theorem checkAbsent_eq_ok_iff :
    checkAbsent claims name = .ok () ↔ Keyed.get? claims name = none := by
  unfold checkAbsent
  cases Keyed.get? claims name <;> simp

theorem checkText_eq_ok_iff : checkText claims name = .ok () ↔ TextClaim claims name := by
  unfold checkText TextClaim
  cases Keyed.get? claims name with
  | none => simp
  | some j => cases j <;> simp

/-- A clock can be read exactly if it shows a date. -/
theorem read_eq_ok_iff {shown : Instant} :
    now.read = .ok shown ↔ now.hasDate = true ∧ now = shown := by
  by_cases h : now.hasDate = true
  · rw [Instant.read_of_hasDate h]
    simp [h]
  · have hread : ∃ m, now.read = .error m := by
      rw [Instant.read, if_neg h]
      split
      · exact ⟨_, rfl⟩
      · split <;> exact ⟨_, rfl⟩
    obtain ⟨m, hm⟩ := hread
    simp [hm, h]

theorem currentSecond_eq_ok_iff {n : Int} :
    currentSecond now = .ok n ↔ now.hasDate = true ∧ now.seconds = n := by
  unfold currentSecond
  constructor
  · intro h
    split at h
    · rename_i shown hshown
      obtain ⟨hdate, rfl⟩ := read_eq_ok_iff.1 hshown
      exact ⟨hdate, Except.ok.inj h⟩
    · cases h
  · rintro ⟨hdate, rfl⟩
    rw [Instant.read_of_hasDate hdate]

/-- A comparison with the clock accepts what it finds, on a readable clock. -/
theorem compared_eq_ok_iff {p : Int → Bool} :
    (do return p (← currentSecond now)) = (.ok true : Except Objection Bool) ↔
      now.hasDate = true ∧ p now.seconds = true := by
  simp only [bind_eq_ok_iff, currentSecond_eq_ok_iff]
  constructor
  · rintro ⟨n, ⟨hdate, rfl⟩, hp⟩
    exact ⟨hdate, Except.ok.inj hp⟩
  · rintro ⟨hdate, hp⟩
    exact ⟨_, ⟨hdate, rfl⟩, congrArg Except.ok hp⟩

/-- One check after another is passed exactly if both are. -/
theorem checks_eq_ok_iff {x y : Except Objection Unit} :
    (do x; y) = .ok () ↔ x = .ok () ∧ y = .ok () := by
  rw [bind_eq_ok_iff]
  exact ⟨fun ⟨_, hx, hy⟩ => ⟨hx, hy⟩, fun ⟨hx, hy⟩ => ⟨(), hx, hy⟩⟩

/-- **Claims are accepted exactly if nothing in them speaks against it.** -/
theorem checkClaims_eq_ok_iff : checkClaims claims now = .ok () ↔ Unopposed claims now := by
  have hdecide (p : Prop) [Decidable p] : decide p = true ↔ p := decide_eq_true_iff
  simp only [checkClaims, checks_eq_ok_iff, checkTime_eq_ok_iff, checkAbsent_eq_ok_iff,
    checkText_eq_ok_iff, compared_eq_ok_iff, hdecide]
  constructor
  · rintro ⟨hiat, hnbf, hexp, haud, hsub, hjti, hhash⟩
    exact ⟨hiat, hnbf, hexp, haud, hsub, hjti, hhash⟩
  · rintro ⟨hiat, hnbf, hexp, haud, hsub, hjti, hhash⟩
    exact ⟨hiat, hnbf, hexp, haud, hsub, hjti, hhash⟩

/-- **What nothing speaks against at two instants nothing speaks against in
between.** -/
theorem Unopposed.between {a b : Instant} (ha : Unopposed claims a) (hb : Unopposed claims b)
    (hfrom : a.seconds ≤ now.seconds) (huntil : now.seconds ≤ b.seconds) :
    Unopposed claims now := by
  -- The dates of both clocks are needed, and a claim that is a time gives them.
  have hdate (hadate : a.hasDate = true) (hbdate : b.hasDate = true) : now.hasDate = true := by
    simp only [Instant.hasDate, Bool.and_eq_true, decide_eq_true_eq] at hadate hbdate ⊢
    omega
  refine ⟨ha.issued, fun j hj => ?_, fun j hj => ?_, ha.unaddressed, ha.subject, ha.identifier,
    ha.unhashed⟩
  · obtain ⟨n, hn, hadate, hstart⟩ := ha.started j hj
    obtain ⟨-, -, hbdate, -⟩ := hb.started j hj
    exact ⟨n, hn, hdate hadate hbdate, by omega⟩
  · obtain ⟨-, -, hadate, -⟩ := ha.unexpired j hj
    obtain ⟨n, hn, hbdate, hend⟩ := hb.unexpired j hj
    exact ⟨n, hn, hdate hadate hbdate, by omega⟩

/-! ## Acceptance -/

/-- **A token is accepted for a subject** exactly if its claims are read,
nothing in them speaks against it, and they name the subject. -/
theorem subjectOf_eq_some_iff {subject : String} :
    subjectOf s now token = .ok (some subject) ↔
      ∃ claims, claims? s.tokenAlgorithm s.tokenKey token = .ok (some claims) ∧
        Unopposed claims now ∧
        Keyed.get? claims "sub" = some (.str subject) := by
  have hsubject (claims : Keyed Json) :
      subject? claims = some subject ↔ Keyed.get? claims "sub" = some (.str subject) := by
    unfold subject?
    cases Keyed.get? claims "sub" with
    | none => simp
    | some j => cases j <;> simp
  simp only [← checkClaims_eq_ok_iff, ← hsubject]
  unfold subjectOf
  constructor
  · intro h
    split at h
    · cases h
    · cases h
    · rename_i claims hclaims
      split at h
      · rename_i hcheck
        exact ⟨claims, hclaims, hcheck, Except.ok.inj h⟩
      · cases h
      · cases h
  · rintro ⟨claims, hclaims, hcheck, hsub⟩
    simp only [hclaims, hcheck, hsub]

/-- **A token with a signature that no key makes** is refused at all times,
if its form can be read and the keys are keys. -/
theorem subjectOf_of_unsigned {signed sig : List Char} (halg : s.tokenAlgorithm = .str a.name)
    (hcs : Text.characters? token.toList = some (signed ++ '.' :: sig)) (hlast : '.' ∉ sig)
    (hkeys : ∀ key, Key.NamedBy s.tokenKey key →
      segmentBytes? sig ≠ some (a.hash key (Utf8.encode signed)))
    (husable : Key.AllUsable s.tokenKey) (hform : ∀ m, parse? token ≠ .error m) (now : Instant) :
    subjectOf s now token = .ok none := by
  suffices claims? (.str a.name) s.tokenKey token = .ok none by rw [subjectOf, halg, this]
  unfold claims?
  cases ht : parse? token with
  | error m => exact absurd ht (hform m)
  | ok parsed =>
    cases parsed with
    | none => rfl
    | some t =>
      -- What was read is split at the last point, and so in the way that is given.
      obtain ⟨g, hcs', hlast', -, hsigned, -, -, hsignature⟩ := exists_of_parse? ht
      obtain ⟨rfl, rfl⟩ := Text.split_unique (Option.some.inj (hcs'.symm.trans hcs)) hlast' hlast
      obtain ⟨keys, hcandidates, hall⟩ := husable
      have hunsigned : isSignedBy (.str a.name) t keys = .ok false := by
        refine isSignedBy_eq_false hall fun j hj key hkey hmade => ?_
        refine hkeys key ⟨keys, hcandidates, j, hj, hkey⟩ ?_
        rw [hsignature, hmade, hsigned, signature]
      dsimp only
      split
      · simp only [hcandidates, hunsigned, bind, Except.bind]
        rfl
      · rfl

/-- **Exactly what is signed is accepted**, under settings that name a keyed
hash, as they do by default. A text names a subject only if it is a token that
is signed with that hash and whose claims name the subject, with nothing in
them that speaks against it by the second that the clock shows: it has not
expired, has started to hold, is for nobody in particular and has no hash of
another token. If all that the setting names are keys, this is also enough; and
for a secret that is no JSON, the key is the secret itself.

So a text whose signature is that of something else never names a subject; it
is refused, if its form can be read and the setting names keys. And between
two instants at which a token is accepted it names one subject. -/
theorem accepted_token_is_signed {s : Settings} {a : Algorithm}
    (halg : s.tokenAlgorithm = .str a.name) (token : String) :
    (∀ now subject, subjectOf s now token = .ok (some subject) →
      ∃ g key header claims, Signed a s.tokenKey token g key header claims ∧
        Unopposed claims now ∧ Keyed.get? claims "sub" = some (.str subject)) ∧
    (∀ g key header claims now subject, Signed a s.tokenKey token g key header claims →
      Unopposed claims now → Keyed.get? claims "sub" = some (.str subject) →
      Key.AllUsable s.tokenKey → subjectOf s now token = .ok (some subject)) ∧
    (∀ secret fault key, s.tokenKey = .str secret →
      Json.readAll .verbatim secret.toList = .error fault → Key.NamedBy s.tokenKey key →
      Text.bytes? secret.toList = some key) ∧
    (∀ signed sig, Text.characters? token.toList = some (signed ++ '.' :: sig) → '.' ∉ sig →
      (∀ key, Key.NamedBy s.tokenKey key →
        segmentBytes? sig ≠ some (a.hash key (Utf8.encode signed))) →
      (∀ now subject, subjectOf s now token ≠ .ok (some subject)) ∧
        (Key.AllUsable s.tokenKey → (∀ m, parse? token ≠ .error m) →
          ∀ now, subjectOf s now token = .ok none)) ∧
    ∀ first last now subject other, subjectOf s first token = .ok (some subject) →
      subjectOf s last token = .ok (some other) →
      first.seconds ≤ now.seconds → now.seconds ≤ last.seconds →
      subjectOf s now token = .ok (some subject) := by
  refine ⟨fun now subject h => ?_,
    fun g key header claims now subject h hunopposed hsub husable => ?_,
    fun secret fault key hset hsecret hkey => Key.bytes_of_namedBy hsecret (hset ▸ hkey),
    fun signed sig hcs hlast hkeys => ⟨fun now subject h => ?_, fun husable hform now => ?_⟩,
    fun first last now subject other hfirst hlast hfrom huntil => ?_⟩
  · obtain ⟨claims, hclaims, hunopposed, hsub⟩ := subjectOf_eq_some_iff.1 h
    obtain ⟨g, key, header, hsigned⟩ := exists_signed_of_claims? (halg ▸ hclaims)
    exact ⟨g, key, header, claims, hsigned, hunopposed, hsub⟩
  · exact subjectOf_eq_some_iff.2 ⟨claims, halg ▸ claims?_of_signed h husable, hunopposed, hsub⟩
  · obtain ⟨claims, hclaims, -⟩ := subjectOf_eq_some_iff.1 h
    obtain ⟨g, key, header, hsigned⟩ := exists_signed_of_claims? (halg ▸ hclaims)
    obtain ⟨rfl, rfl⟩ :=
      Text.split_unique (Option.some.inj (hsigned.split.symm.trans hcs)) hsigned.last hlast
    exact hkeys key hsigned.named hsigned.signature_eq
  · exact subjectOf_of_unsigned halg hcs hlast hkeys husable hform now
  · obtain ⟨claims, hclaims, hua, hsub⟩ := subjectOf_eq_some_iff.1 hfirst
    obtain ⟨claims', hclaims', hub, -⟩ := subjectOf_eq_some_iff.1 hlast
    -- The claims are the same both times, so only the times are left to compare.
    cases hclaims.symm.trans hclaims'
    exact subjectOf_eq_some_iff.2 ⟨claims, hclaims, hua.between hub hfrom huntil, hsub⟩

/-- The key that is set by default. -/
def defaultKey : Bytes := Utf8.encode "changeme-super-secret-key".toList

/-- What is signed in a token for a subject until some second. -/
def signedFor (subject : String) : List Char :=
  segment (header .hs256) ++ '.' :: segment (payload (.str subject) 1700003600)

/-- The signature of a token for `ci`. -/
def ciSignature : List Char := Base64url.encode (signature .hs256 defaultKey (signedFor "ci"))

/-- The token for `ci`. -/
def ciToken : String := String.ofList (signedFor "ci" ++ '.' :: ciSignature)

/-- The same with another subject. -/
def rootToken : String := String.ofList (signedFor "root" ++ '.' :: ciSignature)

theorem ci_settled : Json.Settled "ci" := Json.settled_of_plain (by decide)

theorem ci_fits : Json.Fits 1700003600 := fits_of_hasDate (t := ⟨1700003600, 0⟩) (by decide)

theorem unreadable_default : Json.readAll .verbatim "changeme-super-secret-key".toList =
    .error (.malformed "changeme-super-secret-key".toList) := rfl

theorem ciToken_holds : HoldsUntil .default ciToken "ci" 1700003600 :=
  holdsUntil_write (a := .hs256) rfl (Key.found_of_unreadable unreadable_default rfl) ci_settled
    ci_fits

theorem characters?_rootToken : Text.characters? rootToken.toList =
    some (signedFor "root" ++ '.' :: ciSignature) := by
  rw [rootToken, String.toList_ofList]
  decide +kernel

theorem parse?_rootToken (m : Mismatch) : parse? rootToken ≠ .error m := by
  have h : (parse? rootToken).isOk = true := by decide +kernel
  intro herror
  rw [herror] at h
  cases h

/-- The default setting names a key. -/
theorem allUsable_default : Key.AllUsable Settings.default.tokenKey :=
  ⟨_, Key.candidates_of_unreadable unreadable_default,
    List.forall_mem_singleton.2 ⟨defaultKey, rfl⟩⟩

/-- A token is accepted through its hour, as it is signed with the secret that
is set; with another subject it is refused, as its signature is not the one of
what is signed then. -/
theorem accepted_token_is_signed_ci :
    Settings.default.tokenAlgorithm = .str "HS256" ∧
      subjectOf .default ⟨1700000000, 0⟩ ciToken = .ok (some "ci") ∧
      subjectOf .default ⟨1700003600, 0⟩ ciToken = .ok (some "ci") ∧
      (∃ g header claims,
        Signed .hs256 Settings.default.tokenKey ciToken g defaultKey header claims ∧
        Unopposed claims ⟨1700000000, 0⟩ ∧ Keyed.get? claims "sub" = some (.str "ci")) ∧
      subjectOf .default ⟨1700001800, 0⟩ ciToken = .ok (some "ci") ∧
      (∀ key, Key.NamedBy Settings.default.tokenKey key →
        segmentBytes? ciSignature ≠ some (Hmac.sha256 key (Utf8.encode (signedFor "root")))) ∧
      ∀ now, subjectOf .default now rootToken = .ok none := by
  have hfirst : subjectOf .default ⟨1700000000, 0⟩ ciToken = .ok (some "ci") :=
    ciToken_holds _ (by decide)
  have hlast : subjectOf .default ⟨1700003600, 0⟩ ciToken = .ok (some "ci") :=
    ciToken_holds _ (by decide)
  have hdefault : Settings.default.tokenAlgorithm = .str (Algorithm.name .hs256) := rfl
  obtain ⟨sound, complete, secret, -, between⟩ := accepted_token_is_signed hdefault ciToken
  obtain ⟨-, -, -, unsigned, -⟩ := accepted_token_is_signed hdefault rootToken
  have hsecret (key : Bytes) (h : Key.NamedBy Settings.default.tokenKey key) : defaultKey = key :=
    Option.some.inj (secret _ _ key rfl unreadable_default h)
  obtain ⟨g, key, header, claims, hsigned, hunopposed, hsub⟩ := sound _ _ hfirst
  obtain rfl := hsecret key hsigned.named
  have hother : ∀ key, Key.NamedBy Settings.default.tokenKey key →
      segmentBytes? ciSignature ≠ some (Hmac.sha256 key (Utf8.encode (signedFor "root"))) := by
    intro key hnamed
    obtain rfl := hsecret key hnamed
    -- Both hashes are computed; nothing is assumed of them.
    decide +kernel
  obtain ⟨-, refused⟩ := unsigned _ _ characters?_rootToken (point_not_mem_encode _) hother
  exact ⟨hdefault, complete _ _ _ _ _ _ hsigned hunopposed hsub allUsable_default, hlast,
    ⟨g, header, claims, hsigned, hunopposed, hsub⟩,
    between _ _ _ _ _ hfirst hlast (by decide) (by decide), hother,
    refused allUsable_default parse?_rootToken⟩

/-- The settings with a key that is a list, as JSON text. -/
def listed : Settings := { Settings.default with tokenKey := .str "[\"k\"]" }

theorem candidates_listed : Key.candidates listed.tokenKey = .ok [.str "k"] := rfl

/-- The key that is in the list. -/
def listedKey : Bytes := Utf8.encode "k".toList

/-- The segments of a token that is signed with it. -/
def listedSegments : Segments where
  header := segment (header .hs256)
  payload := segment (payload (.str "ci") 1700003600)
  signature := Base64url.encode (signature .hs256 listedKey (signedFor "ci"))

theorem write_listed : write .hs256 listedKey (payload (.str "ci") 1700003600) =
    listedSegments.signed ++ '.' :: listedSegments.signature := by
  simp only [write, listedSegments, Segments.signed, signedFor]

/-- **An accepted token need not be signed with the secret as it is set**: if
that is JSON text, it is signed with a key that the text writes. And it is
accepted until the second in which it expires is over. -/
theorem accepted_token_not_signed_by_secret :
    (∃ g : Segments, '.' ∉ g.signature ∧
      subjectOf listed ⟨1700000000, 0⟩ (String.ofList (g.signed ++ '.' :: g.signature)) =
        .ok (some "ci") ∧
      segmentBytes? g.signature ≠
        some (Hmac.sha256 (Utf8.encode "[\"k\"]".toList) (Utf8.encode g.signed))) ∧
    subjectOf .default ⟨1700003600, 900000⟩ ciToken = .ok (some "ci") := by
  have hfound : Key.Found listedKey listed.tokenKey :=
    ⟨_, candidates_listed, listedKey, rfl, .inl rfl⟩
  have hlisted := holdsUntil_write (s := listed) (a := .hs256) rfl hfound ci_settled ci_fits
    ⟨1700000000, 0⟩ (by decide)
  rw [write_listed, if_pos (by decide)] at hlisted
  refine ⟨⟨listedSegments, point_not_mem_encode _, hlisted, ?_⟩, ciToken_holds _ (by decide)⟩
  rw [listedSegments, segmentBytes?_encode]
  decide +kernel

end Token

end NetSteward
