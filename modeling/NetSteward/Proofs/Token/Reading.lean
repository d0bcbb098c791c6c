import NetSteward.Proofs.Json.Reread
import NetSteward.Proofs.Text.Base64url
import NetSteward.Proofs.Text.Split
import NetSteward.Token.Form
/-!
# Reading back what a token is written of

A token has two points and no others, so it is taken apart into the
segments that it was put together of; each segment is read back as the
bytes that it was written for, and the first two of them as the objects
that the bytes write. So a token is read as its payload if its signature
is found to be made with one of the keys that the setting names, by the
algorithm that is set: `claims?_write` is the main result.
-/

namespace NetSteward

namespace Token

variable {a : Algorithm}

/-! ## Segments -/

/-- There is no point in a segment. -/
theorem point_not_mem_encode (bytes : Bytes) : '.' ∉ Base64url.encode bytes := fun point =>
  Base64url.forall_mem_encode (P := (· ≠ '.')) (by decide) bytes '.' point rfl

/-- A token is taken apart into the segments that it is written of. -/
theorem segments?_write (a : Algorithm) (key : Bytes) (payload : Json) :
    segments? (write a key payload) = some ⟨segment (header a), segment payload,
      Base64url.encode (signature a key (segment (header a) ++ '.' :: segment payload))⟩ := by
  simp only [segments?, write, Text.splitLast?_append (point_not_mem_encode _),
    Text.splitFirst?_append (point_not_mem_encode _), segment, Option.bind_eq_bind,
    Option.bind_some, Option.pure_def]

/-- A segment is read back as its bytes. -/
theorem segmentBytes?_encode (bytes : Bytes) :
    segmentBytes? (Base64url.encode bytes) = some bytes :=
  Base64url.decode?_encode bytes

/-- The characters of a token are digits of its segments, and points. -/
theorem forall_mem_write {P : Char → Prop} (digit : ∀ n, n < 64 → P (Base64url.digitChar n))
    (point : P '.') (a : Algorithm) (key : Bytes) (payload : Json) :
    ∀ c ∈ write a key payload, P c := by
  have segment (bytes : Bytes) := Base64url.forall_mem_encode digit bytes
  intro c member
  simp only [write, Token.segment, List.mem_append, List.mem_cons] at member
  obtain (first | rfl | second) | rfl | third := member
  · exact segment _ c first
  · exact point
  · exact segment _ c second
  · exact point
  · exact segment _ c third

/-- A token has no marks. -/
theorem plain_write (a : Algorithm) (key : Bytes) (payload : Json) :
    Text.halfMark ∉ write a key payload := fun mark =>
  forall_mem_write (P := (· ≠ Text.halfMark)) (by decide) (by decide) a key payload _ mark rfl

/-! ## Objects -/

variable {m : String × Json} {ms : Keyed Json}

/-- **An object of strings and integers is read back from its bytes.** -/
theorem object?_encode (plain : ∀ e ∈ m :: ms, Json.PlainMember e) :
    object? (Utf8.encode (Json.obj (m :: ms)).write) = .ok (some (Keyed.ofPairs (m :: ms))) := by
  have unmarked : Text.halfMark ∉ (Json.obj (m :: ms)).write := fun mark =>
    absurd (Json.ascii_write_obj plain _ mark) (by decide)
  rw [object?, Utf8.decode?_encode]
  dsimp only
  rw [Text.ofCharacters_of_plain unmarked, Json.read_obj plain]

/-- The members of the header of the tokens that are issued. -/
theorem header_plain (a : Algorithm) :
    ∀ e ∈ [("alg", Json.str a.name), ("typ", Json.str "JWT")], Json.PlainMember e := by
  have settled (s : String) (plain : Text.halfMark ∉ s.toList) : Json.Settled s :=
    Json.settled_of_plain plain
  have name : Text.halfMark ∉ a.name.toList := by
    cases a with
    | hs256 | hs384 | hs512 => decide
  simp only [List.mem_cons, List.not_mem_nil, or_false, forall_eq_or_imp, forall_eq]
  exact ⟨⟨settled "alg" (by decide), .str (settled _ name)⟩,
    ⟨settled "typ" (by decide), .str (settled "JWT" (by decide))⟩⟩

/-- The header of a token is read back. -/
theorem object?_header (a : Algorithm) : object? (Utf8.encode (header a).write) =
    .ok (some [("alg", .str a.name), ("typ", .str "JWT")]) :=
  object?_encode (header_plain a)

/-! ## Whole tokens -/

/-- What is read of a token with a payload. -/
def parsed (a : Algorithm) (key : Bytes) (payload : Json) : Parsed where
  header := [("alg", .str a.name), ("typ", .str "JWT")]
  payload := Utf8.encode payload.write
  signature := signature a key (segment (header a) ++ '.' :: segment payload)
  signed := segment (header a) ++ '.' :: segment payload

/-- **The form of a token is right**, whatever its payload is. -/
theorem parse?_write (a : Algorithm) (key : Bytes) (payload : Json) :
    parse? (String.ofList (write a key payload)) = .ok (some (parsed a key payload)) := by
  rw [parse?, String.toList_ofList, Text.characters?_of_plain (plain_write a key payload)]
  dsimp only
  rw [segments?_write]
  simp only [Segments.header?, segment, segmentBytes?_encode, object?_header]
  rfl

/-- A header names the algorithm that is set if it has its name. -/
theorem namesAlgorithm_iff {header : Keyed Json} :
    namesAlgorithm (.str a.name) header = true ↔
      Keyed.get? header "alg" = some (.str a.name) := by
  have given : a.name ≠ "" := by
    cases a with
    | hs256 | hs384 | hs512 => decide
  unfold namesAlgorithm
  cases Keyed.get? header "alg" with
  | none => simp
  | some alg =>
    rw [Option.some.injEq, Bool.and_eq_true]
    cases alg with
    | str s =>
      rw [Json.isGiven_str, Json.same_str, Json.str.injEq, and_iff_right_iff_imp]
      rintro rfl
      exact given
    | null | bool | int | float | arr | obj => simp [Json.same, Json.number?]

/-- The header of a token names the algorithm. -/
theorem namesAlgorithm_parsed (a : Algorithm) (key : Bytes) (payload : Json) :
    namesAlgorithm (.str a.name) (parsed a key payload).header = true :=
  namesAlgorithm_iff.2 rfl

/-! ## Signatures -/

/-- The first of some keys is tried with the algorithm that is named, and the
others after it. -/
theorem isSignedBy_cons (a : Algorithm) (t : Parsed) (j : Json) (rest : List Json) :
    isSignedBy (.str a.name) t (j :: rest) = Key.bytes j >>= fun key =>
      if t.signature = signature a key t.signed then .ok true
      else isSignedBy (.str a.name) t rest := by
  rw [isSignedBy, Algorithm.ofSetting_name]
  rfl

/-- Whether a key is found among some others: all before the first that
has its bytes are keys as well. -/
def FoundIn (key : Bytes) : List Json → Prop
  | [] => False
  | j :: rest => ∃ bytes, Key.bytes j = .ok bytes ∧ (bytes = key ∨ FoundIn key rest)

/-- The signature of a token is one made with a key that is found. -/
theorem isSignedBy_of_foundIn {key : Bytes} {payload : Json} {keys : List Json}
    (found : FoundIn key keys) :
    isSignedBy (.str a.name) (parsed a key payload) keys = .ok true := by
  induction keys with
  | nil => exact found.elim
  | cons j rest ih =>
    obtain ⟨bytes, read, same | later⟩ := found
    · subst same
      simp only [isSignedBy_cons, read, bind, Except.bind, parsed, if_true]
    · -- This key may make the same signature, and then it is the one that is taken.
      simp only [isSignedBy_cons, read, bind, Except.bind]
      split
      · rfl
      · exact ih later

/-- What a setting names has the key that the setting is. -/
def Key.Found (key : Bytes) (setting : Json) : Prop :=
  ∃ keys, Key.candidates setting = .ok keys ∧ FoundIn key keys

/-- A text that is no JSON names itself. -/
theorem Key.candidates_of_unreadable {s : String} {fault : Json.Fault}
    (unreadable : Json.readAll .verbatim s.toList = .error fault) :
    Key.candidates (.str s) = .ok [.str s] := by
  rw [candidates, opened, unreadable]
  rfl

/-- A text that is no JSON names the key that it is. -/
theorem Key.found_of_unreadable {s : String} {key : Bytes} {fault : Json.Fault}
    (unreadable : Json.readAll .verbatim s.toList = .error fault)
    (accepted : Key.bytes (.str s) = .ok key) : Key.Found key (.str s) :=
  ⟨[.str s], candidates_of_unreadable unreadable, key, accepted, .inl rfl⟩

/-- **The claims of a token are the members of its payload**, under a
setting that names its key. -/
theorem claims?_write {key : Bytes} {setting : Json} (found : Key.Found key setting)
    (plain : ∀ e ∈ m :: ms, Json.PlainMember e) :
    claims? (.str a.name) setting (String.ofList (write a key (.obj (m :: ms)))) =
      .ok (some (Keyed.ofPairs (m :: ms))) := by
  obtain ⟨keys, candidates, found⟩ := found
  simp only [claims?, parse?_write, namesAlgorithm_parsed, if_true, candidates, bind, Except.bind,
    isSignedBy_of_foundIn found]
  exact object?_encode plain

end Token

end NetSteward
