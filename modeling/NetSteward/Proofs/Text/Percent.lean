import NetSteward.Proofs.Text.Utf8
import NetSteward.Text.Percent
/-!
# Reading back what is written with percent escapes

Bytes can be spelled in many ways in a field of a query: any byte may be
escaped, with digits in either case, and a character that means nothing there
may stand for its own byte. However the bytes of a field are spelled, they are
read back: `decodeField_of_spells` is the main result. A field that is not empty
is never read as an empty text.
-/

namespace NetSteward

namespace Percent

/-! ## Spellings -/

/-- The characters that stand for themselves in a field: the visible ones of
ASCII, but for those that mean something there. -/
def isLiteral (c : Char) : Bool :=
  0x21 ≤ c.toNat && c.toNat < 0x7F && !(['%', '+', '&', '=', '#'].contains c)

/-- **The texts that spell some bytes** in a field. -/
inductive Spells : List Char → Bytes → Prop
  | nil : Spells [] []
  /-- A character that means nothing else stands for its byte. -/
  | literal {c : Char} {text : List Char} {bytes : Bytes} (h : isLiteral c = true)
      (rest : Spells text bytes) : Spells (c :: text) (c.toNat.toUInt8 :: bytes)
  /-- A plus sign stands for a space. -/
  | space {text : List Char} {bytes : Bytes} (rest : Spells text bytes) :
      Spells ('+' :: text) (0x20 :: bytes)
  /-- Every byte may be escaped, with digits in either case. -/
  | escape {high low : Char} {b : UInt8} {text : List Char} {bytes : Bytes}
      (hhigh : Text.hexDigit? high = some (b.toNat / 16))
      (hlow : Text.hexDigit? low = some (b.toNat % 16)) (rest : Spells text bytes) :
      Spells ('%' :: high :: low :: text) (b :: bytes)

theorem isLiteral_iff {c : Char} : isLiteral c = true ↔
    0x21 ≤ c.toNat ∧ c.toNat < 0x7F ∧ c ≠ '%' ∧ c ≠ '+' ∧ c ≠ '&' ∧ c ≠ '=' ∧ c ≠ '#' := by
  simp [isLiteral, and_assoc]

/-- A hexadecimal digit stands for itself. -/
theorem isLiteral_of_hexDigit? {c : Char} {n : Nat} (h : Text.hexDigit? c = some n) :
    isLiteral c = true := by
  have hrange : (0x30 ≤ c.toNat ∧ c.toNat ≤ 0x39) ∨ (0x61 ≤ c.toNat ∧ c.toNat ≤ 0x66) ∨
      (0x41 ≤ c.toNat ∧ c.toNat ≤ 0x46) := by
    unfold Text.hexDigit? at h
    split at h
    · rename_i hdigit
      exact .inl hdigit
    · split at h
      · rename_i hlower
        exact .inr (.inl hlower)
      · split at h
        · rename_i hupper
          exact .inr (.inr hupper)
        · cases h
  have apart (d : Char) (hd : d.toNat < 0x30 ∨ d.toNat = 0x3D) : c ≠ d := by
    rintro rfl
    omega
  exact isLiteral_iff.2 ⟨by omega, by omega, apart _ (by decide), apart _ (by decide),
    apart _ (by decide), apart _ (by decide), apart _ (by decide)⟩

variable {text : List Char} {bytes : Bytes}

/-- The characters of a spelling can be seen, and none of them ends a name, a
field or a query. -/
theorem Spells.visible (h : Spells text bytes) :
    ∀ c ∈ text, 0x21 ≤ c.toNat ∧ c.toNat < 0x7F ∧ c ≠ '&' ∧ c ≠ '=' ∧ c ≠ '#' := by
  have literal {c : Char} (hc : isLiteral c = true) :
      0x21 ≤ c.toNat ∧ c.toNat < 0x7F ∧ c ≠ '&' ∧ c ≠ '=' ∧ c ≠ '#' := by
    obtain ⟨hlow, hhigh, -, -, hothers⟩ := isLiteral_iff.1 hc
    exact ⟨hlow, hhigh, hothers⟩
  induction h with
  | nil => exact fun c hc => absurd hc List.not_mem_nil
  | literal h _ ih => exact List.forall_mem_cons.2 ⟨literal h, ih⟩
  | space _ ih => exact List.forall_mem_cons.2 ⟨by decide, ih⟩
  | escape hhigh hlow _ ih =>
    exact List.forall_mem_cons.2 ⟨by decide, List.forall_mem_cons.2
      ⟨literal (isLiteral_of_hexDigit? hhigh), List.forall_mem_cons.2
        ⟨literal (isLiteral_of_hexDigit? hlow), ih⟩⟩⟩

/-! ## Reading a spelling -/

/-- A character that opens no escape is read as its byte. -/
theorem runBytes_cons_of_ne {c : Char} (h : c ≠ '%') (cs : List Char) :
    runBytes (c :: cs) = c.toNat.toUInt8 :: runBytes cs := by
  match cs with
  | [] => rfl
  | [_] => rfl
  | _ :: _ :: _ => rw [runBytes, if_neg h]

theorem runBytes_escape {high low : Char} {b : UInt8}
    (hhigh : Text.hexDigit? high = some (b.toNat / 16))
    (hlow : Text.hexDigit? low = some (b.toNat % 16)) (cs : List Char) :
    runBytes ('%' :: high :: low :: cs) = b :: runBytes cs := by
  have hvalue : 16 * (b.toNat / 16) + b.toNat % 16 = b.toNat := Nat.div_add_mod b.toNat 16
  rw [runBytes, if_pos rfl, hhigh, hlow]
  dsimp only
  rw [hvalue, Nat.toUInt8_eq, UInt8.ofNat_toNat]

/-- The bytes of a field are read one by one from how they are spelled, once the
plus signs are spaces. -/
theorem runBytes_of_spells (h : Spells text bytes) :
    runBytes (text.map fun c => if c = '+' then ' ' else c) = bytes := by
  have same {c : Char} (hc : isLiteral c = true) : (if c = '+' then ' ' else c) = c :=
    if_neg (isLiteral_iff.1 hc).2.2.2.1
  induction h with
  | nil => rfl
  | literal h _ ih =>
    have hopen := (isLiteral_iff.1 h).2.2.1
    rw [List.map_cons, same h, runBytes_cons_of_ne hopen, ih]
  | space _ ih =>
    rw [List.map_cons, if_pos rfl, runBytes_cons_of_ne (by decide), ih]
    rfl
  | escape hhigh hlow _ ih =>
    have hopen : (if '%' = '+' then ' ' else '%') = '%' := rfl
    rw [List.map_cons, List.map_cons, List.map_cons, hopen, same (isLiteral_of_hexDigit? hhigh),
      same (isLiteral_of_hexDigit? hlow), runBytes_escape hhigh hlow, ih]

/-- A text of ASCII is one run. -/
theorem decode_of_ascii {cs : List Char} (h : ∀ c ∈ cs, c.toNat < 128) :
    decode cs = runText cs := by
  -- The run that was read so far is kept in reverse, so it varies.
  have reads (run : List Char) : decodeAfter run cs = runText (run.reverse ++ cs) := by
    induction cs generalizing run with
    | nil => rw [decodeAfter, List.append_nil]
    | cons c rest ih =>
      obtain ⟨hc, hrest⟩ := List.forall_mem_cons.1 h
      rw [decodeAfter, if_pos hc, ih hrest, List.reverse_cons, List.append_assoc]
      rfl
  exact reads []

/-- **The bytes of a field are read back from how they are spelled**, and taken
as UTF-8. -/
theorem decodeField_of_spells (h : Spells text bytes) :
    decodeField text = Text.ofCharacters (Utf8.decodeLossy bytes) := by
  have hascii : ∀ c ∈ text.map (fun c => if c = '+' then ' ' else c), c.toNat < 128 := by
    intro c hc
    obtain ⟨d, hd, rfl⟩ := List.mem_map.1 hc
    have hvisible := h.visible d hd
    split
    · decide
    · omega
  rw [decodeField, decode_of_ascii hascii, runText, runBytes_of_spells h]

/-! ## What is read is not empty -/

theorem scanFrom_some_ne_nil (p : Utf8.Pending) (bytes : Bytes) :
    Utf8.scanFrom (some p) bytes ≠ [] := by
  induction bytes generalizing p with
  | nil => simp [Utf8.scanFrom]
  | cons b rest ih =>
    rw [Utf8.scanFrom]
    split
    · dsimp only
      split
      · simp
      · exact ih _
    · simp

/-- Some bytes are read as some characters, if only as one of replacement. -/
theorem decodeLossy_ne_nil (h : bytes ≠ []) : Utf8.decodeLossy bytes ≠ [] := by
  have hscan : Utf8.scan bytes ≠ [] := by
    cases bytes with
    | nil => exact absurd rfl h
    | cons b rest =>
      rw [Utf8.scan, Utf8.scanFrom]
      split
      · simp
      · exact scanFrom_some_ne_nil _ rest
      · simp
  rw [Utf8.decodeLossy, ne_eq, List.map_eq_nil_iff]
  exact hscan

theorem runBytes_ne_nil {run : List Char} (h : run ≠ []) : runBytes run ≠ [] := by
  unfold runBytes
  split
  · exact absurd rfl h
  · simp
  · simp
  · split
    · split <;> simp
    · simp

theorem runText_ne_nil {run : List Char} (h : run ≠ []) : runText run ≠ [] := by
  have hread := decodeLossy_ne_nil (runBytes_ne_nil h)
  unfold runText
  cases hcs : Utf8.decodeLossy (runBytes run) with
  | nil => exact absurd hcs hread
  | cons c rest =>
    have hfirst : Text.holding c.toNat ≠ [] := by
      unfold Text.holding
      split
      · simp
      · split <;> simp
    rw [Text.ofCharacters, List.map_cons, Text.ofCodePoints, List.flatMap_cons]
    exact fun hnil => hfirst (List.append_eq_nil_iff.1 hnil).1

/-- **A field that is not empty is not read as an empty text.** -/
theorem decodeField_ne_nil (h : text ≠ []) : decodeField text ≠ [] := by
  have reads : ∀ cs run : List Char, run ≠ [] ∨ cs ≠ [] → decodeAfter run cs ≠ [] := by
    intro cs
    induction cs with
    | nil =>
      intro run hrun
      rw [decodeAfter]
      exact runText_ne_nil (by simpa using hrun)
    | cons c rest ih =>
      intro run _
      rw [decodeAfter]
      split
      · exact ih _ (.inl (List.cons_ne_nil c run))
      · simp
  exact reads _ [] (.inr (by simpa using h))

/-! ## Writing -/

theorem hexDigit?_toUpper :
    ∀ d, d < 16 → Text.hexDigit? (Text.hexDigit d).toUpper = some d := by decide

/-- What is written of bytes spells them, if what is kept stands for itself. -/
theorem spells_encodeByte {keep : Char → Bool} (hkeep : ∀ c, keep c = true → isLiteral c = true)
    (bytes : Bytes) : Spells (bytes.flatMap (encodeByte keep)) bytes := by
  induction bytes with
  | nil => exact .nil
  | cons b rest ih =>
    have hbyte : b.toNat < 256 := b.toNat_lt
    rw [List.flatMap_cons, encodeByte]
    split
    · rename_i hkept
      rw [Bool.and_eq_true, decide_eq_true_eq] at hkept
      have hsame : (Char.ofNat b.toNat).toNat.toUInt8 = b := by
        rw [Text.toNat_ofNat (by rw [Nat.isValidChar]; omega), Nat.toUInt8_eq, UInt8.ofNat_toNat]
      have hspells := Spells.literal (hkeep _ hkept.2) ih
      rwa [hsame] at hspells
    · exact .escape (hexDigit?_toUpper _ (by omega)) (hexDigit?_toUpper _ (by omega)) ih

/-- What is never escaped stands for itself. -/
theorem isLiteral_of_isUnreserved {c : Char} (h : isUnreserved c = true) : isLiteral c = true := by
  have hall : ∀ n, n < 128 → isUnreserved (Char.ofNat n) = true →
      isLiteral (Char.ofNat n) = true := by decide
  have hascii : c.toNat < 128 := by
    rw [isUnreserved, Bool.and_eq_true, decide_eq_true_eq] at h
    exact h.1
  have hc := hall c.toNat hascii
  rw [Char.ofNat_toNat] at hc
  exact hc h

/-- **A text of characters is written as a spelling of its bytes.** -/
theorem spells_encode (cs : List Char) :
    Spells (encode (Text.ofCharacters cs)) (Utf8.encode cs) := by
  rw [encode, encodeKeeping, Text.bytes?_ofCharacters, Option.getD_some]
  exact spells_encodeByte (fun _ => isLiteral_of_isUnreserved) (Utf8.encode cs)

end Percent

end NetSteward
