import NetSteward.Text.CodePoint
/-!
# Reading back what is written in UTF-8

A character is read back from its bytes whatever follows them, so a text
is read back from the bytes of its characters: `decode?_encode` is the
main result. A text that was made of characters holds just these, and one
without the mark before halves of pairs is made of its own.
-/

namespace NetSteward

namespace Utf8

/-! ## One byte at a time -/

/-- A number below 256 is the value of the byte made of it. -/
theorem toNat_toUInt8 {n : Nat} (h : n < 256) : n.toUInt8.toNat = n := by
  rw [Nat.toUInt8_eq, UInt8.toNat_ofNat_of_lt' (by simpa using h)]

variable {p : Pending} {n : Nat} {rest : Bytes}

/-- A first byte of several opens a character. -/
theorem scanFrom_lead {b : UInt8} (h : start b = .lead p) :
    scanFrom none (b :: rest) = scanFrom (some p) rest := by
  simp only [scanFrom, h]

/-- A byte within the bounds that is not the last one adds its bits. -/
theorem scanFrom_more (low : p.low ≤ n) (high : n ≤ p.high) (small : n < 256)
    (more : 1 < p.needed) :
    scanFrom (some p) (n.toUInt8 :: rest) =
      scanFrom (some ⟨p.needed - 1, 0x80, 0xBF, p.value * 64 + n % 64⟩) rest := by
  simp only [scanFrom, toNat_toUInt8 small, if_pos (And.intro low high),
    if_neg (Nat.not_le.2 more)]

/-- A byte within the bounds that is the last one ends the character. -/
theorem scanFrom_last (low : p.low ≤ n) (high : n ≤ p.high) (small : n < 256)
    (last : p.needed ≤ 1) :
    scanFrom (some p) (n.toUInt8 :: rest) =
      some (Char.ofNat (p.value * 64 + n % 64)) :: scanFrom none rest := by
  simp only [scanFrom, toNat_toUInt8 small, if_pos (And.intro low high), if_pos last]

/-! ## One character at a time -/

/-- The first of two bytes. -/
theorem start_two {n : Nat} (low : 0x80 ≤ n) (high : n < 0x800) :
    start (0xC0 + n / 64).toUInt8 = .lead ⟨1, 0x80, 0xBF, n / 64⟩ := by
  simp only [start, toNat_toUInt8 (n := 0xC0 + n / 64) (by omega)]
  rw [if_neg (by omega), if_neg (by omega), if_pos (by omega), Nat.add_sub_cancel_left]

/-- The first of three bytes, with bounds that the second one keeps. -/
theorem start_three {n : Nat} (low : 0x800 ≤ n) (high : n < 0x10000)
    (whole : ¬ (0xD800 ≤ n ∧ n < 0xE000)) :
    ∃ l h, start (0xE0 + n / 4096).toUInt8 = .lead ⟨2, l, h, n / 4096⟩ ∧
      l ≤ 0x80 + n / 64 % 64 ∧ 0x80 + n / 64 % 64 ≤ h := by
  simp only [start, toNat_toUInt8 (n := 0xE0 + n / 4096) (by omega)]
  rw [if_neg (by omega), if_neg (by omega), if_neg (by omega)]
  by_cases first : n / 4096 = 0
  · exact ⟨0xA0, 0xBF, by rw [first, if_pos rfl], by omega, by omega⟩
  · rw [if_neg (by omega)]
    by_cases surrogate : n / 4096 = 13
    · exact ⟨0x80, 0x9F, by rw [surrogate, if_pos rfl], by omega, by omega⟩
    · rw [if_neg (by omega), if_pos (by omega), Nat.add_sub_cancel_left]
      exact ⟨0x80, 0xBF, rfl, by omega, by omega⟩

/-- The first of four bytes, with bounds that the second one keeps. -/
theorem start_four {n : Nat} (low : 0x10000 ≤ n) (high : n < 0x110000) :
    ∃ l h, start (0xF0 + n / 262144).toUInt8 = .lead ⟨3, l, h, n / 262144⟩ ∧
      l ≤ 0x80 + n / 4096 % 64 ∧ 0x80 + n / 4096 % 64 ≤ h := by
  simp only [start, toNat_toUInt8 (n := 0xF0 + n / 262144) (by omega)]
  rw [if_neg (by omega), if_neg (by omega), if_neg (by omega), if_neg (by omega),
    if_neg (by omega), if_neg (by omega)]
  by_cases first : n / 262144 = 0
  · exact ⟨0x90, 0xBF, by rw [first, if_pos rfl], by omega, by omega⟩
  · rw [if_neg (by omega)]
    by_cases last : n / 262144 = 4
    · exact ⟨0x80, 0x8F, by rw [last]; rfl, by omega, by omega⟩
    · rw [if_pos (by omega), Nat.add_sub_cancel_left]
      exact ⟨0x80, 0xBF, rfl, by omega, by omega⟩

/-- The code point of a character is below the end, and is no half of a
pair. -/
theorem toNat_bounds (c : Char) :
    c.toNat < 0x110000 ∧ ¬ (0xD800 ≤ c.toNat ∧ c.toNat < 0xE000) := by
  have valid : c.toNat.isValidChar := c.valid
  rw [Nat.isValidChar] at valid
  omega

/-- **A character is read back from its bytes**, whatever follows. -/
theorem scanFrom_encodeChar (c : Char) (rest : Bytes) :
    scanFrom none (encodeChar c ++ rest) = some c :: scanFrom none rest := by
  obtain ⟨bound, whole⟩ := toNat_bounds c
  have same (m : Nat) (h : m = c.toNat) : Char.ofNat m = c := by rw [h, Char.ofNat_toNat]
  unfold encodeChar
  generalize hn : c.toNat = n at bound whole same
  dsimp only
  split
  · rename_i one
    simp only [List.cons_append, List.nil_append, scanFrom, start,
      toNat_toUInt8 (n := n) (by omega), if_pos one, same n rfl]
  · split
    · rename_i two
      simp only [List.cons_append, List.nil_append]
      rw [scanFrom_lead (start_two (by omega) two),
        scanFrom_last (by dsimp only; omega) (by dsimp only; omega) (by omega) (by simp),
        same _ (by dsimp only; omega)]
    · split
      · rename_i three
        obtain ⟨l, h, first, low, high⟩ := start_three (n := n) (by omega) three whole
        simp only [List.cons_append, List.nil_append]
        rw [scanFrom_lead first, scanFrom_more low high (by omega) (by simp),
          scanFrom_last (by dsimp only; omega) (by dsimp only; omega) (by omega) (by simp),
          same _ (by dsimp only; omega)]
      · obtain ⟨l, h, first, low, high⟩ := start_four (n := n) (by omega) bound
        simp only [List.cons_append, List.nil_append]
        rw [scanFrom_lead first, scanFrom_more low high (by omega) (by simp),
          scanFrom_more (by dsimp only; omega) (by dsimp only; omega) (by omega) (by simp),
          scanFrom_last (by dsimp only; omega) (by dsimp only; omega) (by omega) (by simp),
          same _ (by dsimp only; omega)]

/-! ## Texts -/

/-- The characters of a text are read back one by one. -/
theorem scan_encode (cs : List Char) : scan (encode cs) = cs.map some := by
  induction cs with
  | nil => rfl
  | cons c cs ih =>
    rw [scan, encode, List.flatMap_cons, scanFrom_encodeChar, ← encode, ← scan, ih, List.map_cons]

/-- **A text is read back from its bytes.** -/
theorem decode?_encode (cs : List Char) : decode? (encode cs) = some cs := by
  rw [decode?, scan_encode]
  induction cs with
  | nil => rfl
  | cons c cs ih =>
    rw [List.map_cons, List.mapM_cons, ih]
    rfl

/-- So it is where malformed sequences are let pass. -/
theorem decodeLossy_encode (cs : List Char) : decodeLossy (encode cs) = cs := by
  rw [decodeLossy, scan_encode, List.map_map]
  exact List.map_id cs

end Utf8

namespace Text

/-! ## Texts of characters -/

/-- A character is no half of a pair. -/
theorem isHalf_toNat (c : Char) : Utf16.isHalf c.toNat = false := by
  have whole := (Utf8.toNat_bounds c).2
  simp only [Utf16.isHalf, Bool.and_eq_false_iff, decide_eq_false_iff_not]
  omega

/-- **A text that was made of characters holds them**, and nothing else. -/
theorem characters?_ofCharacters (cs : List Char) : characters? (ofCharacters cs) = some cs := by
  have held : codePoints (ofCharacters cs) = cs.map Char.toNat := by
    refine codePoints_ofCodePoints fun n member => ?_
    obtain ⟨c, -, rfl⟩ := List.mem_map.1 member
    exact (Utf8.toNat_bounds c).1
  have sound : isSound (ofCharacters cs) = true := by
    rw [isSound, held, List.all_map, List.all_eq_true]
    intro c _
    simp only [Function.comp_apply, isHalf_toNat, Bool.not_false]
  rw [characters?, if_pos sound, held, List.map_map]
  simp [Function.comp_def]

/-- Texts of other characters are others. -/
theorem ofCharacters_injective {cs ds : List Char} (h : ofCharacters cs = ofCharacters ds) :
    cs = ds := by
  have held := characters?_ofCharacters cs
  rw [h, characters?_ofCharacters] at held
  exact (Option.some.inj held).symm

theorem bytes?_ofCharacters (cs : List Char) : bytes? (ofCharacters cs) = some (Utf8.encode cs) := by
  rw [bytes?, characters?_ofCharacters, Option.map_some]

/-! ## Texts without marks -/

variable {cs : List Char}

/-- A character that is not the mark is held by itself. -/
theorem holding_toNat {c : Char} (plain : c ≠ halfMark) : holding c.toNat = [c] := by
  have inner : c.toNat ≠ 0x10FFFF := fun eq => plain (Char.toNat_inj.1 (eq.trans (by decide)))
  rw [holding, isHalf_toNat, if_neg Bool.false_ne_true, if_neg inner, Char.ofNat_toNat]

/-- Characters without the mark are held by themselves. -/
theorem ofCharacters_of_plain (plain : halfMark ∉ cs) : ofCharacters cs = cs := by
  induction cs with
  | nil => rfl
  | cons c cs ih =>
    have first : halfMark ≠ c := List.ne_of_not_mem_cons plain
    have others : halfMark ∉ cs := List.not_mem_of_not_mem_cons plain
    rw [ofCharacters, List.map_cons, ofCodePoints, List.flatMap_cons,
      holding_toNat (Ne.symm first), ← ofCodePoints, ← ofCharacters, ih others]
    rfl

/-- **A text without marks holds its own characters.** -/
theorem characters?_of_plain (plain : halfMark ∉ cs) : characters? cs = some cs := by
  have held := characters?_ofCharacters cs
  rwa [ofCharacters_of_plain plain] at held

end Text

end NetSteward
