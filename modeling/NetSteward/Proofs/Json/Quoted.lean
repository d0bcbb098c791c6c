import NetSteward.Json.Reader
import NetSteward.Json.Writer
import NetSteward.Proofs.Text.Utf8
/-!
# Reading back strings in JSON

Every code point of a string is written in one of four forms, and each
form is read back. Two halves of a pair are the one exception: their
escapes next to each other are those of a character. So a string is read
back if no first half of a pair stands directly before a second one; such
a string is settled, and `readString_writeString` is the main result. All
that is written is ASCII.
-/

namespace NetSteward

namespace Utf16

/-- Whether no first half of a pair stands directly before a second
one. -/
def isSettled : List Nat → Bool
  | n :: m :: rest => !(isHigh n && isLow m) && isSettled (m :: rest)
  | _ => true

/-- A first half is a unit, and no second half. -/
theorem isHigh_bounds {n : Nat} (h : isHigh n = true) : n < 0x10000 ∧ isLow n = false := by
  simp only [isHigh, Bool.and_eq_true, decide_eq_true_eq] at h
  simp only [isLow, Bool.and_eq_false_iff, decide_eq_false_iff_not]
  omega

/-- A second half is a unit. -/
theorem isLow_bounds {n : Nat} (h : isLow n = true) : n < 0x10000 := by
  simp only [isLow, Bool.and_eq_true, decide_eq_true_eq] at h
  omega

end Utf16

namespace Json

/-! ## The forms of a code point -/

/-- The letter of a character is read as the character. -/
theorem ofLetter?_of_letterOf? {c l : Char} (h : letterOf? c = some l) :
    ofLetter? l = some c ∧ l ≠ 'u' ∧ Text.isAscii l = true := by
  obtain ⟨e, found, rfl⟩ := Option.map_eq_some_iff.1 h
  have same : e.2 = c := by simpa using List.find?_some found
  subst same
  have table : ∀ e ∈ letterEscapes,
      ofLetter? e.1 = some e.2 ∧ e.1 ≠ 'u' ∧ Text.isAscii e.1 = true := by decide
  exact table e (List.mem_of_find?_eq_some found)

/-- A quote and a backslash have letters. -/
theorem ne_of_letterOf?_eq_none {c : Char} (h : letterOf? c = none) : c ≠ '"' ∧ c ≠ '\\' := by
  constructor <;> rintro rfl <;> exact absurd h (by decide)

/-- The texts in which a code point is written. -/
inductive Form : Nat → List Char → Prop
  /-- A backslash and a letter. -/
  | letter {n : Nat} {c l : Char} (letter : ofLetter? l = some c) (other : l ≠ 'u')
      (ascii : Text.isAscii l = true) (held : Text.holding n = [c]) : Form n ['\\', l]
  /-- The character itself. -/
  | plain {n : Nat} {c : Char} (quote : c ≠ '"') (backslash : c ≠ '\\') (visible : 32 ≤ c.toNat)
      (ascii : Text.isAscii c = true) (held : Text.holding n = [c]) : Form n [c]
  /-- The escape of one unit. -/
  | unit {n : Nat} (small : n < 0x10000) : Form n (unitEscape n)
  /-- The escapes of two halves. -/
  | pair {high low : Nat} (first : Utf16.isHigh high = true) (second : Utf16.isLow low = true) :
      Form (Utf16.pair high low) (unitEscape high ++ unitEscape low)

/-- A character other than the first one is the one of its code point. -/
theorem toNat_ofNat_of_ne {n : Nat} (h : Char.ofNat n ≠ '\x00') : (Char.ofNat n).toNat = n := by
  by_cases valid : n.isValidChar
  · exact Text.toNat_ofNat valid
  · exact absurd (by rw [Char.ofNat, dif_neg valid]; rfl) h

/-- A character that is not the mark, nor the first one, which stands for
all that are none, holds its code point by itself. -/
theorem holding_eq {n : Nat} (first : Char.ofNat n ≠ '\x00')
    (mark : Char.ofNat n ≠ Text.halfMark) : Text.holding n = [Char.ofNat n] := by
  rw [← Text.holding_toNat mark, toNat_ofNat_of_ne first]

/-- The escapes of the units of a code point are one of the forms. -/
theorem form_units {n : Nat} (h : n < 0x110000) : Form n ((Utf16.units n).flatMap unitEscape) := by
  rw [Utf16.units]
  split
  · rename_i small
    simpa using Form.unit small
  · rename_i large
    have whole :
        Utf16.pair (0xD800 + (n - 0x10000) / 1024) (0xDC00 + (n - 0x10000) % 1024) = n := by
      rw [Utf16.pair_add]
      omega
    have form : Form _ (unitEscape (0xD800 + (n - 0x10000) / 1024) ++
        unitEscape (0xDC00 + (n - 0x10000) % 1024)) :=
      .pair (by simp only [Utf16.isHigh, Bool.and_eq_true, decide_eq_true_eq]; omega)
        (by simp only [Utf16.isLow, Bool.and_eq_true, decide_eq_true_eq]; omega)
    rw [whole] at form
    simpa using form

/-- **Every code point is written in one of the forms.** -/
theorem form_writeCodePoint {n : Nat} (h : n < 0x110000) : Form n (writeCodePoint n) := by
  unfold writeCodePoint
  dsimp only
  split
  · rename_i l found
    obtain ⟨letter, other, ascii⟩ := ofLetter?_of_letterOf? found
    have ne (d : Char) (unescaped : letterOf? d = none) : Char.ofNat n ≠ d := fun eq => by
      rw [eq, unescaped] at found
      cases found
    exact .letter letter other ascii (holding_eq (ne _ (by decide)) (ne _ (by decide)))
  · rename_i unescaped
    obtain ⟨quote, backslash⟩ := ne_of_letterOf?_eq_none unescaped
    split
    · rename_i visible
      have same : (Char.ofNat n).toNat = n := Text.toNat_ofNat (Or.inl (by omega))
      have ne (d : Char) (away : d.toNat < 32 ∨ 127 ≤ d.toNat) : Char.ofNat n ≠ d := fun eq => by
        rw [eq] at same
        omega
      exact .plain quote backslash (by omega) (by simp [Text.isAscii]; omega)
        (holding_eq (ne _ (by decide)) (ne _ (by decide)))
    · exact form_units h

/-! ## Units -/

/-- A hexadecimal digit is read back. -/
theorem hexDigit?_hexDigit : ∀ d, d < 16 → Text.hexDigit? (Text.hexDigit d) = some d := by decide

/-- Four digits are read back. -/
theorem fourHex?_fourHex {n : Nat} (h : n < 0x10000) :
    fourHex? (Text.hexDigit (n / 4096 % 16)) (Text.hexDigit (n / 256 % 16))
      (Text.hexDigit (n / 16 % 16)) (Text.hexDigit (n % 16)) = some n := by
  simp only [fourHex?, hexDigit?_hexDigit _ (Nat.mod_lt _ (by decide : 16 > 0)),
    Option.some.injEq]
  omega

/-- An escape is read as a unit, if something follows it. -/
theorem secondUnit?_unitEscape {n : Nat} (h : n < 0x10000) (e : Char) (rest : List Char) :
    secondUnit? (unitEscape n ++ e :: rest) = some (.ok (n, e :: rest)) := by
  simp only [unitEscape, fourHex, List.cons_append, List.nil_append, secondUnit?, and_self, if_true,
    fourHex?_fourHex h]

/-- What starts with another character is no escape. -/
theorem secondUnit?_of_ne_backslash {c : Char} (h : c ≠ '\\') (rest : List Char) :
    secondUnit? (c :: rest) = none := by
  rw [secondUnit?.eq_def]
  split
  · rename_i eq
    obtain ⟨rfl, -⟩ := List.cons.inj eq
    exact if_neg fun both => h both.1
  · rfl

/-- What goes on with another letter is no escape of a unit. -/
theorem secondUnit?_of_ne_u {c d : Char} (h : d ≠ 'u') (rest : List Char) :
    secondUnit? (c :: d :: rest) = none := by
  rw [secondUnit?.eq_def]
  split
  · rename_i eq
    obtain ⟨rfl, -⟩ := List.cons.inj (List.cons.inj eq).2
    exact if_neg fun both => h both.2
  · rfl

/-- Whether a text does not go on with the escape of a second half. -/
def NoSecond (text : List Char) : Prop :=
  secondUnit? text = none ∨
    ∃ n after, secondUnit? text = some (.ok (n, after)) ∧ Utf16.isLow n = false

/-- A unit is read as the code point that it is, unless it is a first half
before a second one. -/
theorem readUnit_alone {n : Nat} (h : n < 0x10000) {e : Char} {rest : List Char}
    (alone : Utf16.isHigh n = true → NoSecond (e :: rest)) :
    readUnit (fourHex n ++ e :: rest) = .ok (Text.holding n, e :: rest) := by
  simp only [fourHex, List.cons_append, List.nil_append, readUnit, fourHex?_fourHex h]
  split
  · rename_i high
    obtain none | ⟨m, after, found, other⟩ := alone high
    · rw [none]
    · rw [found]
      simp only [other, Bool.false_eq_true, if_false]
  · rfl

/-- A first half and a second one are read as their pair. -/
theorem readUnit_pair {high low : Nat} (first : Utf16.isHigh high = true)
    (second : Utf16.isLow low = true) (e : Char) (rest : List Char) :
    readUnit (fourHex high ++ (unitEscape low ++ e :: rest)) =
      .ok (Text.holding (Utf16.pair high low), e :: rest) := by
  have found := secondUnit?_unitEscape (Utf16.isLow_bounds second) e rest
  simp only [fourHex, unitEscape, List.cons_append, List.nil_append] at found ⊢
  simp only [readUnit, fourHex?_fourHex (Utf16.isHigh_bounds first).1, first, if_true, found,
    second]

/-! ## Strings -/

/-- The text of some code points in a string, up to the closing quote and
on. -/
abbrev inQuotes (ns : List Nat) (rest : List Char) : List Char :=
  ns.flatMap writeCodePoint ++ '"' :: rest

/-- What is written of a settled string after a first half does not go on
with the escape of a second one. -/
theorem noSecond_inQuotes {n : Nat} {ns : List Nat} (bounded : ∀ m ∈ ns, m < 0x110000)
    (settled : Utf16.isSettled (n :: ns) = true) (high : Utf16.isHigh n = true)
    (rest : List Char) : NoSecond (inQuotes ns rest) := by
  cases ns with
  | nil => exact .inl (secondUnit?_of_ne_backslash (by decide) rest)
  | cons m ms =>
    have other : Utf16.isLow m = false := by
      simp only [Utf16.isSettled, high, Bool.true_and, Bool.and_eq_true,
        Bool.not_eq_true'] at settled
      exact settled.1
    obtain ⟨e, more, following⟩ : ∃ e more, inQuotes ms rest = e :: more :=
      List.exists_cons_of_ne_nil (by simp)
    rw [inQuotes, List.flatMap_cons, List.append_assoc, ← inQuotes, following]
    -- What is written is an index of the form, so it has to be any text there.
    have form := form_writeCodePoint (bounded m List.mem_cons_self)
    generalize writeCodePoint m = text at form
    cases form with
    | letter _ letter => exact .inl (secondUnit?_of_ne_u letter _)
    | plain _ backslash => exact .inl (secondUnit?_of_ne_backslash backslash _)
    | unit small => exact .inr ⟨m, e :: more, secondUnit?_unitEscape small e more, other⟩
    | @pair first second isHigh _ =>
      -- A pair goes on with an escape, but its first half is no second one.
      obtain ⟨bounded, other⟩ := Utf16.isHigh_bounds isHigh
      rw [List.append_assoc]
      exact .inr ⟨first, _, secondUnit?_unitEscape bounded _ _, other⟩

section

variable {opening after rest xs : List Char} {fuel : Nat}

/-- A letter behind a backslash is read, and then the rest. -/
theorem readChars_letter {c l : Char} (letter : ofLetter? l = some c) (other : l ≠ 'u')
    (next : readChars opening fuel after = .ok (xs, rest)) :
    readChars opening (fuel + 1) ('\\' :: l :: after) = .ok (c :: xs, rest) := by
  simp [readChars, other, letter, next, bind, Except.bind, pure, Except.pure]

/-- A character that stands for itself is read, and then the rest. -/
theorem readChars_plain {c : Char} (quote : c ≠ '"') (backslash : c ≠ '\\')
    (visible : 32 ≤ c.toNat) (next : readChars opening fuel after = .ok (xs, rest)) :
    readChars opening (fuel + 1) (c :: after) = .ok (c :: xs, rest) := by
  simp [readChars, quote, backslash, Nat.not_lt.2 visible, next, bind, Except.bind, pure,
    Except.pure]

/-- Escapes of units are read, and then the rest. -/
theorem readChars_unit {escaped unit : List Char} (read : readUnit escaped = .ok (unit, after))
    (next : readChars opening fuel after = .ok (xs, rest)) :
    readChars opening (fuel + 1) ('\\' :: 'u' :: escaped) = .ok (unit ++ xs, rest) := by
  simp [readChars, read, next, bind, Except.bind, pure, Except.pure]

end

/-- **What is written of settled code points is read back**, by induction
on them: each is read in its form. -/
theorem readChars_inQuotes (opening rest : List Char) {ns : List Nat}
    (bounded : ∀ n ∈ ns, n < 0x110000) (settled : Utf16.isSettled ns = true) {fuel : Nat}
    (enough : ns.length < fuel) :
    readChars opening fuel (inQuotes ns rest) = .ok (Text.ofCodePoints ns, rest) := by
  induction ns generalizing fuel with
  | nil =>
    obtain ⟨fuel, rfl⟩ := Nat.exists_eq_add_one.2 (Nat.lt_of_le_of_lt (Nat.zero_le _) enough)
    simp only [inQuotes, List.flatMap_nil, List.nil_append, readChars, if_true]
    rfl
  | cons n ns ih =>
    obtain ⟨fuel, rfl⟩ := Nat.exists_eq_add_one.2 (Nat.lt_of_le_of_lt (Nat.zero_le _) enough)
    have boundedNext (m : Nat) (member : m ∈ ns) := bounded m (List.mem_cons_of_mem n member)
    have settledNext : Utf16.isSettled ns = true := by
      cases ns with
      | nil => rfl
      | cons m ms =>
        rw [Utf16.isSettled, Bool.and_eq_true] at settled
        exact settled.2
    have next := ih boundedNext settledNext (Nat.lt_of_succ_lt_succ enough)
    -- Reading a unit looks at the character behind it: there is one, since the quote is to come.
    have alone (high : Utf16.isHigh n = true) := noSecond_inQuotes boundedNext settled high rest
    obtain ⟨e, more, following⟩ : ∃ e more, inQuotes ns rest = e :: more :=
      List.exists_cons_of_ne_nil (by simp)
    rw [inQuotes, List.flatMap_cons, List.append_assoc, ← inQuotes, Text.ofCodePoints,
      List.flatMap_cons, ← Text.ofCodePoints]
    have form := form_writeCodePoint (bounded n List.mem_cons_self)
    generalize writeCodePoint n = text at form
    rw [following] at next alone ⊢
    cases form with
    | letter letter other _ held =>
      rw [held]
      exact readChars_letter letter other next
    | plain quote backslash visible _ held =>
      rw [held]
      exact readChars_plain quote backslash visible next
    | unit small => exact readChars_unit (readUnit_alone small alone) next
    | pair first second =>
      rw [List.append_assoc]
      exact readChars_unit (readUnit_pair first second e more) next

/-- Whether a string is settled: it holds code points, and no first half
of a pair directly before a second one. -/
def Settled (s : String) : Prop :=
  ∃ ns, (∀ n ∈ ns, n < 0x110000) ∧ Utf16.isSettled ns = true ∧
    s = String.ofList (Text.ofCodePoints ns)

/-- Code points that are no halves are settled. -/
theorem isSettled_of_whole {ns : List Nat} (whole : ∀ n ∈ ns, Utf16.isHalf n = false) :
    Utf16.isSettled ns = true := by
  fun_induction Utf16.isSettled ns with
  | case1 n m rest ih =>
    have first := whole n List.mem_cons_self
    have low : Utf16.isHigh n = false := by
      simp only [Utf16.isHalf, Utf16.isHigh, Bool.and_eq_false_iff, decide_eq_false_iff_not] at *
      omega
    rw [low, ih fun k member => whole k (List.mem_cons_of_mem n member)]
    rfl
  | case2 => rfl

/-- **A string that holds characters only is settled.** -/
theorem settled_ofCharacters (cs : List Char) : Settled (String.ofList (Text.ofCharacters cs)) := by
  refine ⟨cs.map Char.toNat, ?_, isSettled_of_whole ?_, rfl⟩
  · intro n member
    obtain ⟨c, -, rfl⟩ := List.mem_map.1 member
    exact (Utf8.toNat_bounds c).1
  · intro n member
    obtain ⟨c, -, rfl⟩ := List.mem_map.1 member
    exact Text.isHalf_toNat c

/-- A string without marks is settled. -/
theorem settled_of_plain {s : String} (plain : Text.halfMark ∉ s.toList) : Settled s := by
  have settled := settled_ofCharacters s.toList
  rwa [Text.ofCharacters_of_plain plain, String.ofList_toList] at settled

/-- What is written of code points is as long as they are at least. -/
theorem length_le_length_written {ns : List Nat} (bounded : ∀ n ∈ ns, n < 0x110000) :
    ns.length ≤ (ns.flatMap writeCodePoint).length := by
  induction ns with
  | nil => exact Nat.zero_le _
  | cons n ns ih =>
    have first : 0 < (writeCodePoint n).length := by
      have form := form_writeCodePoint (bounded n List.mem_cons_self)
      generalize writeCodePoint n = text at form
      cases form <;> simp [unitEscape]
    have others := ih fun m member => bounded m (List.mem_cons_of_mem n member)
    rw [List.flatMap_cons, List.length_append, List.length_cons]
    omega

/-- **A settled string is read back.** -/
theorem readString_writeString {s : String} (settled : Settled s) {fuel : Nat}
    (enough : (writeString s).length ≤ fuel) (rest : List Char) :
    readString fuel (writeString s ++ rest) = .ok (s, rest) := by
  obtain ⟨ns, bounded, isSettled, rfl⟩ := settled
  have written : writeString (String.ofList (Text.ofCodePoints ns)) =
      '"' :: (ns.flatMap writeCodePoint ++ ['"']) := by
    rw [writeString, String.toList_ofList, Text.codePoints_ofCodePoints bounded]
    rfl
  have shorter : ns.length < fuel := by
    have := length_le_length_written bounded
    rw [written, List.length_cons, List.length_append] at enough
    omega
  have read := readChars_inQuotes (writeString (String.ofList (Text.ofCodePoints ns)) ++ rest) rest
    bounded isSettled shorter
  have inside : (writeString (String.ofList (Text.ofCodePoints ns)) ++ rest).drop 1 =
      inQuotes ns rest := by
    rw [written, List.cons_append, List.drop_one, List.tail_cons, List.append_assoc]
    rfl
  rw [readString, inside, read]
  rfl

/-! ## Only ASCII is written -/

/-- A text in ASCII. -/
abbrev Ascii (cs : List Char) : Prop := ∀ c ∈ cs, Text.isAscii c = true

/-- The escape of a unit is in ASCII. -/
theorem ascii_unitEscape (n : Nat) : Ascii (unitEscape n) := by
  have digit : ∀ d, d < 16 → Text.isAscii (Text.hexDigit d) = true := by decide
  have all (k : Nat) := digit (k % 16) (Nat.mod_lt k (by decide))
  simp only [Ascii, unitEscape, fourHex, List.mem_cons, forall_eq_or_imp, all, true_and]
  exact ⟨by decide, by decide, by simp⟩

/-- Each form is in ASCII. -/
theorem Form.ascii {n : Nat} {cs : List Char} (form : Form n cs) : Ascii cs := by
  cases form with
  | letter _ _ ascii =>
    simp only [Ascii, List.mem_cons, List.not_mem_nil, or_false, forall_eq_or_imp, forall_eq]
    exact ⟨rfl, ascii⟩
  | plain _ _ _ ascii => simpa [Ascii] using ascii
  | unit => exact ascii_unitEscape n
  | @pair high low =>
    intro c member
    exact (List.mem_append.1 member).elim (ascii_unitEscape high c) (ascii_unitEscape low c)

/-- A settled string is written in ASCII. -/
theorem ascii_writeString {s : String} (settled : Settled s) : Ascii (writeString s) := by
  obtain ⟨ns, bounded, -, rfl⟩ := settled
  intro c member
  rw [writeString, String.toList_ofList, Text.codePoints_ofCodePoints bounded] at member
  simp only [List.cons_append, List.mem_cons, List.mem_append, List.mem_flatMap] at member
  obtain rfl | ⟨n, inside, written⟩ | rfl | none := member
  · decide
  · exact (form_writeCodePoint (bounded n inside)).ascii c written
  · decide
  · cases none

end Json

end NetSteward
