import NetSteward.Proofs.Json.Quoted
/-!
# Reading back objects in JSON

Integers are read back from their digits, if they are not too long, and
settled strings from their escapes. So is an object of such values: its
members are read one by one, and `read_obj` is the main result.
-/

namespace NetSteward

namespace Json

/-! ## Integers -/

/-- Whether a text goes on with nothing that could belong to a number. -/
def Stops (text : List Char) : Prop :=
  ∀ c ∈ text.head?, c.isDigit = false ∧ c ≠ '.' ∧ c ≠ 'e' ∧ c ≠ 'E'

/-- A number is written with a digit first. -/
theorem exists_toDigits (n : Nat) : ∃ d ds, Nat.toDigits 10 n = d :: ds ∧ d.isDigit = true := by
  obtain ⟨d, ds, eq⟩ := List.exists_cons_of_ne_nil (Nat.toDigits_ne_nil (n := n) (b := 10))
  exact ⟨d, ds, eq, Nat.isDigit_of_mem_toDigits (n := n) (b := 10) (by decide) (by decide)
    (by rw [eq]; exact List.mem_cons_self)⟩

/-- The digits of a number write the number. -/
theorem digitsValue_toDigits (n : Nat) : Text.digitsValue (Nat.toDigits 10 n) = n := by
  have same := Nat.ofDigitChars_ten_toDigits (n := n)
  rwa [Nat.ofDigitChars_eq_foldl] at same

/-- The digits of a number other than zero do not start with a zero, by
induction on the number. -/
theorem head?_toDigits {n : Nat} (h : 0 < n) : (Nat.toDigits 10 n).head? ≠ some '0' := by
  induction n using Nat.strongRecOn with
  | ind n ih =>
    -- The first digit is the one of the number without its last digit.
    rcases Nat.lt_or_ge n 10 with small | large
    · rw [Nat.toDigits_of_lt_base small]
      simp only [List.head?_cons, ne_eq, Option.some.injEq, Nat.digitChar_eq_zero]
      omega
    · obtain ⟨c, cs, eq, -⟩ := exists_toDigits (n / 10)
      have same : (Nat.toDigits 10 n).head? = (Nat.toDigits 10 (n / 10)).head? := by
        rw [Nat.toDigits_of_base_le (by decide) large, eq]
        rfl
      rw [same]
      exact ih (n / 10) (by omega) (by omega)

/-- The digits of a number are taken as they are. -/
theorem takeInteger_toDigits (n : Nat) {rest : List Char} (stops : Stops rest) :
    takeInteger (Nat.toDigits 10 n ++ rest) = (Nat.toDigits 10 n, rest) := by
  rcases Nat.eq_zero_or_pos n with rfl | positive
  · rw [Nat.toDigits_zero]
    rfl
  · have head := head?_toDigits positive
    have digits (c : Char) (member : c ∈ Nat.toDigits 10 n) : c.isDigit = true :=
      Nat.isDigit_of_mem_toDigits (by decide) (by decide) member
    obtain ⟨c, cs, eq, -⟩ := exists_toDigits n
    have taken : takeDigits (Nat.toDigits 10 n ++ rest) = (Nat.toDigits 10 n, rest) := by
      have first : rest.takeWhile Char.isDigit = [] ∧ rest.dropWhile Char.isDigit = rest := by
        cases rest with
        | nil => exact ⟨rfl, rfl⟩
        | cons d more =>
          have other := (stops d rfl).1
          simp [other]
      rw [takeDigits, List.takeWhile_append_of_pos digits, List.dropWhile_append_of_pos digits,
        first.1, first.2, List.append_nil]
    rw [eq, List.head?_cons] at head
    rw [eq] at taken ⊢
    rw [List.cons_append] at taken ⊢
    rw [takeInteger, if_neg fun zero => head (congrArg some zero), taken]

/-- A number whose digits stop has neither a fraction nor an exponent. -/
theorem takeRest_of_stops {rest : List Char} (stops : Stops rest) :
    takeFraction rest = ([], rest) ∧ takeExponent rest = (none, rest) := by
  cases rest with
  | nil => exact ⟨rfl, rfl⟩
  | cons c more =>
    obtain ⟨-, point, lower, upper⟩ := stops c rfl
    exact ⟨by rw [takeFraction, if_neg point],
      by simp only [takeExponent, lower, upper, or_self, if_false]⟩

/-- The digits of a number, with or without a sign, are taken as they
are. -/
theorem takeNumeral?_toDigits (n : Nat) {rest : List Char} (stops : Stops rest) :
    takeNumeral? (Nat.toDigits 10 n ++ rest) = some (⟨false, Nat.toDigits 10 n, [], none⟩, rest) ∧
      takeNumeral? ('-' :: (Nat.toDigits 10 n ++ rest)) =
        some (⟨true, Nat.toDigits 10 n, [], none⟩, rest) := by
  obtain ⟨fraction, exponent⟩ := takeRest_of_stops stops
  have taken := takeInteger_toDigits n stops
  have nonempty : (Nat.toDigits 10 n).isEmpty = false := by simp
  have unsigned : ∀ more, Nat.toDigits 10 n ++ rest ≠ '-' :: more := by
    intro more eq
    obtain ⟨c, cs, digits, digit⟩ := exists_toDigits n
    rw [digits, List.cons_append] at eq
    rw [(List.cons.inj eq).1] at digit
    exact absurd digit (by decide)
  constructor
  · rw [takeNumeral?.eq_def]
    split
    rename_i negative digits eq
    split at eq
    · rename_i signed
      exact absurd signed (unsigned _)
    · obtain ⟨rfl, rfl⟩ := Prod.mk.inj eq
      simp only [taken, nonempty, Bool.false_eq_true, if_false, fraction, exponent]
  · simp only [takeNumeral?, taken, nonempty, Bool.false_eq_true, if_false, fraction, exponent]

/-- What is written of an integer. -/
theorem write_int (z : Int) : (Json.int z).write =
    if 0 ≤ z then Nat.toDigits 10 z.toNat else '-' :: Nat.toDigits 10 (-z).toNat := by
  rw [write, Int.toString_eq_repr, Int.repr_eq_if]
  split
  · exact Nat.toList_repr
  · rw [String.toList_append, Nat.toList_repr]
    rfl

/-- Whether an integer is not too long to be read. -/
def Fits (z : Int) : Prop := (Nat.toDigits 10 z.natAbs).length ≤ digitLimit

/-- An integer is taken as its sign and its digits, and they have its
value. -/
theorem takeNumeral?_write_int {z : Int} (fits : Fits z) {rest : List Char} (stops : Stops rest) :
    ∃ numeral, takeNumeral? ((Json.int z).write ++ rest) = some (numeral, rest) ∧
      numeral.value = .ok (.int z) := by
  rw [write_int]
  split
  · rename_i positive
    have short : (Nat.toDigits 10 z.toNat).length ≤ digitLimit := by
      rwa [Fits, show z.natAbs = z.toNat by omega] at fits
    refine ⟨_, (takeNumeral?_toDigits z.toNat stops).1, ?_⟩
    simp only [Numeral.value, if_neg (Nat.not_lt.2 short), digitsValue_toDigits, Bool.false_eq_true,
      if_false, Int.toNat_of_nonneg positive]
  · rename_i negative
    have short : (Nat.toDigits 10 (-z).toNat).length ≤ digitLimit := by
      rwa [Fits, show z.natAbs = (-z).toNat by omega] at fits
    refine ⟨_, (takeNumeral?_toDigits (-z).toNat stops).2, ?_⟩
    simp only [Numeral.value, if_neg (Nat.not_lt.2 short), digitsValue_toDigits, if_true,
      Int.toNat_of_nonneg (show 0 ≤ -z by omega), Int.neg_neg]

/-! ## Values -/

/-- A word with another first character does not stand at the start. -/
theorem after?_of_ne {w c : Char} (h : w ≠ c) (ws cs : List Char) :
    Text.after? (w :: ws) (c :: cs) = none := by
  rw [Text.after?, if_neg h]

/-- What is written of an integer starts with a digit, or with a sign and
a digit. -/
theorem exists_write_int (z : Int) : ∃ c cs, (Json.int z).write = c :: cs ∧
    (c.isDigit = true ∨ c = '-' ∧ ∃ d ds, cs = d :: ds ∧ d.isDigit = true) := by
  rw [write_int]
  split
  · obtain ⟨d, ds, eq, digit⟩ := exists_toDigits z.toNat
    exact ⟨d, ds, eq, .inl digit⟩
  · exact ⟨_, _, rfl, .inr ⟨rfl, exists_toDigits (-z).toNat⟩⟩

/-- An integer is read as a number. -/
theorem readNumber?_write_int {z : Int} (fits : Fits z) {rest : List Char} (stops : Stops rest) :
    readNumber? .valued ((Json.int z).write ++ rest) = some (.ok (.int z, rest)) := by
  obtain ⟨numeral, taken, value⟩ := takeNumeral?_write_int fits stops
  have noWord : Text.after? "NaN".toList ((Json.int z).write ++ rest) = none ∧
      Text.after? "Infinity".toList ((Json.int z).write ++ rest) = none ∧
      Text.after? "-Infinity".toList ((Json.int z).write ++ rest) = none := by
    obtain ⟨c, cs, eq, digit | ⟨rfl, d, ds, rfl, digit⟩⟩ := exists_write_int z
    · have ne (w : Char) (other : w.isDigit = false) : w ≠ c := by
        rintro rfl
        rw [digit] at other
        cases other
      rw [eq]
      exact ⟨after?_of_ne (ne _ (by decide)) _ _, after?_of_ne (ne _ (by decide)) _ _,
        after?_of_ne (ne _ (by decide)) _ _⟩
    · have ne : 'I' ≠ d := by
        rintro rfl
        cases digit
      rw [eq]
      exact ⟨after?_of_ne (by decide) _ _, after?_of_ne (by decide) _ _,
        (after?_of_ne ne _ _ : Text.after? "Infinity".toList (d :: (ds ++ rest)) = none)⟩
  simp only [readNumber?, noWord, taken, Option.map_some, value]
  rfl

/-- An integer is read as a value. -/
theorem readScalar_write_int {z : Int} (fits : Fits z) (fuel : Nat) {rest : List Char}
    (stops : Stops rest) :
    readScalar .valued fuel ((Json.int z).write ++ rest) = .ok (.int z, rest) := by
  have number := readNumber?_write_int fits stops
  obtain ⟨c, cs, eq, first⟩ := exists_write_int z
  have ne (w : Char) (digit : w.isDigit = false) (sign : w ≠ '-') : w ≠ c := by
    rintro rfl
    rcases first with first | ⟨rfl, -⟩
    · rw [digit] at first
      cases first
    · exact sign rfl
  rw [eq, List.cons_append] at number ⊢
  have noWord : Text.after? "null".toList (c :: (cs ++ rest)) = none ∧
      Text.after? "true".toList (c :: (cs ++ rest)) = none ∧
      Text.after? "false".toList (c :: (cs ++ rest)) = none :=
    ⟨after?_of_ne (ne _ (by decide) (by decide)) _ _,
      after?_of_ne (ne _ (by decide) (by decide)) _ _,
      after?_of_ne (ne _ (by decide) (by decide)) _ _⟩
  rw [readScalar, if_neg (Ne.symm (ne '"' (by decide) (by decide)))]
  simp only [noWord, number]

/-- A settled string is read as a value. -/
theorem readScalar_write_str {s : String} (settled : Settled s) {fuel : Nat}
    (enough : (Json.str s).write.length ≤ fuel) (rest : List Char) :
    readScalar .valued fuel ((Json.str s).write ++ rest) = .ok (.str s, rest) := by
  have read := readString_writeString settled enough rest
  obtain ⟨inside, eq⟩ : ∃ inside, writeString s ++ rest = '"' :: inside := ⟨_, rfl⟩
  rw [eq] at read
  rw [write, eq, readScalar, if_pos rfl, read]
  rfl

/-- Whether a value is a settled string or an integer that is not too
long. -/
inductive Plain : Json → Prop
  | str {s : String} (settled : Settled s) : Plain (.str s)
  | int {z : Int} (fits : Fits z) : Plain (.int z)

/-- What is written of such a value starts with a quote, a digit or a
sign. -/
theorem Plain.exists_write {j : Json} (plain : Plain j) :
    ∃ c cs, j.write = c :: cs ∧ (c = '"' ∨ c.isDigit = true ∨ c = '-') := by
  cases plain with
  | str => exact ⟨_, _, rfl, .inl rfl⟩
  | int =>
    obtain ⟨c, cs, eq, digit | ⟨sign, -⟩⟩ := exists_write_int _
    · exact ⟨c, cs, eq, .inr (.inl digit)⟩
    · exact ⟨c, cs, eq, .inr (.inr sign)⟩

/-- A string or an integer is read back, before anything that stops a
number. -/
theorem readValue_write {j : Json} (plain : Plain j) {fuel : Nat} (enough : j.write.length ≤ fuel)
    (depth : Nat) {rest : List Char} (stops : Stops rest) :
    readValue .valued fuel depth (j.write ++ rest) = .ok (j, rest) := by
  obtain ⟨c, cs, eq, first⟩ := plain.exists_write
  have opens : ¬ (c = '[' ∨ c = '\x7b') := by
    rintro (rfl | rfl) <;> revert first <;> decide
  obtain ⟨fuel, rfl⟩ : ∃ k, fuel = k + 1 := by
    rw [eq, List.length_cons] at enough
    exact Nat.exists_eq_add_one.2 (by omega)
  have scalar : readScalar .valued (fuel + 1) (j.write ++ rest) = .ok (j, rest) := by
    cases plain with
    | str settled => exact readScalar_write_str settled enough rest
    | int fits => exact readScalar_write_int fits _ stops
  rw [eq, List.cons_append] at scalar ⊢
  simp only [readValue, if_neg opens, scalar]

/-! ## Objects -/

/-- Members with a settled name and a value that is read back. -/
abbrev PlainMember (m : String × Json) : Prop := Settled m.1 ∧ Plain m.2

/-- The text after a gap is the text itself where there is no gap. -/
theorem skipGap_of_first {c : Char} (h : isGap c = false) (cs : List Char) :
    skipGap (c :: cs) = c :: cs := by
  rw [skipGap, List.dropWhile_cons, h]
  rfl

/-- A member starts with the quote before its name. -/
theorem exists_writeMember (m : String × Json) : ∃ cs, writeMember m = '"' :: cs := by
  obtain ⟨k, v⟩ := m
  exact ⟨_, rfl⟩

/-- There is no gap before a member. -/
theorem skipGap_writeMember (m : String × Json) (rest : List Char) :
    skipGap (writeMember m ++ rest) = writeMember m ++ rest := by
  obtain ⟨cs, eq⟩ := exists_writeMember m
  rw [eq, List.cons_append, skipGap_of_first rfl]

/-- A member is read, and then what comes after it. -/
theorem readMembers_writeMember {m : String × Json} (plain : PlainMember m) (depth : Nat)
    (seen : Keyed Json) {fuel : Nat} (enough : (writeMember m).length ≤ fuel) {c : Char}
    {after : List Char} (stops : Stops (c :: after)) (noGap : isGap c = false) :
    readMembers .valued (fuel + 1) depth seen (writeMember m ++ c :: after) =
      if c = '\x7d' then .ok (.obj (Keyed.insert seen m.1 m.2), after)
      else if c = ',' then
        readMembers .valued fuel depth (Keyed.insert seen m.1 m.2) (skipGap after)
      else malformedAt (c :: after) := by
  obtain ⟨k, v⟩ := m
  have name : Settled k := plain.1
  have value : Plain v := plain.2
  have whole : writeMember (k, v) = writeString k ++ ':' :: v.write := rfl
  rw [whole, List.length_append, List.length_cons] at enough
  rw [whole, List.append_assoc, List.cons_append]
  have named : readString (fuel + 1) (writeString k ++ ':' :: (v.write ++ c :: after)) =
      .ok (k, ':' :: (v.write ++ c :: after)) := readString_writeString name (by omega) _
  have valued : readValue .valued fuel depth (v.write ++ c :: after) = .ok (v, c :: after) :=
    readValue_write value (by omega) depth stops
  -- There is no gap before a value, as it starts with a quote, a digit or a sign.
  have start : skipGap (v.write ++ c :: after) = v.write ++ c :: after := by
    obtain ⟨d, ds, eq, first⟩ := value.exists_write
    have noGap : isGap d = false := Bool.eq_false_iff.2 fun gap => by
      simp only [isGap, Bool.or_eq_true, beq_iff_eq] at gap
      rcases gap with ((rfl | rfl) | rfl) | rfl <;> revert first <;> decide
    rw [eq, List.cons_append, skipGap_of_first noGap]
  obtain ⟨inside, eq⟩ : ∃ inside, writeString k ++ ':' :: (v.write ++ c :: after) = '"' :: inside :=
    ⟨_, rfl⟩
  rw [eq] at named ⊢
  simp only [readMembers, if_true, named, bind, Except.bind,
    skipGap_of_first (show isGap ':' = false from rfl), start, valued, skipGap_of_first noGap]

/-- **Members are read back**, by induction on them: each is put behind
those already read. -/
theorem readMembers_write {m : String × Json} {ms : Keyed Json}
    (plain : ∀ e ∈ m :: ms, PlainMember e) (depth : Nat) (seen : Keyed Json) {fuel : Nat}
    (enough : (writeMember m ++ writeMembers ms).length ≤ fuel) (rest : List Char) :
    readMembers .valued fuel depth seen (writeMember m ++ (writeMembers ms ++ rest)) =
      .ok (.obj ((m :: ms).foldl (fun xs e => Keyed.insert xs e.1 e.2) seen), rest) := by
  have first := plain m List.mem_cons_self
  rw [List.length_append] at enough
  induction ms generalizing m seen fuel with
  | nil =>
    rw [writeMembers, List.length_singleton] at enough
    obtain ⟨fuel, rfl⟩ := Nat.exists_eq_add_one.2 (show 0 < fuel by omega)
    rw [writeMembers, List.cons_append, List.nil_append,
      readMembers_writeMember first depth seen (by omega) (by simp [Stops]) rfl, if_pos rfl]
    rfl
  | cons next ms ih =>
    rw [writeMembers, List.cons_append, List.length_cons, List.length_append] at enough
    obtain ⟨fuel, rfl⟩ := Nat.exists_eq_add_one.2 (show 0 < fuel by omega)
    have others (e : String × Json) (member : e ∈ next :: ms) : PlainMember e :=
      plain e (List.mem_cons_of_mem m member)
    rw [writeMembers, List.cons_append, List.cons_append, List.append_assoc,
      readMembers_writeMember first depth seen (by omega) (by simp [Stops]) rfl,
      if_neg (by decide), if_pos rfl, skipGap_writeMember]
    exact ih others _ (by omega) (others next List.mem_cons_self)

/-- **An object of strings and integers is read back.** -/
theorem read_obj {m : String × Json} {ms : Keyed Json} (plain : ∀ e ∈ m :: ms, PlainMember e) :
    read (Json.obj (m :: ms)).write = .ok (.obj (Keyed.ofPairs (m :: ms))) := by
  have written : (Json.obj (m :: ms)).write = '\x7b' :: (writeMember m ++ writeMembers ms) := rfl
  have enough : (writeMember m ++ writeMembers ms).length ≤
      2 * (Json.obj (m :: ms)).write.length + 1 := by
    rw [written, List.length_cons]
    omega
  have members := readMembers_write plain 959 [] enough []
  obtain ⟨cs, first⟩ := exists_writeMember m
  have start := skipGap_writeMember m (writeMembers ms)
  rw [List.append_nil] at members
  rw [first, List.cons_append] at members start written
  have value : readValue .valued (2 * (Json.obj (m :: ms)).write.length + 2) depthLimit
      ('\x7b' :: '"' :: (cs ++ writeMembers ms)) = .ok (.obj (Keyed.ofPairs (m :: ms)), []) := by
    simp only [readValue, depthLimit, Char.reduceEq, or_true, if_true, if_false, start, members]
    rfl
  have gap : skipGap (Json.obj (m :: ms)).write = '\x7b' :: '"' :: (cs ++ writeMembers ms) := by
    rw [written, skipGap_of_first rfl]
  have all : readAll .valued (Json.obj (m :: ms)).write = .ok (.obj (Keyed.ofPairs (m :: ms))) := by
    rw [readAll, gap, value]
    rfl
  rw [read, all]

/-! ## Only ASCII is written -/

/-- An integer is written in ASCII. -/
theorem ascii_write_int (z : Int) : Ascii (Json.int z).write := by
  have digits (n : Nat) : Ascii (Nat.toDigits 10 n) := fun c member => by
    have digit := Nat.isDigit_of_mem_toDigits (n := n) (b := 10) (by decide) (by decide) member
    simp only [Char.isDigit, Bool.and_eq_true, decide_eq_true_eq, UInt32.le_iff_toNat_le] at digit
    have below : c.toNat ≤ 57 := digit.2
    simp only [Text.isAscii, decide_eq_true_eq]
    omega
  rw [write_int]
  split
  · exact digits _
  · intro c member
    rcases List.mem_cons.1 member with rfl | member
    · decide
    · exact digits _ c member

/-- A member is written in ASCII. -/
theorem ascii_writeMember {m : String × Json} (plain : PlainMember m) : Ascii (writeMember m) := by
  obtain ⟨k, v⟩ := m
  have value : Ascii v.write := by
    cases plain.2 with
    | str settled => exact ascii_writeString settled
    | int => exact ascii_write_int _
  intro c member
  rw [writeMember, List.mem_append, List.mem_cons] at member
  obtain name | rfl | inside := member
  · exact ascii_writeString plain.1 c name
  · decide
  · exact value c inside

/-- Members after the first are written in ASCII. -/
theorem ascii_writeMembers {ms : Keyed Json} (plain : ∀ e ∈ ms, PlainMember e) :
    Ascii (writeMembers ms) := by
  induction ms with
  | nil => simp only [writeMembers, Ascii, List.mem_singleton, forall_eq]; decide
  | cons m ms ih =>
    intro c member
    rw [writeMembers, List.cons_append, List.mem_cons, List.mem_append] at member
    obtain rfl | first | others := member
    · decide
    · exact ascii_writeMember (plain m List.mem_cons_self) c first
    · exact ih (fun e inside => plain e (List.mem_cons_of_mem m inside)) c others

/-- **An object of strings and integers is written in ASCII.** -/
theorem ascii_write_obj {m : String × Json} {ms : Keyed Json}
    (plain : ∀ e ∈ m :: ms, PlainMember e) : Ascii (Json.obj (m :: ms)).write := by
  intro c member
  rw [write, List.cons_append, List.mem_cons, List.mem_append] at member
  obtain rfl | first | others := member
  · decide
  · exact ascii_writeMember (plain m List.mem_cons_self) c first
  · exact ascii_writeMembers (fun e inside => plain e (List.mem_cons_of_mem m inside)) c others

end Json

end NetSteward
