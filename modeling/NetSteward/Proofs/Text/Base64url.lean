import NetSteward.Proofs.Text.Utf8
import NetSteward.Text.Base64url
/-!
# Reading back what is written in base64url

Three bytes are written as four digits, and one or two bytes at the end
as two or three. Reading takes each group apart again, and the padding
that is supplied ends a short group, so all bytes are read back:
`decode?_encode` is the main result. What is written has the digits of
the alphabet only.
-/

namespace NetSteward

namespace Base64url

/-! ## Digits -/

/-- The numbers that some bytes are written with. -/
def digits : Bytes → List Nat
  | [] => []
  | [a] => [a.toNat / 4, a.toNat % 4 * 16]
  | [a, b] => [a.toNat / 4, a.toNat % 4 * 16 + b.toNat / 16, b.toNat % 16 * 4]
  | a :: b :: c :: rest =>
    a.toNat / 4 :: (a.toNat % 4 * 16 + b.toNat / 16) :: (b.toNat % 16 * 4 + c.toNat / 64) ::
      c.toNat % 64 :: digits rest

theorem encode_eq (bytes : Bytes) : encode bytes = (digits bytes).map digitChar := by
  fun_induction encode bytes with
  | case1 => rfl
  | case2 => rfl
  | case3 => rfl
  | case4 a b c rest ih => rw [digits, ih]; rfl

theorem digits_lt (bytes : Bytes) : ∀ n ∈ digits bytes, n < 64 := by
  fun_induction digits bytes with
  | case1 => simp
  | case2 a => have := a.toNat_lt; simp; omega
  | case3 a b => have := a.toNat_lt; have := b.toNat_lt; simp; omega
  | case4 a b c rest ih =>
    have := a.toNat_lt; have := b.toNat_lt; have := c.toNat_lt
    simp only [List.mem_cons, forall_eq_or_imp]
    exact ⟨by omega, by omega, by omega, by omega, ih⟩

/-- What holds of all digits holds of all characters that are written. -/
theorem forall_mem_encode {P : Char → Prop} (all : ∀ n, n < 64 → P (digitChar n))
    (bytes : Bytes) : ∀ c ∈ encode bytes, P c := by
  intro c member
  rw [encode_eq] at member
  obtain ⟨n, digit, rfl⟩ := List.mem_map.1 member
  exact all n (digits_lt bytes n digit)

/-- The byte of a digit. -/
def digitByte (n : Nat) : UInt8 := (digitChar n).toNat.toUInt8

theorem encodeChar_digitChar : ∀ n, n < 64 → Utf8.encodeChar (digitChar n) = [digitByte n] := by
  decide

/-- Each digit has one byte. -/
theorem encode_map_digitChar {ns : List Nat} (h : ∀ n ∈ ns, n < 64) :
    Utf8.encode (ns.map digitChar) = ns.map digitByte := by
  induction ns with
  | nil => rfl
  | cons n ns ih =>
    have first := encodeChar_digitChar n (h n List.mem_cons_self)
    have others := ih fun m member => h m (List.mem_cons_of_mem n member)
    rw [List.map_cons, Utf8.encode, List.flatMap_cons, first, ← Utf8.encode, others]
    rfl

/-! ## Reading -/

/-- A digit is read as its number, and is no padding. -/
theorem digit?_digitByte : ∀ n, n < 64 → digitByte n ≠ 61 ∧ digit? (digitByte n) = some n := by
  decide

variable {n left pads : Nat} {rest : Bytes}

theorem decodeFrom_zero (h : n < 64) :
    decodeFrom 0 left pads (digitByte n :: rest) = decodeFrom 1 n 0 rest := by
  obtain ⟨unpadded, digit⟩ := digit?_digitByte n h
  simp only [decodeFrom, if_neg unpadded, digit]

theorem decodeFrom_one (h : n < 64) :
    decodeFrom 1 left pads (digitByte n :: rest) =
      (decodeFrom 2 (n % 16) 0 rest).map ((left * 4 + n / 16).toUInt8 :: ·) := by
  obtain ⟨unpadded, digit⟩ := digit?_digitByte n h
  simp only [decodeFrom, if_neg unpadded, digit]

theorem decodeFrom_two (h : n < 64) :
    decodeFrom 2 left pads (digitByte n :: rest) =
      (decodeFrom 3 (n % 4) 0 rest).map ((left * 16 + n / 4).toUInt8 :: ·) := by
  obtain ⟨unpadded, digit⟩ := digit?_digitByte n h
  simp only [decodeFrom, if_neg unpadded, digit]

theorem decodeFrom_three (h : n < 64) :
    decodeFrom 3 left pads (digitByte n :: rest) =
      (decodeFrom 0 0 0 rest).map ((left * 64 + n).toUInt8 :: ·) := by
  obtain ⟨unpadded, digit⟩ := digit?_digitByte n h
  simp only [decodeFrom, if_neg unpadded, digit]

/-- A number that is the value of a byte makes the byte. -/
theorem toUInt8_eq {n : Nat} {b : UInt8} (h : n = b.toNat) : n.toUInt8 = b := by
  rw [h, Nat.toUInt8_eq, UInt8.ofNat_toNat]

/-- The padding that a number of digits is given. -/
def padding (count : Nat) : Bytes := List.replicate ((4 - count % 4) % 4) 61

/-- Digits with their padding are read back as the bytes, by induction on
the groups. -/
theorem decodeFrom_digits (bytes : Bytes) :
    decodeFrom 0 0 0 ((digits bytes).map digitByte ++ padding (digits bytes).length) =
      some bytes := by
  fun_induction digits bytes with
  | case1 => rfl
  | case2 a =>
    have := a.toNat_lt
    simp only [List.map_cons, List.map_nil, List.cons_append, List.nil_append]
    rw [decodeFrom_zero (by omega), decodeFrom_one (by omega), toUInt8_eq (b := a) (by omega)]
    simp [padding, decodeFrom]
  | case3 a b =>
    have := a.toNat_lt; have := b.toNat_lt
    simp only [List.map_cons, List.map_nil, List.cons_append, List.nil_append]
    rw [decodeFrom_zero (by omega), decodeFrom_one (by omega), decodeFrom_two (by omega),
      toUInt8_eq (b := a) (by omega), toUInt8_eq (b := b) (by omega)]
    simp [padding, decodeFrom]
  | case4 a b c rest ih =>
    have := a.toNat_lt; have := b.toNat_lt; have := c.toNat_lt
    have short : padding ((digits rest).length + 1 + 1 + 1 + 1) = padding (digits rest).length := by
      rw [padding, padding, Nat.add_assoc, Nat.add_assoc, Nat.add_assoc, Nat.add_mod_right]
    simp only [List.map_cons, List.cons_append, List.length_cons, short]
    rw [decodeFrom_zero (by omega), decodeFrom_one (by omega), decodeFrom_two (by omega),
      decodeFrom_three (by omega), toUInt8_eq (b := a) (by omega),
      toUInt8_eq (b := b) (by omega), toUInt8_eq (b := c) (by omega), ih]
    rfl

/-- **Bytes are read back from what is written of them.** -/
theorem decode?_encode (bytes : Bytes) : decode? (Utf8.encode (encode bytes)) = some bytes := by
  rw [decode?, encode_eq, encode_map_digitChar (digits_lt bytes), List.length_map]
  exact decodeFrom_digits bytes

end Base64url

end NetSteward
