import NetSteward.Text.Utf16
import NetSteward.Text.Utf8
/-!
# Code points of a text

A text can hold half of a character pair, which is no character. Such a
half is held as two characters: a mark, which is the last character of
all, and one that stands for the half. Where a text has the mark itself,
the mark is doubled, so every sequence of code points is held in just one
way. `codePoints` tells what a text holds, and `ofCodePoints` is the text
that holds it.
-/

namespace NetSteward

namespace Text

/-- The mark before a character that stands for half of a pair. -/
def halfMark : Char := Char.ofNat 0x10FFFF

/-- The first of the characters that stand for halves. -/
def firstHalf : Nat := 0x10F000

/-- The characters that hold a code point. -/
def holding (n : Nat) : List Char :=
  if Utf16.isHalf n then [halfMark, Char.ofNat (firstHalf + (n - 0xD800))]
  else if n = 0x10FFFF then [halfMark, halfMark]
  else [Char.ofNat n]

/-- The text that holds some code points. -/
def ofCodePoints (ns : List Nat) : List Char := ns.flatMap holding

/-- The text that holds some characters. -/
def ofCharacters (cs : List Char) : List Char := ofCodePoints (cs.map Char.toNat)

/-- The code point that a mark and the character after it hold. -/
def marked (c : Char) : Nat := if c = halfMark then 0x10FFFF else 0xD800 + (c.toNat - firstHalf)

/-- The code points that a text holds. -/
def codePoints : List Char → List Nat
  | [] => []
  | [c] => [c.toNat]
  | c :: d :: rest =>
    if c = halfMark then marked d :: codePoints rest else c.toNat :: codePoints (d :: rest)

/-- The number of code points that a text holds. -/
def size (cs : List Char) : Nat := (codePoints cs).length

/-- Whether a text holds characters only. -/
def isSound (cs : List Char) : Bool := (codePoints cs).all fun n => !Utf16.isHalf n

/-- The characters that a text holds, if it holds nothing else. -/
def characters? (cs : List Char) : Option (List Char) :=
  if isSound cs then some ((codePoints cs).map Char.ofNat) else none

/-- The bytes of a text in UTF-8, if it holds characters only. -/
def bytes? (cs : List Char) : Option Bytes := (characters? cs).map Utf8.encode

/-- A text with three characters of replacement for each half. -/
def withoutHalves (cs : List Char) : List Char :=
  (codePoints cs).flatMap fun n =>
    if Utf16.isHalf n then List.replicate 3 Utf8.replacement else holding n

@[simp] theorem codePoints_nil : codePoints [] = [] := rfl

/-- The character of a code point has it. -/
theorem toNat_ofNat {n : Nat} (h : n.isValidChar) : (Char.ofNat n).toNat = n := by
  rw [Char.ofNat, dif_pos h]
  exact UInt32.toNat_ofNatLT

/-- Each code point is told from what follows it. -/
theorem codePoints_holding_append {n : Nat} (h : n < 0x110000) (cs : List Char) :
    codePoints (holding n ++ cs) = n :: codePoints cs := by
  unfold holding
  split
  · rename_i half
    simp only [Utf16.isHalf, Bool.and_eq_true, decide_eq_true_eq] at half
    have stand := toNat_ofNat (n := firstHalf + (n - 0xD800)) (Or.inr (by simp only [firstHalf]; omega))
    have other : Char.ofNat (firstHalf + (n - 0xD800)) ≠ halfMark := fun eq => by
      have := congrArg Char.toNat eq
      rw [stand, halfMark, toNat_ofNat (by decide), firstHalf] at this
      omega
    simp only [List.cons_append, List.nil_append, codePoints, if_true, marked, if_neg other, stand,
      Nat.add_sub_cancel_left, Nat.add_sub_cancel' half.1]
  · rename_i whole
    simp only [Utf16.isHalf, Bool.and_eq_true, decide_eq_true_eq] at whole
    split
    · rename_i last
      simp only [List.cons_append, List.nil_append, codePoints, if_true, marked, last]
    · rename_i inner
      have same := toNat_ofNat (n := n) (by rw [Nat.isValidChar]; omega)
      have other : Char.ofNat n ≠ halfMark := fun eq => by
        have := congrArg Char.toNat eq
        rw [same, halfMark, toNat_ofNat (by decide)] at this
        exact inner this
      cases cs with
      | nil => simp only [List.append_nil, codePoints, same]
      | cons c rest =>
        simp only [List.cons_append, List.nil_append, codePoints, if_neg other, same]

/-- **A text holds the code points that it was made of.** -/
theorem codePoints_ofCodePoints {ns : List Nat} (h : ∀ n ∈ ns, n < 0x110000) :
    codePoints (ofCodePoints ns) = ns := by
  induction ns with
  | nil => rfl
  | cons n ns ih =>
    rw [ofCodePoints, List.flatMap_cons, codePoints_holding_append (h n (by simp)),
      ← ofCodePoints, ih fun m hm => h m (by simp [hm])]

end Text

end NetSteward
