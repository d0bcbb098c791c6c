import NetSteward.Number.Binary64
/-!
# Shortest decimals

The decimal text of a binary64 number has the fewest digits that read
back as the same number, and of those the digits nearest to it. The
search is in exact arithmetic: going from a coarse decimal grid to finer
ones, the first grid with a point that rounds to the number wins.

The layout is fixed: positional from `0.0001` up to sixteen digits
before the point, always with a digit after the point, and otherwise
with an exponent of two digits or more.
-/

namespace NetSteward

namespace Binary64

/-- A positive decimal, `digits * 10 ^ power`. -/
structure Decimal where
  digits : Nat
  power : Int

/-- The number of decimal digits of a natural number. -/
def digitCount (n : Nat) : Nat := (Nat.toDigits 10 n).length

/-- The exponent of the greatest power of ten that is at most the
quotient of two positive numbers. -/
def floorLog10Ratio (num den : Nat) : Int :=
  if den ≤ num then (digitCount (num / den) : Int) - 1
  else
    let t := digitCount (den / num)
    if num * Nat.pow 10 (t - 1) = den then -((t - 1 : Nat) : Int) else -(t : Int)

/-- A quotient divided by `10 ^ power`, as a pair of natural numbers. -/
def unscale10 (num den : Nat) (power : Int) : Nat × Nat :=
  if 0 ≤ power then (num, den * Nat.pow 10 power.toNat)
  else (num * Nat.pow 10 (-power).toNat, den)

/-- The distance of two natural numbers. -/
def distance (a b : Nat) : Nat := max a b - min a b

/-- The interval of the reals that round to a number, in quarter units
of its last place: the number itself lies at `4 * significand`. -/
structure Interval where
  low : Nat
  middle : Nat
  high : Nat
  closed : Bool

/-- The interval of `significand * 2 ^ exponent`. Below a power of two
the numbers lie twice as dense. -/
def interval (significand : Nat) (exponent : Int) : Interval where
  low := if significand = Nat.pow 2 52 ∧ minExponent < exponent then 4 * significand - 1
    else 4 * significand - 2
  middle := 4 * significand
  high := 4 * significand + 2
  closed := significand % 2 = 0

/-- Whether the quotient `num / den` lies in the interval. -/
def Interval.contains (i : Interval) (num den : Nat) : Bool :=
  if i.closed then i.low * den ≤ num ∧ num ≤ i.high * den
  else i.low * den < num ∧ num < i.high * den

/-- The point `c` of the grid `10 ^ power`, in quarter units of the last
place at `exponent`, as a quotient. -/
def gridPoint (c : Nat) (power : Int) (exponent : Int) : Nat × Nat :=
  let (n, d) := unscale10 c 1 (-power)
  scaleRatio n d (2 - exponent)

/-- The point of a grid that stands for the number: of the two points
around it the one that rounds to it, and if both do the nearer; a tie
goes to the even one. -/
def nearestOn? (i : Interval) (exponent power : Int) : Option Nat :=
  let (n, d) := scaleRatio i.middle 1 (exponent - 2)
  let (n, d) := unscale10 n d power
  let c := n / d
  let hit (c : Nat) : Bool :=
    let (n, d) := gridPoint c power exponent
    c ≠ 0 && i.contains n d
  match hit c, hit (c + 1) with
  | true, false => some c
  | false, true => some (c + 1)
  | false, false => none
  | true, true =>
    if 2 * (n % d) < d then some c
    else if d < 2 * (n % d) then some (c + 1)
    else if c % 2 = 0 then some c else some (c + 1)

/-- The first grid, from `power` downwards, with a point that stands for
the number. -/
def searchGrids (i : Interval) (exponent : Int) : Nat → Int → Decimal
  | 0, power => ⟨0, power⟩
  | fuel + 1, power =>
    match nearestOn? i exponent power with
    | some c => ⟨c, power⟩
    | none => searchGrids i exponent fuel (power - 1)

/-- The shortest decimal of a positive number. A grid of seventeen digits
always has a point, so the search ends within nineteen grids. -/
def shortest (significand : Nat) (exponent : Int) : Decimal :=
  let (n, d) := ratio significand exponent
  searchGrids (interval significand exponent) exponent 19 (floorLog10Ratio n d + 1)

/-- The digits of an exponent: a sign and at least two digits. -/
def exponentText (e : Int) : List Char :=
  let digits := Nat.toDigits 10 e.natAbs
  (if e < 0 then '-' else '+') :: (if digits.length < 2 then '0' :: digits else digits)

/-- How a decimal is laid out: `point` is the number of its digits that
stand before the decimal point. -/
def Decimal.layout (x : Decimal) : List Char :=
  let digits := Nat.toDigits 10 x.digits
  let point : Int := digits.length + x.power
  if -4 < point ∧ point ≤ 16 then
    if point ≤ 0 then '0' :: '.' :: (List.replicate (-point).toNat '0' ++ digits)
    else if x.power ≥ 0 then digits ++ List.replicate x.power.toNat '0' ++ ['.', '0']
    else digits.take point.toNat ++ '.' :: digits.drop point.toNat
  else
    let fraction := match digits.drop 1 with
      | [] => []
      | rest => '.' :: rest
    digits.take 1 ++ fraction ++ 'e' :: exponentText (point - 1)

/-- The texts of the numbers that are not finite. -/
structure SpecialTexts where
  infinity : String
  nan : String

/-- **The decimal text of a number.** -/
def text (special : SpecialTexts) : Binary64 → String
  | .nan => special.nan
  | .infinite negative => if negative then "-" ++ special.infinity else special.infinity
  | .finite negative m e =>
    let body := if m = 0 then ['0', '.', '0'] else (shortest m e).layout
    String.ofList (if negative then '-' :: body else body)

end Binary64

end NetSteward
