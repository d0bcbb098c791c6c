import NetSteward.Json.Access
/-!
# Instants and durations

An instant is a whole number of seconds since the start of 1970 in UTC,
and microseconds below a million. A duration is a number of
microseconds. Only instants from the year 1 to the year 9999 have a
date; days are counted in the proleptic Gregorian calendar.
-/

namespace NetSteward

namespace Time

/-- An instant. -/
structure Instant where
  seconds : Int
  micros : Nat

/-- A duration, in microseconds. -/
abbrev Duration : Type := Int

namespace Instant

/-- The first second that has a date. -/
def firstSecond : Int := -62135596800

/-- The last second that has a date. -/
def lastSecond : Int := 253402300799

/-- Whether an instant has a date. -/
def hasDate (t : Instant) : Bool := firstSecond ≤ t.seconds && t.seconds ≤ lastSecond

/-- The first second, counted with a word of 64 bits, whose year fits a
word of 32 bits. -/
def firstYearSecond : Int := -67768040609740800

/-- The last second whose year fits a word of 32 bits. -/
def lastYearSecond : Int := 67768036191676799

/-- The instant that a clock shows, if it can be read: the number of
seconds has to fit a word of 64 bits, their year one of 32 bits, and
there has to be a date. -/
def read (t : Instant) : Except Mismatch Instant :=
  if t.hasDate then .ok t
  else if firstYearSecond ≤ t.seconds ∧ t.seconds ≤ lastYearSecond then .error .malformed
  else if -(Nat.pow 2 63 : Int) ≤ t.seconds ∧ t.seconds < (Nat.pow 2 63 : Int) then
    .error .beyondClock
  else .error .outOfRange

/-- A clock with a date can be read. -/
theorem read_of_hasDate {t : Instant} (h : t.hasDate = true) : t.read = .ok t := by
  rw [read, if_pos h]

/-- The instant after a duration. -/
def add (t : Instant) (d : Duration) : Instant :=
  let total := (t.micros : Int) + d
  ⟨t.seconds + total / 1000000, (total % 1000000).toNat⟩

/-- The instant after a number of seconds. -/
def wait (t : Instant) (seconds : Int) : Instant := { t with seconds := t.seconds + seconds }

end Instant

/-! ## Calendar dates -/

/-- A date. -/
structure Date where
  year : Int
  month : Nat
  day : Nat

/-- The date of a day, counted from the start of 1970. The days are
grouped into eras of 400 years that start in March, so that a leap day
is the last day of its year. -/
def Date.ofDays (days : Int) : Date :=
  let shifted := days + 719468
  let era := shifted / 146097
  let dayOfEra := (shifted % 146097).toNat
  let yearOfEra :=
    (dayOfEra - dayOfEra / 1460 + dayOfEra / 36524 - dayOfEra / 146096) / 365
  let dayOfYear := dayOfEra - (365 * yearOfEra + yearOfEra / 4 - yearOfEra / 100)
  let shiftedMonth := (5 * dayOfYear + 2) / 153
  let day := dayOfYear - (153 * shiftedMonth + 2) / 5 + 1
  let month := if shiftedMonth < 10 then shiftedMonth + 3 else shiftedMonth - 9
  let year := (yearOfEra : Int) + era * 400
  ⟨if month ≤ 2 then year + 1 else year, month, day⟩

/-- The decimal digits of a number, at least `width` of them. -/
def padded (width n : Nat) : String :=
  let digits := Nat.toDigits 10 n
  String.ofList (List.replicate (width - digits.length) '0' ++ digits)

/-- The text of an instant: date and time of day, the microseconds if
there are any, and the offset of UTC. -/
def Instant.isoText (t : Instant) : String :=
  let date := Date.ofDays (t.seconds / 86400)
  let second := (t.seconds % 86400).toNat
  padded 4 date.year.toNat ++ "-" ++ padded 2 date.month ++ "-" ++ padded 2 date.day ++ "T" ++
    padded 2 (second / 3600) ++ ":" ++ padded 2 (second / 60 % 60) ++ ":" ++
    padded 2 (second % 60) ++ (if t.micros = 0 then "" else "." ++ padded 6 t.micros) ++ "+00:00"

/-! ## Durations from numbers -/

/-- The microseconds of a second. -/
def second : Nat := 1000000

/-- The microseconds of a minute. -/
def minute : Nat := 60 * second

/-- The nearest integer to a quotient; a tie goes to the even one. -/
def nearest (negative : Bool) (num den : Nat) : Int :=
  let n := Binary64.roundHalfEven num den
  if negative then -(n : Int) else n

/-- The duration of a whole number of units, each of some
microseconds. -/
def ofWhole (unit : Nat) (n : Int) : Duration := n * unit

/-- The duration of a number of units with a fraction. The fraction is
turned into microseconds as a binary64 number and then rounded. -/
def ofFractional? (unit : Nat) (x : Binary64) : Option Duration :=
  match x with
  | .finite negative m e =>
    let (n, d) := Binary64.ratio m e
    let whole : Int := (n / d : Nat)
    let sign : Int := if negative then -1 else 1
    match Binary64.ofRatio negative (n % d * unit) d with
    | .finite _ m e =>
      let (n, d) := Binary64.ratio m e
      some (sign * whole * unit + nearest negative n d)
    | _ => none
  | _ => none

/-- The duration of a number of units, if a value is one. -/
def ofNumber (unit : Nat) : Json → Except Mismatch Duration
  | .int n => .ok (ofWhole unit n)
  | .bool b => .ok (ofWhole unit (if b then 1 else 0))
  | .float .nan => .error .malformed
  | .float x => match ofFractional? unit x with
    | some d => .ok d
    | none => .error .outOfRange
  | _ => .error .notNumeric

end Time

end NetSteward
