/-!
Points in time, and their text in the Gregorian calendar, which is extended to all years and told in
universal time.
-/

namespace FilterWatch

def nanosPerSecond : Nat := 1000000000

/-- The seconds since the beginning of 1970, and the rest of a second. -/
structure Time where
  seconds : Int
  nanos : Nat
  nanos_lt : nanos < nanosPerSecond
  deriving DecidableEq, Repr

namespace Time

def epoch : Time := ⟨0, 0, by decide⟩

/-- The point so many seconds and nanoseconds after the epoch; whole seconds among the nanoseconds
are carried over. -/
def ofParts (seconds : Int) (nanos : Nat) : Time :=
  ⟨seconds + (nanos / nanosPerSecond : Nat), nanos % nanosPerSecond, Nat.mod_lt _ (by decide)⟩

end Time

structure Date where
  year : Int
  month : Nat
  day : Nat
  deriving DecidableEq, Repr

namespace Date

/-- The date so many days after the first of January 1970. The days are counted within cycles of 400
years, each from the first of March of a year that is a multiple of 400, so that a leap day is the
last day of its year. -/
def ofDays (days : Int) : Date :=
  let shifted := days + 719468
  let cycle := shifted / 146097
  let ofCycle := (shifted % 146097).toNat
  let yearOfCycle := (ofCycle - ofCycle / 1460 + ofCycle / 36524 - ofCycle / 146096) / 365
  let ofYear := ofCycle - (365 * yearOfCycle + yearOfCycle / 4 - yearOfCycle / 100)
  let fromMarch := (5 * ofYear + 2) / 153
  let month := if fromMarch < 10 then fromMarch + 3 else fromMarch - 9
  { year := cycle * 400 + yearOfCycle + (if month ≤ 2 then 1 else 0)
    month
    day := ofYear - (153 * fromMarch + 2) / 5 + 1 }

end Date

namespace Time

/-- A number in at least `width` digits. -/
def padded (width n : Nat) : String :=
  let digits := toString n
  "".pushn '0' (width - digits.length) ++ digits

/-- A year from 0 to 9999 has four digits, any other a sign and at least four. -/
def yearText (year : Int) : String :=
  if year < 0 then "-" ++ padded 4 year.natAbs
  else if year ≤ 9999 then padded 4 year.toNat
  else "+" ++ padded 4 year.toNat

/-- The point in time, rounded down to the second. Only the years from -262143 to 262142 have
texts. -/
def text? (time : Time) : Option String :=
  let date := Date.ofDays (time.seconds / 86400)
  let ofDay := (time.seconds % 86400).toNat
  if -262143 ≤ date.year ∧ date.year ≤ 262142 then
    let clock := ":".intercalate
      ([ofDay / 3600, ofDay / 60 % 60, ofDay % 60].map (padded 2))
    some s!"{yearText date.year}-{padded 2 date.month}-{padded 2 date.day}T{clock}Z"
  else none

end Time

end FilterWatch
