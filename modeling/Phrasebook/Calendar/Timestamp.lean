import Phrasebook.Calendar.Basic
import Phrasebook.Number.Double

/-!
# Timestamps

A timestamp counts the seconds since the start of 1970 in universal time, fractions included. The
fraction is scaled and rounded to microseconds as a double-precision number, a half going to the even
one.
-/

namespace Phrasebook

namespace Double

/-- The whole part and the fraction of a finite number, both with its sign. -/
def split (negative : Bool) (mantissa : Nat) (exponent : Int) : Nat × Double :=
  let (p, q) := ratio mantissa exponent
  (p / q, ofRatio negative (p % q) q)

end Double

namespace Moment

/-- The day number of the first day of 1970. -/
def epochDay : Int := 719163

/-- The moment a whole number of seconds and some microseconds after the epoch. Years past what the
system's clock counts are its own refusal. -/
def ofSeconds (seconds : Int) (microsecond : Nat) : Except Obstacle Moment :=
  if seconds > 67768036191676799 ∨ seconds < -67768040609740800 then .error .system
  else
    let number := epochDay + Int.fdiv seconds 86400
    if number < 1 ∨ number > Date.daysBeforeYear 10000 then .error .value
    else
      let s := (Int.fmod seconds 86400).toNat
      .ok ⟨Date.ofDayNumber number.toNat, ⟨s / 3600, s / 60 % 60, s % 60, microsecond, some 0⟩⟩

/-- The moment of a timestamp. -/
def ofTimestamp : Double → Except Obstacle Moment
  | .nan => .error .value
  | .infinite _ => .error .overflow
  | .finite negative mantissa exponent =>
    let (whole, fraction) := Double.split negative mantissa exponent
    let million := Double.ofRatio false 1000000 1
    match ((fraction.times million).roundTo 0).truncate with
    | .error o => .error o
    | .ok micro =>
      let seconds := Decimal.signed negative whole
      let (seconds, micro) :=
        if micro ≥ 1000000 then (seconds + 1, micro - 1000000)
        else if micro < 0 then (seconds - 1, micro + 1000000)
        else (seconds, micro)
      if seconds < -9223372036854775808 ∨ 9223372036854775807 < seconds then .error .overflow
      else ofSeconds seconds micro.toNat

end Moment

end Phrasebook
