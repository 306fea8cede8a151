import Phrasebook.Calendar.Basic
import Phrasebook.Conventions.Culture

/-!
# Zones

A zone is universal time or lies at a fixed distance from it. Universal time has a name; any other zone
is named by its distance. The distance is told in whole hours and the minutes beyond them, the hours
rounded down.
-/

namespace Phrasebook

/-- A zone by its distance from universal time in microseconds. -/
structure Zone where
  offset : Int
deriving DecidableEq

namespace Zone

/-- The ways to tell a distance. -/
inductive OffsetStyle where
  /-- Hours, and minutes only where there are some. -/
  | shortest
  /-- Hours and minutes. -/
  | basic
  /-- Hours and minutes with a colon between them. -/
  | extended
  /-- As the culture tells it. -/
  | localized
deriving DecidableEq

/-- Universal time. -/
def isUniversal (z : Zone) : Bool := z.offset = 0

/-- The identifier of a zone. -/
def identifier (z : Zone) : Text := if z.isUniversal then "Etc/UTC" else "UTC" ++ Calendar.offsetText z.offset

/-- The place that a zone is named after. -/
def city (z : Zone) : Text := if z.isUniversal then "UTC" else z.identifier

/-- Hours with their sign. -/
def hoursText (hours : Int) : Text := (if hours < 0 then "-" else "+") ++ Calendar.field 2 hours.natAbs

/-- The distance from universal time. With `letter` there is a letter for no distance at all. -/
def offsetText (c : Culture) (style : OffsetStyle) (letter : Bool) (z : Zone) : Text :=
  let seconds := Int.fdiv z.offset 1000000
  let hours := Int.fdiv seconds 3600
  let rest := (Int.fmod seconds 3600).toNat
  let minutes := Calendar.field 2 (rest / 60)
  if letter ∧ hours = 0 ∧ rest = 0 then "Z"
  else
    match style with
    | .shortest => if rest = 0 then hoursText hours else hoursText hours ++ minutes
    | .basic => hoursText hours ++ minutes
    | .extended => hoursText hours ++ ":" ++ minutes
    | .localized =>
      Text.replace c.conventions.zones.offset "\x7b0\x7d" (hoursText hours ++ ":" ++ minutes)

/-- The time of a place within a region, for a zone that lies in no known region. -/
def location (c : Culture) (z : Zone) : Text :=
  let zones := c.conventions.zones
  let inRegion := (Text.replace zones.placeInRegion "\x7b0\x7d" z.city).replace "\x7b1\x7d" zones.unknownRegion
  Text.replace zones.place "\x7b0\x7d" inRegion

/-- The name of a zone at some moment. -/
def name (c : Culture) (isLong : Bool) (z : Zone) : Text :=
  let zones := c.conventions.zones
  let universal := if isLong then zones.utcLong else zones.utcShort
  if z.isUniversal ∧ !universal.isEmpty then universal
  else z.offsetText c (if isLong then .localized else .basic) false

end Zone

end Phrasebook
