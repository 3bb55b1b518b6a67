/-!
# Readings of the clock

Times are milliseconds since the beginning of the year 1970, as words. The clock shows calendar times, and
the calendar does not go as far as the words do: a clock that stands outside of it cannot be read, and what
reads it is broken off.
-/

namespace IdentityServer.Clock

/-- The beginning of the year -262143, in which the calendar begins. -/
def earliest : Int64 := -8334601228800000

/-- The last millisecond of the year 262142, with which the calendar ends. -/
def latest : Int64 := 8210266876799999

/-- Whether a time can be read from the clock. -/
def isReading (now : Int64) : Bool :=
  earliest ≤ now && now ≤ latest

theorem lt_maxValue {now : Int64} (h : isReading now = true) : now < Int64.maxValue :=
  Int64.lt_of_le_of_lt (of_decide_eq_true (Bool.and_eq_true_iff.mp h).2) (by decide)

end IdentityServer.Clock
