/-!
# Backoff

How long to wait before a failed push is tried again: a step that doubles with every attempt up to a
maximum, jittered down into its upper half in whole milliseconds. A step below two milliseconds is taken
as it is. Spans are words of seconds and nanoseconds; a product that does not fit is the greatest span.
-/

namespace IdentityServer

/-- The nanoseconds of a second. -/
def nanosPerSecond : Nat := 1000000000

/-- A span of time. -/
structure Span where
  seconds : UInt64
  nanos : UInt32
  nanos_lt : nanos.toNat < nanosPerSecond
  deriving DecidableEq

namespace Span

/-- The greatest span. -/
def greatest : Span := ⟨UInt64.ofNat (UInt64.size - 1), 999999999, by decide⟩

/-- The nanoseconds of a span. -/
def toNanos (s : Span) : Nat :=
  s.seconds.toNat * nanosPerSecond + s.nanos.toNat

/-- The span of a number of nanoseconds, or the greatest one if it is longer than that. -/
def ofNanos (n : Nat) : Span :=
  if n / nanosPerSecond < UInt64.size then
    ⟨.ofNat (n / nanosPerSecond), .ofNat (n % nanosPerSecond), by
      have h : n % nanosPerSecond < nanosPerSecond := Nat.mod_lt _ (by decide)
      rw [UInt32.toNat_ofNat_of_lt' (Nat.lt_trans h (by decide))]
      exact h⟩
  else greatest

/-- The span of a number of milliseconds. -/
def ofMillis (ms : Nat) : Span :=
  ofNanos (ms * 1000000)

/-- The whole milliseconds of a span. -/
def toMillis (s : Span) : Nat :=
  s.seconds.toNat * 1000 + s.nanos.toNat / 1000000

/-- Whether one span is at most as long as another. -/
def atMost (a b : Span) : Bool :=
  a.seconds < b.seconds || (a.seconds == b.seconds && a.nanos ≤ b.nanos)

/-- The shorter of two spans. -/
def shorter (a b : Span) : Span :=
  if a.atMost b then a else b

/-- A multiple of a span: nanoseconds carry into the seconds, and what does not fit is the greatest span. -/
def times (s : Span) (factor : UInt32) : Span :=
  let nanos := s.nanos.toNat * factor.toNat
  let seconds := s.seconds.toNat * factor.toNat
  let carry := nanos / nanosPerSecond
  if seconds < UInt64.size ∧ seconds + carry < UInt64.size then
    ⟨.ofNat (seconds + carry), .ofNat (nanos % nanosPerSecond), by
      have h : nanos % nanosPerSecond < nanosPerSecond := Nat.mod_lt _ (by decide)
      rw [UInt32.toNat_ofNat_of_lt' (Nat.lt_trans h (by decide))]
      exact h⟩
  else greatest

end Span

/-- The first step and the longest one. -/
structure Backoff where
  base : Span
  longest : Span
  deriving DecidableEq

/-- The delays that a step allows. -/
inductive DelayRange where
  /-- The step as it is. -/
  | exactly (step : Span)
  /-- Every whole number of milliseconds from `least` to `most`. -/
  | millis (least most : Nat)

namespace Backoff

/-- How often the first step doubles before an attempt, the first attempt being number 1. -/
def doublings (attempt : UInt32) : UInt32 :=
  min (if attempt = 0 then 0 else attempt - 1) 31

/-- The step before an attempt. -/
def step (b : Backoff) (attempt : UInt32) : Span :=
  (b.base.times (1 <<< doublings attempt)).shorter b.longest

/-- The delays before an attempt: the upper half of the step in whole milliseconds, of which no more than a
    word holds are counted. -/
def delays (b : Backoff) (attempt : UInt32) : DelayRange :=
  let step := b.step attempt
  let ms := min step.toMillis (UInt64.size - 1)
  if ms < 2 then .exactly step else .millis (ms / 2) ms

end Backoff

namespace DelayRange

/-- All delays of a range, the shortest first. -/
def toList : DelayRange → List Span
  | .exactly step => [step]
  | .millis least most => (List.range' least (most + 1 - least)).map Span.ofMillis

end DelayRange

end IdentityServer
