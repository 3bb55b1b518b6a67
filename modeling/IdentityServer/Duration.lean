import IdentityServer.Text.Blank
import IdentityServer.Text.Integer

/-!
# Durations

Durations in settings: milliseconds, or a count with a unit. A blank text sets none. The value always fits
a signed word; nothing wraps around.
-/

namespace IdentityServer.Duration
open Text

/-- The milliseconds of a unit. -/
def unit? : Char → Option Int
  | 's' => some 1000
  | 'm' => some (60 * 1000)
  | 'h' => some (60 * 60 * 1000)
  | 'd' => some (24 * 60 * 60 * 1000)
  | 'w' => some (7 * 24 * 60 * 60 * 1000)
  | 'y' => some (365 * 24 * 60 * 60 * 1000)
  | _ => none

/-- The milliseconds of a count with a unit behind it. -/
def withUnit? (s : List Char) : Option Int64 := do
  let size ← unit? (← s.getLast?)
  let count ← readInt64 s.dropLast
  toInt64? (count.toInt * size)

/-- A text that is no duration. -/
structure Fault where
  text : String
  deriving DecidableEq, Repr

/-- The wording of the refusal. -/
def Fault.message (fault : Fault) : String :=
  "Invalid duration '" ++ fault.text ++ "': expected milliseconds or <n>[s|m|h|d|w|y]"

/-- The duration that a text denotes, in milliseconds. -/
def parse (text : String) : Except Fault (Option Int64) :=
  let s := trim text.toList
  if s.isEmpty then .ok none
  else
    match readInt64 s with
    | some ms => .ok (some ms)
    | none =>
      match withUnit? s with
      | some ms => .ok (some ms)
      | none => .error ⟨String.ofList s⟩

end IdentityServer.Duration
