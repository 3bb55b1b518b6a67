import IdentityServer.Text.Integer

/-!
# Moments

Dates, times of day, and both together with or without an offset, as TOML has them: years of four digits,
days that the month has, seconds up to a leap second, and fractions of a second of which nine digits count.
-/

namespace IdentityServer.Toml

/-- A day. -/
structure Date where
  year : Nat
  month : Nat
  day : Nat
  deriving DecidableEq, Repr

/-- A time of day. -/
structure Time where
  hour : Nat
  minute : Nat
  second : Nat
  nanosecond : Nat
  deriving DecidableEq, Repr

/-- How far a local time is ahead of universal time. -/
inductive Offset where
  | utc
  | minutes (ahead : Int)
  deriving DecidableEq, Repr

/-- A day, a time of day, or both. -/
structure Moment where
  date : Option Date
  time : Option Time
  offset : Option Offset
  deriving DecidableEq, Repr

/-! ### Reading -/

/-- A number of two digits that is at least `least` and at most `greatest`, and what follows it. -/
def readTwo (least greatest : Nat) : List Char → Option (Nat × List Char)
  | a :: b :: rest =>
    (Text.readNat [a, b]).bind fun n => if least ≤ n && n ≤ greatest then some (n, rest) else none
  | _ => none

/-- A character that has to follow. -/
def expect (c : Char) : List Char → Option (List Char)
  | x :: rest => if x = c then some rest else none
  | [] => none

/-- The number of days of a month. -/
def daysIn (year month : Nat) : Nat :=
  if month = 2 then
    if year % 4 = 0 ∧ (year % 100 ≠ 0 ∨ year % 400 = 0) then 29 else 28
  else if month = 4 ∨ month = 6 ∨ month = 9 ∨ month = 11 then 30
  else 31

/-- A day at the start of a text, and what follows it. -/
def Date.read : List Char → Option (Date × List Char)
  | a :: b :: c :: d :: rest => do
    let year ← Text.readNat [a, b, c, d]
    let (month, rest) ← readTwo 1 12 (← expect '-' rest)
    let (day, rest) ← readTwo 1 (daysIn year month) (← expect '-' rest)
    return (⟨year, month, day⟩, rest)
  | _ => none

/-- The nanoseconds of the digits after the point. -/
def nanoseconds (digits : List Char) : Option Nat :=
  let counted := digits.take 9
  (Text.readNat counted).map (· * Nat.pow 10 (9 - counted.length))

/-- A time of day at the start of a text, its hour at most `latest`, and what follows it. -/
def Time.readUpTo (latest : Nat) (s : List Char) : Option (Time × List Char) := do
  let (hour, s) ← readTwo 0 latest s
  let (minute, s) ← readTwo 0 59 (← expect ':' s)
  let (second, s) ← readTwo 0 60 (← expect ':' s)
  match s with
  | '.' :: rest =>
    let (digits, rest) := rest.span Char.isDigit
    return (⟨hour, minute, second, ← nanoseconds digits⟩, rest)
  | _ => return (⟨hour, minute, second, 0⟩, s)

/-- A time of day at the start of a text, and what follows it. -/
def Time.read (s : List Char) : Option (Time × List Char) :=
  Time.readUpTo 23 s

/-- The hours and minutes of an offset. -/
def readMinutes (s : List Char) : Option (Nat × List Char) := do
  let (hours, s) ← readTwo 0 23 s
  let (minutes, s) ← readTwo 0 59 (← expect ':' s)
  return (hours * 60 + minutes, s)

/-- An offset at the start of a text, if there is one, and what follows it. -/
def Offset.read : List Char → Option (Option Offset × List Char)
  | 'Z' :: rest | 'z' :: rest => some (some .utc, rest)
  | '+' :: rest => (readMinutes rest).map fun p => (some (.minutes p.1), p.2)
  | '-' :: rest => (readMinutes rest).map fun p => (some (.minutes (-(p.1 : Int))), p.2)
  | s => some (none, s)

namespace Moment

/-- Whether a text starts like a day: four digits and a hyphen. -/
def startsDate : List Char → Bool
  | a :: b :: c :: d :: '-' :: _ => [a, b, c, d].all Char.isDigit
  | _ => false

/-- Whether a text starts like a time of day: an hour and a colon. -/
def startsTime : List Char → Bool
  | a :: b :: ':' :: _ => (readTwo 0 23 [a, b]).isSome
  | _ => false

/-- Whether a text goes on with a time of day after a day. -/
def continues : List Char → Bool
  | c :: rest => (c = 'T' || c = 't' || c = ' ') && startsTime rest
  | [] => false

/-- A moment at the start of a text, and what follows it. -/
def read (s : List Char) : Option (Moment × List Char) := do
  if startsDate s then
    let (date, s) ← Date.read s
    if continues s then
      let (time, s) ← Time.read (s.drop 1)
      let (offset, s) ← Offset.read s
      return (⟨some date, some time, offset⟩, s)
    else return (⟨some date, none, none⟩, s)
  else
    let (time, s) ← Time.read s
    return (⟨none, some time, none⟩, s)

/-! ### Moments in other texts -/

/-- The offset that a text is, if it is not empty: at most a day in all. -/
def offsetOf? : List Char → Option (Option Offset)
  | [] => some none
  | ['Z'] | ['z'] => some (some .utc)
  | sign :: rest => do
    let (hours, rest) ← readTwo 0 99 rest
    let (minutes, rest) ← readTwo 0 99 (← expect ':' rest)
    let ahead := hours * 60 + minutes
    if !rest.isEmpty || 24 * 60 < ahead then none
    else if sign = '+' then return some (.minutes ahead)
    else if sign = '-' then return some (.minutes (-(ahead : Int)))
    else none

/-- The moment that a text is. Other than in a document, an hour can be the 24th, and an offset can follow
    a day alone. -/
def ofText? (s : List Char) : Option Moment := do
  if (s.drop 2).head? = some ':' then
    let (time, rest) ← Time.readUpTo 24 s
    if rest.isEmpty then return ⟨none, some time, none⟩ else none
  else
    let (date, s) ← Date.read s
    match s with
    | 'T' :: rest | 't' :: rest | ' ' :: rest =>
      let (time, rest) ← Time.readUpTo 24 rest
      return ⟨some date, some time, ← offsetOf? rest⟩
    | _ => return ⟨some date, none, ← offsetOf? s⟩

end Moment

/-! ### Writing -/

/-- A number with zeros before it up to a width. -/
def padded (width n : Nat) : List Char :=
  let digits := Text.showNat n
  List.replicate (width - digits.length) '0' ++ digits

/-- The text of a day. -/
def Date.text (d : Date) : List Char :=
  padded 4 d.year ++ '-' :: padded 2 d.month ++ '-' :: padded 2 d.day

/-- The digits of a fraction of a second without zeros at their end. -/
def fractionText (nanosecond : Nat) : List Char :=
  if nanosecond = 0 then []
  else '.' :: ((padded 9 nanosecond).reverse.dropWhile (· == '0')).reverse

/-- The text of a time of day. -/
def Time.text (t : Time) : List Char :=
  padded 2 t.hour ++ ':' :: padded 2 t.minute ++ ':' :: padded 2 t.second ++ fractionText t.nanosecond

/-- The text of an offset. -/
def Offset.text : Offset → List Char
  | .utc => ['Z']
  | .minutes ahead =>
    (if ahead < 0 then '-' else '+') :: padded 2 (ahead.natAbs / 60) ++ ':' :: padded 2 (ahead.natAbs % 60)

/-- The text of a moment. -/
def Moment.text (m : Moment) : List Char :=
  let date := (m.date.map Date.text).getD []
  let time := (m.time.map Time.text).getD []
  let offset := (m.offset.map Offset.text).getD []
  date ++ (if m.date.isSome && m.time.isSome then ['T'] else []) ++ time ++ offset

end IdentityServer.Toml
