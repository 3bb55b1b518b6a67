import IdentityServer.Text.Split

/-!
# Names with letters beyond ASCII

A label of a host name that has other letters is written in ASCII: its ASCII characters first, then where
and which the others are, as a sequence of gaps in digits of a varying base.
-/

namespace IdentityServer.Punycode

/-- The character of a digit below 36: letters first. -/
def digitChar (n : Nat) : Char :=
  if n < 26 then Char.ofNat (n + 97) else Char.ofNat (n + 22)

/-- The first `k` at which a gap has fallen to the range of the next digits, and the gap there. -/
def shrink : Nat → Nat → Nat → Nat × Nat
  | 0, gap, k => (gap, k)
  | fuel + 1, gap, k => if 455 < gap then shrink fuel (gap / 35) (k + 36) else (gap, k)

/-- The bias after a gap that was written behind `count` characters. -/
def adapt (gap count : Nat) (isFirst : Bool) : Nat :=
  let gap := if isFirst then gap / 700 else gap / 2
  let (gap, k) := shrink gap (gap + gap / count) 0
  k + 36 * gap / (gap + 38)

/-- The digits of a gap under a bias, from the place `k` on. -/
def gapDigits (bias : Nat) : Nat → Nat → Nat → List Char
  | 0, _, _ => []
  | fuel + 1, gap, k =>
    let threshold := if k ≤ bias then 1 else if bias + 26 ≤ k then 26 else k - bias
    if gap < threshold then [digitChar gap]
    else
      digitChar (threshold + (gap - threshold) % (36 - threshold)) ::
        gapDigits bias fuel ((gap - threshold) / (36 - threshold)) (k + 36)

/-- What has been written: the digits, the gap since the last one, the bias, and the number of characters. -/
structure Progress where
  written : List Char
  gap : Nat
  bias : Nat
  count : Nat

/-- Passes one character of the label while the code point `n` is being written. -/
def Progress.pass (n basic : Nat) (p : Progress) (c : Char) : Progress :=
  if c.toNat < n then { p with gap := p.gap + 1 }
  else if c.toNat = n then
    { written := p.written ++ gapDigits p.bias (p.gap + 1) p.gap 36
      gap := 0
      bias := adapt p.gap (p.count + 1) (p.count = basic)
      count := p.count + 1 }
  else p

/-- Writes the code points above `n` in ascending order; `points` holds those to come. -/
def writePoints (label : List Char) (basic : Nat) : List Nat → Nat → Progress → List Char
  | [], _, p => p.written
  | m :: rest, n, p =>
    let p := { p with gap := p.gap + (m - n) * (p.count + 1) }
    let p := label.foldl (Progress.pass m basic) p
    writePoints label basic rest (m + 1) { p with gap := p.gap + 1 }

/-- The characters of a label in ASCII: its ASCII characters, a hyphen behind them if there are any, and the
    digits. -/
def encode (label : List Char) : List Char :=
  let basic := label.filter fun c => c.toNat < 128
  let points := ((label.map (·.toNat)).filter (128 ≤ ·)).mergeSort.eraseDups
  let start := if basic.isEmpty then [] else basic ++ ['-']
  writePoints label basic.length points 128 ⟨start, 0, 72, basic.length⟩

/-! ### Decoding -/

/-- The value of a digit below 36. -/
def digit? (c : Char) : Option Nat :=
  if 'a' ≤ c && c ≤ 'z' then some (c.toNat - 97)
  else if 'A' ≤ c && c ≤ 'Z' then some (c.toNat - 65)
  else if '0' ≤ c && c ≤ '9' then some (c.toNat - 22)
  else none

/-- The gap whose digits start a text under a bias, from the place `k` on, and what follows them. What was
    read of it is in `gap`, and the next digit counts `factor` times. -/
def readGap (bias : Nat) : List Char → Nat → Nat → Nat → Option (Nat × List Char)
  | [], _, _, _ => none
  | c :: rest, gap, factor, k =>
    (digit? c).bind fun digit =>
      let threshold := if k ≤ bias then 1 else if bias + 26 ≤ k then 26 else k - bias
      let gap := gap + digit * factor
      if digit < threshold then some (gap, rest)
      else readGap bias rest gap (factor * (36 - threshold)) (k + 36)

/-- The character with a number, if there is one. -/
def scalar? (n : Nat) : Option Char :=
  if n < 0xD800 || (0xE000 ≤ n && n < 0x110000) then some (Char.ofNat n) else none

/-- Puts the characters of digits into a label. The last one was the code point `n` at the place before
    `place`. Every gap has a digit, so the number of digits bounds the number of gaps. -/
def insertPoints : Nat → List Char → Nat → Nat → Nat → Bool → List Char → Option (List Char)
  | _, label, _, _, _, _, [] => some label
  | 0, _, _, _, _, _, _ => none
  | fuel + 1, label, n, place, bias, isFirst, digits => do
    let (gap, rest) ← readGap bias digits 0 1 36
    let count := label.length + 1
    let n := n + (place + gap) / count
    let place := (place + gap) % count
    let c ← scalar? n
    insertPoints fuel (label.take place ++ c :: label.drop place) n (place + 1) (adapt gap count isFirst) false
      rest

/-- The label that is written so in ASCII. -/
def decode? (code : List Char) : Option (List Char) :=
  let (basic, digits) := match Text.cutLast '-' code with
    | some (c :: basic, digits) => (c :: basic, digits)
    | _ => ([], code)
  insertPoints digits.length basic 128 0 72 true digits

end IdentityServer.Punycode
