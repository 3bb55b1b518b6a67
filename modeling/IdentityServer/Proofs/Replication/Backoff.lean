import Mathlib.Algebra.Group.Nat.Defs
import IdentityServer.Replication.Backoff

/-! # Bounds of backoff

The arithmetic of spans is that of their nanoseconds, held at the greatest span. So the step before an attempt is the
first one, doubled for every earlier attempt but at most 31 times, and held at the longest; and the delays are the whole
milliseconds in the upper half of it. -/

namespace IdentityServer

/-! ### Spans as numbers of nanoseconds -/

namespace Span
variable {a b s : Span}

theorem seconds_lt (s : Span) : s.seconds.toNat < 18446744073709551616 := s.seconds.toNat_lt

theorem nanos_lt_second (s : Span) : s.nanos.toNat < 1000000000 := s.nanos_lt

theorem toNanos_eq (s : Span) : s.toNanos = s.seconds.toNat * 1000000000 + s.nanos.toNat := rfl

theorem toNanos_greatest : greatest.toNanos = 18446744073709551615999999999 := by decide

theorem toNanos_le_greatest (s : Span) : s.toNanos ≤ greatest.toNanos := by
  have := s.seconds_lt
  have := s.nanos_lt_second
  rw [toNanos_greatest, toNanos_eq]
  omega

/-- A span is the only one of its length. -/
theorem toNanos_inj : a.toNanos = b.toNanos ↔ a = b := by
  constructor
  · intro same
    have := a.nanos_lt_second
    have := b.nanos_lt_second
    rw [toNanos_eq, toNanos_eq] at same
    have seconds : a.seconds = b.seconds := UInt64.toNat_inj.mp (by omega)
    have nanos : a.nanos = b.nanos := UInt32.toNat_inj.mp (by omega)
    cases a
    cases b
    cases seconds
    cases nanos
    rfl
  · rintro rfl
    rfl

theorem atMost_iff : a.atMost b = true ↔ a.toNanos ≤ b.toNanos := by
  have := a.nanos_lt_second
  have := b.nanos_lt_second
  simp only [atMost, Bool.or_eq_true, Bool.and_eq_true, decide_eq_true_eq, beq_iff_eq, UInt64.lt_iff_toNat_lt,
    UInt32.le_iff_toNat_le, ← UInt64.toNat_inj, toNanos_eq]
  omega

theorem toNanos_shorter (a b : Span) : (a.shorter b).toNanos = min a.toNanos b.toNanos := by
  unfold shorter
  split
  · rename_i h
    exact (Nat.min_eq_left (atMost_iff.mp h)).symm
  · rename_i h
    have := mt atMost_iff.mpr h
    exact (Nat.min_eq_right (by omega)).symm

theorem toNanos_ofNat {seconds nanos : Nat} (hseconds : seconds < UInt64.size) (hnanos : nanos < nanosPerSecond)
    (h : (UInt32.ofNat nanos).toNat < nanosPerSecond) :
    (⟨.ofNat seconds, .ofNat nanos, h⟩ : Span).toNanos = seconds * nanosPerSecond + nanos := by
  rw [toNanos, UInt64.toNat_ofNat_of_lt' hseconds, UInt32.toNat_ofNat_of_lt' (Nat.lt_trans hnanos (by decide))]

/-- A multiple is exact, unless it is longer than the greatest span. -/
theorem toNanos_times (s : Span) (factor : UInt32) :
    (s.times factor).toNanos = min (s.toNanos * factor.toNat) greatest.toNanos := by
  have product : s.toNanos * factor.toNat =
      s.seconds.toNat * factor.toNat * 1000000000 + s.nanos.toNat * factor.toNat := by
    rw [toNanos_eq, Nat.add_mul, Nat.mul_right_comm]
  have size : UInt64.size = 18446744073709551616 := rfl
  have second : nanosPerSecond = 1000000000 := rfl
  rw [product, toNanos_greatest]
  unfold times
  dsimp only
  split
  · rename_i fits
    rw [toNanos_ofNat fits.2 (Nat.mod_lt _ (by decide))]
    rw [second] at fits ⊢
    omega
  · rename_i too_long
    rw [second] at too_long
    rw [toNanos_greatest]
    omega

theorem toMillis_eq (s : Span) : s.toMillis = s.toNanos / 1000000 := by
  rw [toMillis, toNanos_eq]
  omega

theorem toNanos_ofMillis {ms : Nat} (h : ms < UInt64.size) : (ofMillis ms).toNanos = ms * 1000000 := by
  have fits : ms * 1000000 / nanosPerSecond < UInt64.size := by
    rw [nanosPerSecond]
    omega
  rw [ofMillis, ofNanos, if_pos fits, toNanos_ofNat fits (Nat.mod_lt _ (by decide)), Nat.div_add_mod']

end Span

/-! ### Steps -/

namespace Backoff

theorem toNat_doublings (attempt : UInt32) : (doublings attempt).toNat = min (attempt.toNat - 1) 31 := by
  have before : (if attempt = 0 then 0 else attempt - 1).toNat = attempt.toNat - 1 := by
    split
    · rename_i first
      rw [first]
      rfl
    · rename_i later
      have positive : 1 ≤ attempt.toNat := Nat.one_le_iff_ne_zero.mpr fun zero => later (UInt32.toNat_inj.mp zero)
      exact UInt32.toNat_sub_of_le attempt 1 (UInt32.le_iff_toNat_le.mpr positive)
  have few : (31 : UInt32).toNat = 31 := rfl
  rw [doublings, ← before]
  generalize (if attempt = 0 then 0 else attempt - 1) = n
  show (if n ≤ 31 then n else 31).toNat = min n.toNat 31
  simp only [UInt32.le_iff_toNat_le, few]
  split
  · omega
  · omega

theorem toNat_factor (attempt : UInt32) : ((1 : UInt32) <<< doublings attempt).toNat = 2 ^ min (attempt.toNat - 1) 31 := by
  have few : min (attempt.toNat - 1) 31 < 32 := by omega
  have fits : 2 ^ min (attempt.toNat - 1) 31 < 2 ^ 32 := Nat.pow_lt_pow_right (by decide) few
  rw [UInt32.toNat_shiftLeft, toNat_doublings, Nat.mod_eq_of_lt few, UInt32.toNat_one, Nat.one_shiftLeft, Nat.mod_eq_of_lt fits]

/-- The nanoseconds of the step before an attempt, counted without a bound but the longest step, which is itself a span. -/
def stepNanos (b : Backoff) (attempt : UInt32) : Nat :=
  min (b.base.toNanos * 2 ^ min (attempt.toNat - 1) 31) b.longest.toNanos

/-- The whole milliseconds of the step before an attempt, of which no more than a word holds are counted. -/
def stepMillis (b : Backoff) (attempt : UInt32) : Nat :=
  min (b.stepNanos attempt / 1000000) (UInt64.size - 1)

theorem toNanos_step (b : Backoff) (attempt : UInt32) : (b.step attempt).toNanos = b.stepNanos attempt := by
  have held := b.longest.toNanos_le_greatest
  rw [step, Span.toNanos_shorter, Span.toNanos_times, toNat_factor, stepNanos, Nat.min_assoc, Nat.min_eq_right held]

theorem stepNanos_le_of_le (b : Backoff) {attempt later : UInt32} (h : attempt ≤ later) :
    b.stepNanos attempt ≤ b.stepNanos later := by
  have earlier : min (attempt.toNat - 1) 31 ≤ min (later.toNat - 1) 31 := by
    have := UInt32.le_iff_toNat_le.mp h
    omega
  have grows : b.base.toNanos * 2 ^ min (attempt.toNat - 1) 31 ≤ b.base.toNanos * 2 ^ min (later.toNat - 1) 31 :=
    Nat.mul_le_mul_left _ (Nat.pow_le_pow_right (by decide) earlier)
  unfold stepNanos
  omega

/-! ### Delays -/

theorem delays_eq (b : Backoff) (attempt : UInt32) :
    b.delays attempt = if b.stepMillis attempt < 2 then .exactly (b.step attempt)
      else .millis (b.stepMillis attempt / 2) (b.stepMillis attempt) := by
  rw [stepMillis, ← toNanos_step, ← Span.toMillis_eq]
  rfl

theorem mem_delays_short {b : Backoff} {attempt : UInt32} (h : b.stepMillis attempt < 2) {delay : Span} :
    delay ∈ (b.delays attempt).toList ↔ delay = b.step attempt := by
  rw [delays_eq, if_pos h]
  exact List.mem_singleton

theorem mem_delays {b : Backoff} {attempt : UInt32} (h : 2 ≤ b.stepMillis attempt) {delay : Span} :
    delay ∈ (b.delays attempt).toList ↔
      ∃ ms, b.stepMillis attempt / 2 ≤ ms ∧ ms ≤ b.stepMillis attempt ∧ delay.toNanos = ms * 1000000 := by
  have word : b.stepMillis attempt < UInt64.size := Nat.lt_of_le_of_lt (Nat.min_le_right _ _) (by decide)
  rw [delays_eq, if_neg (Nat.not_lt.mpr h)]
  simp only [DelayRange.toList, List.mem_map, List.mem_range'_1]
  constructor
  · rintro ⟨ms, ⟨least, most⟩, rfl⟩
    have within : ms ≤ b.stepMillis attempt := by omega
    exact ⟨ms, least, within, Span.toNanos_ofMillis (Nat.lt_of_le_of_lt within word)⟩
  · rintro ⟨ms, least, most, length⟩
    refine ⟨ms, by omega, Span.toNanos_inj.mp ?_⟩
    rw [length, Span.toNanos_ofMillis (Nat.lt_of_le_of_lt most word)]

theorem le_step_of_mem_delays {b : Backoff} {attempt : UInt32} {delay : Span} (h : delay ∈ (b.delays attempt).toList) :
    delay.toNanos ≤ b.stepNanos attempt := by
  rcases Nat.lt_or_ge (b.stepMillis attempt) 2 with short | long
  · obtain rfl := (mem_delays_short short).mp h
    exact Nat.le_of_eq (b.toNanos_step attempt)
  · obtain ⟨ms, -, most, length⟩ := (mem_delays long).mp h
    have whole : b.stepMillis attempt ≤ b.stepNanos attempt / 1000000 := Nat.min_le_left _ _
    omega

/-- The step before an attempt is exact, grows with the attempts and is never longer than the longest one. The delays that
    are possible are none but the step itself if that is shorter than two milliseconds, and otherwise exactly the whole
    milliseconds from half of its own, rounded down, to all of them. -/
theorem delays_bounded (b : Backoff) :
    (∀ attempt, (b.step attempt).toNanos = b.stepNanos attempt ∧ b.stepNanos attempt ≤ b.longest.toNanos) ∧
    (∀ attempt later, attempt ≤ later → b.stepNanos attempt ≤ b.stepNanos later) ∧
    ∀ attempt delay,
      (delay ∈ (b.delays attempt).toList → delay.toNanos ≤ b.stepNanos attempt) ∧
      (b.stepMillis attempt < 2 → (delay ∈ (b.delays attempt).toList ↔ delay = b.step attempt)) ∧
      (2 ≤ b.stepMillis attempt → (delay ∈ (b.delays attempt).toList ↔
        ∃ ms, b.stepMillis attempt / 2 ≤ ms ∧ ms ≤ b.stepMillis attempt ∧ delay.toNanos = ms * 1000000)) := by
  refine ⟨fun attempt => ⟨b.toNanos_step attempt, Nat.min_le_right _ _⟩, fun _ _ => b.stepNanos_le_of_le, ?_⟩
  exact fun attempt delay => ⟨le_step_of_mem_delays, fun short => mem_delays_short short, fun long => mem_delays long⟩

/-- Two and a half milliseconds, doubled once: five whole ones, of which half are two. -/
theorem delays_bounded_halved :
    let b : Backoff := ⟨⟨0, 2500000, by decide⟩, ⟨3600, 0, by decide⟩⟩
    b.stepMillis 2 = 5 ∧ Span.ofMillis 2 ∈ (b.delays 2).toList ∧ Span.ofMillis 1 ∉ (b.delays 2).toList := by
  intro b
  have five : b.stepMillis 2 = 5 := by decide
  obtain ⟨-, -, delays⟩ := delays_bounded b
  obtain ⟨-, -, range⟩ := delays 2 (.ofMillis 2)
  obtain ⟨-, -, range'⟩ := delays 2 (.ofMillis 1)
  have long : 2 ≤ b.stepMillis 2 := by decide
  refine ⟨five, (range long).mpr ⟨2, by decide, by decide, by decide⟩, fun mem => ?_⟩
  obtain ⟨ms, least, -, length⟩ := (range' long).mp mem
  have one : (Span.ofMillis 1).toNanos = 1000000 := by decide
  omega

end Backoff

end IdentityServer
