/-
The wait before another attempt, and its jitter.

The wait doubles from attempt to attempt up to a bound.  It is the exact number (`nanos_backoff`):
neither a product that is cut off at the longest span nor a factor that is shifted in a word shows in it.
For the jitter the wait is multiplied by a double up to 5/4.  A wait is so far from the longest span that
there always is a result, however the operations on doubles round (`Scales.exists_ofNumber?`).
-/
import Switchyard.Config
import Switchyard.Proofs.Ieee.Arithmetic
import Switchyard.Retry

namespace Switchyard

/-! ## Doubling -/

namespace RetryPolicy

/-- The attempts between the second and some other one, in a word. -/
def sinceSecond (attempt : UInt32) : UInt32 := if attempt ≤ 2 then 0 else attempt - 2

/-- How often the wait has been doubled before an attempt, in a word. -/
def doublings (attempt : UInt32) : UInt32 :=
  if sinceSecond attempt ≤ 31 then sinceSecond attempt else 31

/-- The wait before an attempt, with a factor that is shifted in a word. -/
def wordDelay (p : RetryPolicy) (attempt : UInt32) : Duration :=
  if p.base.isZero then .zero
  else (p.base.times ((1 : UInt32) <<< doublings attempt).toNat).shorter p.cap

theorem toNat_sinceSecond (attempt : UInt32) : (sinceSecond attempt).toNat = attempt.toNat - 2 := by
  have htwo : (2 : UInt32).toNat = 2 := rfl
  rw [sinceSecond]
  by_cases hearly : attempt ≤ 2
  · have hfew : attempt.toNat ≤ 2 := UInt32.le_iff_toNat_le.1 hearly
    rw [if_pos hearly, Nat.sub_eq_zero_of_le hfew]
    rfl
  · have hmany : 2 < attempt.toNat := Nat.not_le.1 fun h => hearly (UInt32.le_iff_toNat_le.2 h)
    rw [if_neg hearly, UInt32.toNat_sub_of_le _ _ (UInt32.le_iff_toNat_le.2 (by omega)), htwo]

theorem toNat_doublings (attempt : UInt32) :
    (doublings attempt).toNat = min (attempt.toNat - 2) 31 := by
  have hmost : (31 : UInt32).toNat = 31 := rfl
  rw [doublings]
  simp only [UInt32.le_iff_toNat_le, toNat_sinceSecond, hmost]
  split
  · rw [toNat_sinceSecond]
    omega
  · omega

theorem doublings_lt (attempt : UInt32) : (doublings attempt).toNat < 32 := by
  rw [toNat_doublings]
  omega

/-- No bit is shifted out of the word. -/
theorem toNat_shift_doublings (attempt : UInt32) :
    ((1 : UInt32) <<< doublings attempt).toNat = 2 ^ min (attempt.toNat - 2) 31 := by
  have hone : (1 : UInt32).toNat = 1 := rfl
  have hfits : 2 ^ (doublings attempt).toNat < 2 ^ 32 :=
    Nat.pow_lt_pow_right (by decide) (doublings_lt attempt)
  rw [UInt32.toNat_shiftLeft, Nat.mod_eq_of_lt (doublings_lt attempt), hone, Nat.one_shiftLeft,
    Nat.mod_eq_of_lt hfits, toNat_doublings]

theorem backoff_of_isZero {p : RetryPolicy} (hzero : p.base.isZero = true) (attempt : Nat) :
    p.backoff attempt = .zero := by
  have hbase : p.base.nanos = 0 := eq_of_beq hzero
  rw [backoff, Duration.times, hbase, Nat.zero_mul, Nat.zero_min, Duration.shorter, Nat.zero_min]
  rfl

theorem wordDelay_eq (p : RetryPolicy) (attempt : UInt32) :
    p.wordDelay attempt = p.backoff attempt.toNat := by
  rw [wordDelay, toNat_shift_doublings]
  split
  · rename_i hzero
    exact (backoff_of_isZero hzero _).symm
  · rfl

section Exact

variable {p : RetryPolicy} (hcap : p.cap.nanos ≤ Duration.longest.nanos)
include hcap

/-- A product that is cut off is longer than the bound anyway. -/
theorem nanos_backoff (attempt : Nat) :
    (p.backoff attempt).nanos = min (p.base.nanos * 2 ^ min (attempt - 2) 31) p.cap.nanos := by
  show min (min (p.base.nanos * 2 ^ min (attempt - 2) 31) Duration.longest.nanos) p.cap.nanos = _
  rw [Nat.min_assoc, Nat.min_eq_right hcap]

theorem nanos_backoff_le (attempt : Nat) : (p.backoff attempt).nanos ≤ p.cap.nanos := by
  rw [nanos_backoff hcap]
  exact Nat.min_le_right _ _

theorem nanos_backoff_mono {attempt later : Nat} (h : attempt ≤ later) :
    (p.backoff attempt).nanos ≤ (p.backoff later).nanos := by
  have hdoublings : min (attempt - 2) 31 ≤ min (later - 2) 31 := by omega
  have hfactor : 2 ^ min (attempt - 2) 31 ≤ 2 ^ min (later - 2) 31 :=
    Nat.pow_le_pow_right (by decide) hdoublings
  have hproduct := Nat.mul_le_mul_left p.base.nanos hfactor
  rw [nanos_backoff hcap, nanos_backoff hcap]
  omega

end Exact

end RetryPolicy

/-! ## Jitter -/

namespace Duration

theorem eq_of_nanos {d e : Duration} (h : d.nanos = e.nanos) : d = e := by
  cases d
  cases e
  exact congrArg mk h

/-- What the seconds of a span, multiplied by a factor, may come to.  The whole seconds and the nanoseconds
are rounded to doubles, then the nanoseconds are divided, both are added, and the factor is applied. -/
def Scales (d : Duration) (factor x : Double) : Prop :=
  ∃ whole nanos fraction seconds : Double,
    Double.Rounds d.seconds whole ∧
    Double.Rounds (d.nanos % 1000000000 : Nat) nanos ∧
    Double.Rounds (nanos.number / 1000000000) fraction ∧
    Double.Rounds (whole.number + fraction.number) seconds ∧
    Double.Rounds (factor.number * seconds.number) x

theorem exists_ofNumber?_of_le {x : Double} {n : Nat} (hfinite : x.isFinite = true) (hzero : 0 ≤ x.number)
    (hx : x.number ≤ n) (hroom : n * 1000000000 ≤ longest.nanos) : ∃ d, ofNumber? x = some d := by
  have hsign : x.isNonNegative = true := Double.isNonNegative_of_number hzero hfinite
  have hunits : x.units ≤ n * Double.perOne := Double.units_le_of_number_le hzero hx
  have hproduct : x.units * 1000000000 ≤ n * 1000000000 * Double.perOne := by
    rw [Nat.mul_right_comm]
    exact Nat.mul_le_mul_right _ hunits
  have hnanos : Double.roundDiv (x.units * 1000000000) Double.perOne ≤ n * 1000000000 :=
    Double.roundDiv_le Double.perOne_pos hproduct
  exact ⟨_, if_pos ⟨hfinite, hsign, hnanos.trans hroom⟩⟩

/-! ## Seconds

A span is converted in four rounded steps, none of which goes far beyond its exact result. -/

section Seconds

variable {d : Duration} {whole nanos fraction seconds : Double}

theorem whole_bounds (h : Double.Rounds d.seconds whole) (hd : d.seconds ≤ 2 ^ 55) :
    whole.isFinite = true ∧ 0 ≤ whole.number ∧ whole.number ≤ 2 ^ 55 :=
  h.le_two_pow (by decide) (Nat.cast_nonneg _) (by exact_mod_cast hd)

theorem nanos_bounds (h : Double.Rounds (d.nanos % 1000000000 : Nat) nanos) :
    nanos.isFinite = true ∧ 0 ≤ nanos.number ∧ nanos.number ≤ 2 ^ 30 := by
  have hpart : d.nanos % 1000000000 ≤ 2 ^ 30 := by omega
  exact h.le_two_pow (by decide) (Nat.cast_nonneg _) (by exact_mod_cast hpart)

/-- The nanoseconds may be rounded up to a whole second. -/
theorem fraction_bounds (h : Double.Rounds (nanos.number / 1000000000) fraction) (hzero : 0 ≤ nanos.number)
    (hnanos : nanos.number ≤ 2 ^ 30) :
    fraction.isFinite = true ∧ 0 ≤ fraction.number ∧ fraction.number ≤ 2 ^ 1 :=
  h.le_two_pow (by decide) (by positivity) (by linarith)

theorem seconds_bounds (h : Double.Rounds (whole.number + fraction.number) seconds)
    (hwhole : 0 ≤ whole.number ∧ whole.number ≤ 2 ^ 55)
    (hfraction : 0 ≤ fraction.number ∧ fraction.number ≤ 2 ^ 1) :
    seconds.isFinite = true ∧ 0 ≤ seconds.number ∧ seconds.number ≤ 2 ^ 56 :=
  h.le_two_pow (by decide) (add_nonneg hwhole.1 hfraction.1) (by linarith)

end Seconds

/-- A span of no more than 2⁵⁵ seconds can be multiplied by a double up to 5/4. -/
theorem Scales.exists_ofNumber? {d : Duration} {factor x : Double} (h : d.Scales factor x)
    (hd : d.seconds ≤ 2 ^ 55) (hzero : 0 ≤ factor.number) (hfactor : factor.number ≤ 5 / 4) :
    ∃ d', ofNumber? x = some d' := by
  obtain ⟨whole, nanos, fraction, seconds, hwhole, hnanos, hfraction, hseconds, hx⟩ := h
  obtain ⟨-, hnanosZero, hnanosLe⟩ := nanos_bounds hnanos
  have hwholeBounds := (whole_bounds hwhole hd).2
  have hfractionBounds := (fraction_bounds hfraction hnanosZero hnanosLe).2
  obtain ⟨-, hsecondsZero, hsecondsLe⟩ := seconds_bounds hseconds hwholeBounds hfractionBounds
  have hproduct : factor.number * seconds.number ≤ 2 ^ 57 :=
    calc factor.number * seconds.number ≤ 5 / 4 * 2 ^ 56 := by gcongr
      _ ≤ 2 ^ 57 := by norm_num
  obtain ⟨hfinite, hxZero, hxLe⟩ := hx.le_two_pow (by decide) (by positivity) hproduct
  have hroom : 2 ^ 57 * 1000000000 ≤ longest.nanos := by decide
  exact exists_ofNumber?_of_le hfinite hxZero (by exact_mod_cast hxLe) hroom

theorem number_billion :
    (Double.ofNat 1000000000).isFinite = true ∧ (Double.ofNat 1000000000).number = 1000000000 := by
  have hunits : (Double.ofNat 1000000000).units = 1000000000 * Double.perOne := by decide +kernel
  refine ⟨by decide +kernel, ?_⟩
  rw [Double.number_of_units (by decide +kernel) hunits]
  norm_num

/-- The multiplication that is made is one of these. -/
theorem scales_mul {d : Duration} {factor : Double} (hd : d.seconds ≤ 2 ^ 55)
    (hfactor : factor.isFinite = true) : d.Scales factor (factor.mul d.asDouble) := by
  obtain ⟨hbillion, hnumber⟩ := number_billion
  have hwhole := Double.rounds_ofNat d.seconds
  have hnanos := Double.rounds_ofNat (d.nanos % 1000000000)
  obtain ⟨hwholeFinite, hwholeBounds⟩ := whole_bounds hwhole hd
  obtain ⟨hnanosFinite, hnanosZero, hnanosLe⟩ := nanos_bounds hnanos
  have hfraction := Double.rounds_div hnanosFinite hbillion (by rw [hnumber]; norm_num)
  rw [hnumber] at hfraction
  obtain ⟨hfractionFinite, hfractionBounds⟩ := fraction_bounds hfraction hnanosZero hnanosLe
  have hseconds := Double.rounds_add hwholeFinite hfractionFinite
  obtain ⟨hsecondsFinite, -⟩ := seconds_bounds hseconds hwholeBounds hfractionBounds
  exact ⟨_, _, _, _, hwhole, hnanos, hfraction, hseconds, Double.rounds_mul hfactor hsecondsFinite⟩

theorem number_one : Double.one.number = 1 := by
  rw [Double.number_of_units (n := 1) (by decide +kernel) (by decide +kernel), Nat.cast_one]

/-- The factor of the longest jitter. -/
def fiveQuarters : Double := ⟨0x3FF4000000000000⟩

theorem number_fiveQuarters : fiveQuarters.number = 5 / 4 := by
  have hunits : 4 * fiveQuarters.units = 5 * Double.perOne := by decide +kernel
  have hcast : (4 : ℚ) * fiveQuarters.units = 5 * Double.perOne := by exact_mod_cast hunits
  rw [Double.number_of_not_negative (by decide +kernel),
    div_eq_div_iff Double.cast_perOne_pos.ne' (by norm_num)]
  linarith

theorem isFinite_of_number_le {x : Double} (hzero : 0 ≤ x.number) (hx : x.number ≤ 5 / 4) :
    x.isFinite = true := by
  have hmost : fiveQuarters.isFinite = true := by decide +kernel
  rw [Double.isFinite_iff, number_fiveQuarters, abs_of_nonneg (by norm_num)] at hmost
  rw [Double.isFinite_iff, abs_of_nonneg hzero]
  exact hx.trans hmost

/-- What is drawn is added to one, and the sum is not rounded beyond 5/4. -/
theorem number_jitter {draw : Double} (hzero : 0 ≤ draw.number) (hdraw : draw.number ≤ 1 / 4) :
    1 ≤ (Double.one.add draw).number ∧ (Double.one.add draw).number ≤ 5 / 4 := by
  have hfinite := isFinite_of_number_le hzero (by linarith)
  have hone : Double.one.isFinite = true := by decide +kernel
  have hmost : fiveQuarters.isFinite = true := by decide +kernel
  have hle : Double.one.number ≤ Double.one.number + draw.number := by linarith
  have hge : Double.one.number + draw.number ≤ fiveQuarters.number := by
    rw [number_one, number_fiveQuarters]
    linarith
  have hbetween := ((Double.rounds_add hone hfinite).between hone hmost hle hge).2
  rwa [number_one, number_fiveQuarters] at hbetween

end Duration

/-! ## Configured waits -/

namespace RetryPolicy

theorem nanos_cap_le (c : Config) (hmax : c.retry.backoffMaxMillis < UInt64.size) :
    c.retryPolicy.cap.nanos ≤ (UInt64.size - 1) * 1000000 := by
  have hmillis : c.retry.backoffMaxMillis ≤ UInt64.size - 1 := Nat.le_sub_one_of_lt hmax
  exact Nat.mul_le_mul_right 1000000 hmillis

/-- In whole milliseconds, as the wait is configured. -/
theorem backoff_retryPolicy {c : Config} (hcap : c.retryPolicy.cap.nanos ≤ Duration.longest.nanos)
    (attempt : Nat) :
    c.retryPolicy.backoff attempt = if c.retry.backoffBaseMillis = 0 then .zero else
      .ofMillis (min (c.retry.backoffBaseMillis * 2 ^ min (attempt - 2) 31) c.retry.backoffMaxMillis) := by
  have hbase : c.retryPolicy.base.nanos = c.retry.backoffBaseMillis * 1000000 := rfl
  have hmost : c.retryPolicy.cap.nanos = c.retry.backoffMaxMillis * 1000000 := rfl
  by_cases hzero : c.retry.backoffBaseMillis = 0
  · have hnone : c.retryPolicy.base.isZero = true := by rw [Duration.isZero, hbase, hzero]; rfl
    rw [if_pos hzero, backoff_of_isZero hnone]
  · have hnanos := nanos_backoff hcap attempt
    rw [hbase, hmost, Nat.mul_right_comm, Nat.mul_min_mul_right] at hnanos
    rw [if_neg hzero]
    exact Duration.eq_of_nanos hnanos

/-- **The back-off is exact, for all words that can be configured.**  Before jitter it is zero without a
base, and otherwise the base, doubled for each attempt since the second one but no more than 31 times, and cut
off at the bound.  It never falls from one attempt to a later one, and it stays within the bound.  The shift
of the factor stays within its word and changes nothing.  With a quarter added the wait is still a span, and
whatever number the multiplication by a factor from 1 to 5/4 is rounded to, there is a span of so many
seconds.  So whatever is drawn from zero up to a quarter, there is a jittered wait, and it is the one that is
waited where there is a base. -/
theorem backoff_exact (c : Config) (hmax : c.retry.backoffMaxMillis < UInt64.size) (attempt : UInt32) :
    let delay := c.retryPolicy.backoff attempt.toNat
    (delay = if c.retry.backoffBaseMillis = 0 then .zero else
      .ofMillis (min (c.retry.backoffBaseMillis * 2 ^ min (attempt.toNat - 2) 31)
        c.retry.backoffMaxMillis)) ∧
    (∀ later : UInt32, attempt ≤ later →
      delay.nanos ≤ (c.retryPolicy.backoff later.toNat).nanos) ∧
    delay.nanos ≤ (Duration.ofMillis c.retry.backoffMaxMillis).nanos ∧
    (doublings attempt).toNat < 32 ∧ c.retryPolicy.wordDelay attempt = delay ∧
    5 * delay.nanos ≤ 4 * Duration.longest.nanos ∧
    (∀ factor : Double, 1 ≤ factor.number → factor.number ≤ 5 / 4 →
      (∃ x, delay.Scales factor x) ∧
        ∀ x, delay.Scales factor x → ∃ jittered, Duration.ofNumber? x = some jittered) ∧
    ∀ draw : Double, 0 ≤ draw.number → draw.number ≤ 1 / 4 →
      ∃ jittered, delay.scaled? (Double.one.add draw) = some jittered ∧
        c.retryPolicy.delayBefore attempt.toNat draw =
          if c.retryPolicy.base.isZero then .zero else jittered := by
  have hbound := nanos_cap_le c hmax
  have hlongest : 5 * ((UInt64.size - 1) * 1000000) ≤ 4 * Duration.longest.nanos := by decide
  have hcap : c.retryPolicy.cap.nanos ≤ Duration.longest.nanos := by omega
  have hdelay := nanos_backoff_le hcap attempt.toNat
  have hseconds : (c.retryPolicy.backoff attempt.toNat).seconds ≤ 2 ^ 55 := by
    have hword : (UInt64.size - 1) * 1000000 ≤ 2 ^ 55 * 1000000000 := by decide
    rw [Duration.seconds]
    omega
  refine ⟨backoff_retryPolicy hcap attempt.toNat, ?_, hdelay, doublings_lt attempt,
    wordDelay_eq _ attempt, by omega, ?_, ?_⟩
  · intro later hlater
    exact nanos_backoff_mono hcap (UInt32.le_iff_toNat_le.1 hlater)
  · intro factor hone hfactor
    have hzero := zero_le_one.trans hone
    have hfinite := Duration.isFinite_of_number_le hzero hfactor
    exact ⟨⟨_, Duration.scales_mul hseconds hfinite⟩, fun x hx =>
      hx.exists_ofNumber? hseconds hzero hfactor⟩
  · intro draw hdrawn hdraw
    obtain ⟨hone, hmost⟩ := Duration.number_jitter hdrawn hdraw
    have hzero := zero_le_one.trans hone
    have hfinite := Duration.isFinite_of_number_le hzero hmost
    obtain ⟨jittered, hjittered⟩ := (Duration.scales_mul hseconds hfinite).exists_ofNumber? hseconds
      hzero hmost
    have hscaled : (c.retryPolicy.backoff attempt.toNat).scaled? (Double.one.add draw) = some jittered :=
      hjittered
    refine ⟨jittered, hscaled, ?_⟩
    rw [delayBefore, hscaled, Option.getD_some]

/-- With the largest words the product is cut off at the last attempt, but the wait is not. -/
theorem backoff_exact_largest :
    (Duration.ofMillis 18446744073709551615).times (2 ^ 31) = Duration.longest ∧
      backoff (Config.retryPolicy { retry :=
        { backoffBaseMillis := 18446744073709551615, backoffMaxMillis := 18446744073709551615 } })
        (4294967295 : UInt32).toNat = .ofMillis 18446744073709551615 := by
  have hcut : Duration.longest.nanos ≤ 18446744073709551615 * 1000000 * 2 ^ 31 := by decide
  refine ⟨Duration.eq_of_nanos (Nat.min_eq_right hcut), ?_⟩
  obtain ⟨hdelay, -⟩ := backoff_exact { retry :=
    { backoffBaseMillis := 18446744073709551615, backoffMaxMillis := 18446744073709551615 } }
    (by decide) 4294967295
  rw [hdelay]
  rfl

end RetryPolicy

end Switchyard
